import Chassis.Proof.Network.Step

namespace Chassis.Netipmid
open Data Effect LittleEndian Manager

variable {daemon : Daemon} {moment : Moment} {elsewhere : Elsewhere} {permits : Permits}
  {manager after : Manager}

theorem steps_of_returned {Value : Type} {done : Manager × Value} {value : Value}
    (steps : Steps daemon permits manager done.1) (returned : some done = some (after, value)) :
    Steps daemon permits manager after := by
  rw [Option.some.injEq] at returned
  rw [returned] at steps
  exact steps

section Commands

theorem openSession_steps (kept : manager.Kept daemon) {inPayload : List UInt8}
    {outPayload : Result (List UInt8)} (timed : moment.now = permits.now) (cleans : permits.cleans)
    (permitted : permits.opens (OpenSessionRequest.ofBytes inPayload) moment.randoms)
    (returned : openSession moment manager inPayload = some (after, outPayload)) :
    Steps daemon permits manager after := by
  unfold openSession at returned
  dsimp only at returned
  split at returned
  · exact steps_of_returned .refl returned
  split at returned
  · exact steps_of_returned .refl returned
  split at returned
  · exact steps_of_returned .refl returned
  split at returned
  · exact steps_of_returned .refl returned
  rw [Option.map_eq_some_iff] at returned
  obtain ⟨⟨started, result⟩, opening, returned⟩ := returned
  rcases startSession_cases kept.sound opening with
    ⟨cleaned, ⟨text, refused⟩, _⟩ | ⟨sessionID, slot, accepted, vacant, drawn, inserted⟩
  · rw [refused] at returned
    cases returned
    rw [cleaned]
    exact .single (.cleaned manager timed cleans)
  · rw [accepted] at returned
    cases returned
    rw [inserted]
    exact .tail (.single (.cleaned manager timed cleans)) (.opened vacant drawn permitted)

theorem RAKP12_steps (inPayload : List UInt8)
    (permitted : ∀ session, permits.deed (RAKP1request.ofBytes inPayload).managedSystemSessionID session
      (.rakp12 moment (RAKP1request.ofBytes inPayload))) :
    Steps daemon permits manager (RAKP12 daemon moment manager inPayload).1 := by
  unfold RAKP12
  dsimp only
  split
  · exact .refl
  split
  · exact .refl
  next ordinary =>
    split
    · exact .refl
    next session found =>
      split
      · exact .refl
      · exact .single (.deed found ordinary (permitted session))

theorem RAKP34_steps (inPayload : List UInt8)
    (permitted : ∀ session, permits.deed (readWord (field inPayload 4 4)) session
      (.rakp34 moment inPayload)) :
    Steps daemon permits manager (RAKP34 daemon moment manager inPayload).1 := by
  unfold RAKP34
  dsimp only
  split
  · exact .refl
  split
  · exact .refl
  next ordinary =>
    split
    · exact .refl
    next session found => exact .single (.deed found ordinary (permitted session))

theorem getSession_ok {sessionID : UInt32} {session : Session}
    (got : manager.getSession sessionID = .ok session) : manager.find sessionID = some session := by
  unfold getSession at got
  split at got
  next found => rw [found, Except.ok.inj got]
  next => cases got

theorem setSessionPrivilegeLevel_steps {sessionID : UInt32} (ordinary : sessionID ≠ sessionZero)
    (permitted : ∀ session level, permits.deed sessionID session (.setPrivilegeLevel level))
    (inPayload : List UInt8) :
    Steps daemon permits manager (setSessionPrivilegeLevel manager sessionID inPayload).1 := by
  unfold setSessionPrivilegeLevel
  split
  · split
    · exact .refl
    · split
      · exact .refl
      next session got => exact .single (.deed (getSession_ok got) ordinary (permitted session _))
  · exact .refl

theorem stopSession_steps (kept : manager.Kept daemon) {sessionID : UInt32}
    (ordinary : sessionID ≠ sessionZero)
    (permitted : ∀ session, manager.find sessionID = some session →
      permits.deed sessionID session .tornDown) :
    Steps daemon permits manager (manager.stopSession sessionID).1 := by
  unfold stopSession
  split
  next session found =>
    dsimp only
    rw [kept.sound.update_found found]
    have torn := permitted session found
    exact .single (.deed found ordinary torn)
  · exact .refl

theorem closeMyNetInstanceSession_steps (kept : manager.Kept daemon) (reqSessionId : UInt32)
    (reqSessionHandle currentSessionPriv : UInt8)
    (permitted : ∀ sessionID session, session.currentPrivilege ≤ currentSessionPriv →
      permits.deed sessionID session .tornDown) :
    Steps daemon permits manager
      (closeMyNetInstanceSession manager reqSessionId reqSessionHandle currentSessionPriv).1 := by
  unfold closeMyNetInstanceSession
  dsimp only
  generalize (if reqSessionId = sessionZero then
    manager.getSessionIDbyHandle (reqSessionHandle &&& multiIntfaceSessionHandleMask)
    else reqSessionId) = named
  split
  · exact .refl
  next ordinary =>
    split
    · exact .refl
    next target found =>
      split
      · exact .refl
      next lower =>
        have steps : Steps daemon permits manager (manager.stopSession named).1 := by
          apply stopSession_steps kept ordinary
          intro session stood
          rw [found, Option.some.injEq] at stood
          exact permitted named session (stood ▸ UInt8.not_lt.mp lower)
        split
        next stopped same => rwa [same] at steps
        next stopped same => rwa [same] at steps

theorem closeSession_steps (kept : manager.Kept daemon) (sessionID : UInt32)
    (inPayload : List UInt8)
    (permitted : ∀ closer, manager.find sessionID = some closer → ∀ other session,
      session.currentPrivilege ≤ closer.currentPrivilege → permits.deed other session .tornDown) :
    Steps daemon permits manager (closeSession moment manager sessionID inPayload).1 := by
  unfold closeSession
  dsimp only
  generalize (if inPayload.length = 5 then inPayload.getD 4 0 else 0) = reqSessionHandle
  split
  · exact .refl
  split
  · exact .refl
  split
  · exact .refl
  split
  · exact .refl
  split
  · exact .refl
  next closer got =>
    split
    · exact closeMyNetInstanceSession_steps kept _ _ _ (permitted closer (getSession_ok got))
    · exact .refl

end Commands

section Dispatch

/-- What a message may do to the sessions: those of the setup name the session themselves, and the
others come from the session that changes its level or closes a session of no higher one. -/
def Message.Permits (moment : Moment) (level : UInt8) (message : Message) : Manager.Permits where
  now := moment.now
  deed sessionID session
    | .counted => message.bmcSessionID = sessionID
    | .rakp12 own request => own = moment ∧ message.payloadType = payloadTypeRakp1 ∧
        request = RAKP1request.ofBytes message.payload ∧ request.managedSystemSessionID = sessionID
    | .rakp34 own inPayload => own = moment ∧ message.payloadType = payloadTypeRakp3 ∧
        inPayload = message.payload ∧ readWord (field inPayload 4 4) = sessionID
    | .setPrivilegeLevel _ => message.payloadType = payloadTypeIpmi ∧
        message.bmcSessionID = sessionID
    | .tornDown => message.payloadType = payloadTypeIpmi ∧ message.bmcSessionID ≠ sessionZero ∧
        session.currentPrivilege ≤ level
  cleans := message.payloadType = payloadTypeOpenSessionRequest
  opens request randoms := message.payloadType = payloadTypeOpenSessionRequest ∧
    request = OpenSessionRequest.ofBytes message.payload ∧ randoms = moment.randoms

/-- The type of the payload is above the function and the command. -/
theorem getCommand_type {message : Message} {command : UInt32}
    (read : message.getCommand = .ok command) :
    command >>> 16 = message.payloadType.toUInt32 := by
  have type := forall_byte (fun byte => (byte.toUInt32 <<< 16) >>> 16 == byte.toUInt32)
    (by decide +kernel) message.payloadType
  unfold Message.getCommand at read
  dsimp only at read
  split at read
  · rw [bind_eq_ok] at read
    obtain ⟨netfn, _, read⟩ := read
    rw [bind_eq_ok] at read
    obtain ⟨cmd, _, same⟩ := read
    cases same
    have high := forall_byte (fun byte => (byte.toUInt32 <<< 8) >>> 16 == 0) (by decide +kernel) netfn
    have low := forall_byte (fun byte => byte.toUInt32 >>> 16 == 0) (by decide +kernel) cmd
    rw [UInt32.shiftRight_or, UInt32.shiftRight_or, beq_iff_eq.mp type, beq_iff_eq.mp high,
      beq_iff_eq.mp low, UInt32.or_zero, UInt32.or_zero]
  · cases read
    exact beq_iff_eq.mp type

theorem payloadType_of_command {message : Message} {command : UInt32} {payloadType : UInt8}
    (read : message.getCommand = .ok command) (named : command >>> 16 = payloadType.toUInt32) :
    message.payloadType = payloadType := by
  rw [getCommand_type read] at named
  exact UInt8.toUInt32_inj.mp named

/-- The entries of the table stand under the types of their messages, and those that act for a session
ask for one. -/
theorem commandTable_types {command : UInt32} {entry : NetIpmidEntry}
    (registered : commandTable.lookup command = some entry) :
    (entry.functor = .openSession →
      command >>> 16 = payloadTypeOpenSessionRequest.toUInt32) ∧
    (entry.functor = .RAKP12 → command >>> 16 = payloadTypeRakp1.toUInt32) ∧
    (entry.functor = .RAKP34 → command >>> 16 = payloadTypeRakp3.toUInt32) ∧
    (entry.functor = .setSessionPrivilegeLevel ∨ entry.functor = .closeSession →
      command >>> 16 = payloadTypeIpmi.toUInt32 ∧ entry.sessionless = false) := by
  have checked : ∀ pair ∈ commandTable,
      (pair.2.functor = .openSession →
        pair.1 >>> 16 = payloadTypeOpenSessionRequest.toUInt32) ∧
      (pair.2.functor = .RAKP12 → pair.1 >>> 16 = payloadTypeRakp1.toUInt32) ∧
      (pair.2.functor = .RAKP34 → pair.1 >>> 16 = payloadTypeRakp3.toUInt32) ∧
      (pair.2.functor = .setSessionPrivilegeLevel ∨ pair.2.functor = .closeSession →
        pair.1 >>> 16 = payloadTypeIpmi.toUInt32 ∧ pair.2.sessionless = false) := by decide
  exact checked _ (mem_of_lookup registered)

variable {message : Message} {level : UInt8}

/-- A registered command does only what its message permits. -/
theorem executeCommand_steps (kept : manager.Kept daemon) {closer : Session}
    (found : manager.find message.bmcSessionID = some closer)
    (same : closer.currentPrivilege = level) {command : UInt32} {entry : NetIpmidEntry}
    (read : message.getCommand = .ok command)
    (registered : commandTable.lookup command = some entry) {commandData : List UInt8}
    (whole : message.payloadType ≠ payloadTypeIpmi → commandData = message.payload)
    {outPayload : Result (List UInt8)}
    (returned : entry.executeCommand daemon moment elsewhere manager message.bmcSessionID
      commandData = some (after, outPayload)) :
    Steps daemon (message.Permits moment level) manager after := by
  obtain ⟨opens, first, third, acts⟩ := commandTable_types registered
  unfold NetIpmidEntry.executeCommand at returned
  split at returned
  · exact steps_of_returned .refl returned
  next permitted =>
    unfold Functor.run at returned
    split at returned
    next functor =>
      have type := payloadType_of_command read (opens functor)
      have same := whole (by rw [type]; decide)
      exact openSession_steps kept rfl type ⟨type, by rw [same], rfl⟩ returned
    next functor =>
      have type := payloadType_of_command read (first functor)
      have same := whole (by rw [type]; decide)
      exact steps_of_returned (RAKP12_steps commandData
        fun session => ⟨rfl, type, by rw [same], rfl⟩) returned
    next functor =>
      have type := payloadType_of_command read (third functor)
      have same := whole (by rw [type]; decide)
      exact steps_of_returned (RAKP34_steps commandData
        fun session => ⟨rfl, type, by rw [same], rfl⟩) returned
    next functor =>
      obtain ⟨named, session⟩ := acts (Or.inl functor)
      have type := payloadType_of_command read named
      have ordinary : message.bmcSessionID ≠ sessionZero := fun zero => permitted ⟨session, zero⟩
      have own : ∀ session wanted, (message.Permits moment level).deed message.bmcSessionID session
          (.setPrivilegeLevel wanted) := fun _ _ => ⟨type, rfl⟩
      exact steps_of_returned (setSessionPrivilegeLevel_steps ordinary own commandData) returned
    next functor =>
      obtain ⟨named, session⟩ := acts (Or.inr functor)
      have type := payloadType_of_command read named
      have ordinary : message.bmcSessionID ≠ sessionZero := fun zero => permitted ⟨session, zero⟩
      apply steps_of_returned (closeSession_steps kept message.bmcSessionID commandData _) returned
      intro own stood other session lower
      rw [found, Option.some.injEq] at stood
      exact ⟨type, ordinary, by rw [← same, stood]; exact lower⟩
    · exact steps_of_returned .refl returned

theorem table_executeCommand_steps (kept : manager.Kept daemon) {closer : Session}
    (found : manager.find message.bmcSessionID = some closer)
    (same : closer.currentPrivilege = level) {command : UInt32}
    (read : message.getCommand = .ok command) {commandData : List UInt8}
    (whole : message.payloadType ≠ payloadTypeIpmi → commandData = message.payload)
    {output : Result Output}
    (returned : Table.executeCommand daemon moment elsewhere manager message.bmcSessionID command
      commandData = some (after, output)) :
    Steps daemon (message.Permits moment level) manager after := by
  unfold Table.executeCommand at returned
  split at returned
  · split at returned
    · exact steps_of_returned .refl returned
    · split at returned
      · exact steps_of_returned .refl returned
      · split at returned <;> exact steps_of_returned .refl returned
  next entry registered =>
    have run : ∀ {output}, (entry.executeCommand daemon moment elsewhere manager
        message.bmcSessionID commandData).map (fun done => (done.1, done.2.map Output.payload)) =
          some (after, output) →
        Steps daemon (message.Permits moment level) manager after := by
      intro output ran
      obtain ⟨⟨changed, outPayload⟩, executed, paired⟩ := Option.map_eq_some_iff.mp ran
      cases paired
      exact executeCommand_steps kept found same read registered whole executed
    dsimp only at returned
    split at returned
    · exact run returned
    · split at returned
      · exact steps_of_returned .refl returned
      · split at returned
        · exact steps_of_returned .refl returned
        · exact run returned

theorem handler_executeCommand_steps (kept : manager.Kept daemon) {closer : Session}
    (found : manager.find message.bmcSessionID = some closer)
    (same : closer.currentPrivilege = level) {session : Session} {output : Result Output}
    (returned : Handler.executeCommand daemon moment elsewhere manager session message =
      some (after, output)) :
    Steps daemon (message.Permits moment level) manager after := by
  unfold Handler.executeCommand at returned
  split at returned
  · exact steps_of_returned .refl returned
  next command read =>
    split at returned
    next ipmi =>
      split at returned
      · split at returned
        · exact steps_of_returned .refl returned
        · exact table_executeCommand_steps kept found same read (absurd ipmi) returned
      · exact steps_of_returned .refl returned
    next => exact table_executeCommand_steps kept found same read (fun _ => rfl) returned

end Dispatch

section Answer

/-- An answer counts in the session that sends it, and nothing else. -/
theorem flatten_cases (crypto : Crypto) (iv : Block) (outMessage : Message) (header : SessionHeader)
    (session : Session) :
    (Parser.flatten crypto iv outMessage header session).2 = session ∨
      outMessage.rcSessionID ≠ sessionZero ∧
        (Parser.flatten crypto iv outMessage header session).2 =
          { session with sequenceOut := session.sequenceOut + 1 } := by
  cases header with
  | ipmi15 => exact Or.inl rfl
  | ipmi20 =>
      unfold Parser.flatten Ipmi20Parser.flatten Ipmi20Parser.addSequenceNumber
      by_cases zero : outMessage.rcSessionID = sessionZero
      · simp [zero]
      · simp [zero]

theorem createResponse_rcSessionID {inMessage outMessage : Message} {outPayload : List UInt8}
    (created : inMessage.createResponse outPayload = .ok (some outMessage)) :
    outMessage.rcSessionID = inMessage.rcSessionID := by
  unfold Message.createResponse at created
  split at created
  · cases created
  · rw [bind_eq_ok] at created
    obtain ⟨payload, _, same⟩ := created
    cases same
    rfl

/-- What is sent outside of sessions does not count. -/
theorem send_steps {session : Session} {inMessage : Message} {header : SessionHeader}
    {outPayload : List UInt8}
    (counted : inMessage.bmcSessionID = sessionZero → inMessage.rcSessionID = sessionZero)
    (permitted : ∀ session, permits.deed inMessage.bmcSessionID session .counted) :
    Steps daemon permits manager
      (Handler.send daemon moment manager session inMessage header outPayload).1 := by
  unfold Handler.send
  split
  · exact .refl
  · exact .refl
  next outMessage created =>
    have written : Steps daemon permits manager (manager.update inMessage.bmcSessionID fun _ =>
        (Parser.flatten daemon.crypto moment.iv outMessage header
          ((manager.find inMessage.bmcSessionID).getD session)).2) := by
      cases found : manager.find inMessage.bmcSessionID with
      | none => rw [update_absent found]
      | some own =>
          rw [Option.getD_some]
          rcases flatten_cases daemon.crypto moment.iv outMessage header own with
            same | ⟨inside, next⟩
          · rw [same]
            exact .single (.touched found (Or.inl rfl))
          · have ordinary : inMessage.bmcSessionID ≠ sessionZero := by
              intro zero
              rw [createResponse_rcSessionID created, counted zero] at inside
              exact inside rfl
            rw [next]
            have allowed := permitted own
            exact .single (.deed found ordinary allowed)
    dsimp only
    split <;> exact written

theorem react_steps {session : Session} {inMessage : Message} {header : SessionHeader}
    (counted : inMessage.bmcSessionID = sessionZero → inMessage.rcSessionID = sessionZero)
    (permitted : ∀ session, permits.deed inMessage.bmcSessionID session .counted)
    (output : Result Output) :
    Steps daemon permits manager
      (Handler.react daemon moment manager session inMessage header output).1 := by
  rcases output with failure | output
  · exact .refl
  · cases output with
    | nothing => exact .refl
    | forward request => exact .refl
    | payload outPayload => exact send_steps counted permitted

/-- A packet does only what its message permits. -/
theorem processIncoming_steps (kept : manager.Kept daemon) {inPacket : List UInt8}
    {reaction : Result Handler.Reaction}
    (returned : Handler.processIncoming daemon moment elsewhere manager inPacket =
      some (after, reaction)) :
    after = manager ∨ ∃ message header session,
      Parser.unflatten daemon.crypto manager inPacket = .ok (message, header) ∧
      manager.find message.bmcSessionID = some session ∧
      Steps daemon (message.Permits moment session.currentPrivilege) manager after := by
  unfold Handler.processIncoming at returned
  split at returned
  · cases returned
    exact Or.inl rfl
  next inMessage header accepted =>
    split at returned
    · cases returned
      exact Or.inl rfl
    next touched session numbered noted =>
      rw [Handler.updSessionData, bind_eq_ok] at noted
      obtain ⟨before, got, same⟩ := noted
      cases same
      have found := getSession_ok got
      have noting : Steps daemon (inMessage.Permits moment before.currentPrivilege) manager
          (manager.update inMessage.bmcSessionID fun _ => { before with lastTime := moment.now }) :=
        .single (.touched found (Or.inr rfl))
      have counted : inMessage.bmcSessionID = sessionZero →
          before.remoteConsoleSessionID = sessionZero := by
        intro zero
        obtain ⟨lastTime, first⟩ := kept.zero
        rw [zero, first, Option.some.injEq] at found
        rw [← found]
        rfl
      have stands : (manager.update inMessage.bmcSessionID fun _ =>
          { before with lastTime := moment.now }).find inMessage.bmcSessionID =
            some { before with lastTime := moment.now } :=
        find_updated found _
      obtain ⟨⟨executed, output⟩, executing, reacted⟩ := Option.map_eq_some_iff.mp returned
      have ran : Steps daemon (inMessage.Permits moment before.currentPrivilege) _ executed :=
        handler_executeCommand_steps (noting.kept kept) stands rfl executing
      have steps : Steps daemon (inMessage.Permits moment before.currentPrivilege) manager executed :=
        noting.trans ran
      have answered : Steps daemon (inMessage.Permits moment before.currentPrivilege) executed
          (Handler.react daemon moment executed { before with lastTime := moment.now }
            { inMessage with rcSessionID := before.remoteConsoleSessionID } header output).1 :=
        react_steps counted (fun _ => rfl) output
      dsimp only at reacted
      rw [reacted] at answered
      exact Or.inr ⟨inMessage, header, before, accepted, found, steps.trans answered⟩

end Answer

end Chassis.Netipmid

import Chassis.Proof.Network.Run

namespace Chassis.Netipmid
open Data Effect LittleEndian Manager

variable {daemon : Daemon} {manager after : Manager} {ipmiNetworkInstance : UInt8}

section Changes

/-- A session that has been opened on a request and nothing else. -/
structure Session.Opened (request : OpenSessionRequest) (session : Session) : Prop where
  state : session.state = .setupInProgress
  console : session.remoteConsoleSessionID = request.remoteConsoleSessionID
  reqMaxPrivLevel : session.reqMaxPrivLevel = request.priv
  userName : session.userName = []
  currentPrivilege : session.currentPrivilege = 0
  integrity : session.integrityAlgoInterface = none
  crypt : session.cryptAlgoInterface = none

/-- What has been done to one session in the course of a step. -/
def Deeds (daemon : Daemon) (permits : Manager.Permits) (sessionID : UInt32) :
    Session → Session → Prop :=
  Relation.ReflTransGen fun before after =>
    (∃ now, (now = before.lastTime ∨ now = permits.now) ∧ after = { before with lastTime := now }) ∨
    ∃ deed, permits.deed sessionID before deed ∧ after = before.perform daemon deed

/-- One of the random numbers with which a session may be opened on a request gives its number. -/
def Manager.Permits.Opens (permits : Manager.Permits) (manager : Manager) (sessionID : UInt32)
    (request : OpenSessionRequest) : Prop :=
  ∃ randoms, permits.opens request randoms ∧ ∃ random ∈ randoms,
    sessionID = manager.sessionIDOf random

section Steps

variable {permits : Manager.Permits} {sessionID : UInt32}

/-- What a single deed or note makes of a session is one more deed. -/
theorem Manager.Step.deeds {middle : Manager} (step : Step daemon permits middle after)
    {own : Session} (stood : middle.find sessionID = some own) :
    (∃ session, after.find sessionID = some session ∧ Deeds daemon permits sessionID own session) ∨
    permits.cleans ∧ after = middle.cleanStaleEntries permits.now := by
  cases step with
  | cleaned now permitted =>
      rw [now]
      exact Or.inr ⟨permitted, rfl⟩
  | @touched other session found now timed =>
      left
      rw [find_update]
      split
      next same =>
        rw [← same, stood, Option.some.injEq] at found
        subst found
        exact ⟨_, by rw [stood, Option.map_some], .single (Or.inl ⟨now, timed, rfl⟩)⟩
      next => exact ⟨own, stood, .refl⟩
  | @deed other session deed found _ permitted =>
      left
      rw [find_update]
      split
      next same =>
        rw [← same, stood, Option.some.injEq] at found
        subst found same
        exact ⟨_, by rw [stood, Option.map_some], .single (Or.inr ⟨deed, permitted, rfl⟩)⟩
      next => exact ⟨own, stood, .refl⟩
  | @opened request randoms memory drawnID slot now vacant drawn permitted =>
      obtain ⟨new, _⟩ := drawSessionID_some drawn
      have apart : sessionID ≠ drawnID := by
        rintro rfl
        rw [new] at stood
        cases stood
      left
      exact ⟨own, by rw [find_update, if_neg apart, find_insert new, if_neg apart, stood], .refl⟩

/-- A session of the state after some steps was there before them, or has been opened. -/
theorem Manager.Steps.deeds (kept : manager.Kept daemon)
    (steps : Steps daemon permits manager after) {session : Session}
    (found : after.find sessionID = some session) :
    (∃ before, manager.find sessionID = some before ∧
      Deeds daemon permits sessionID before session) ∨
    ∃ request opened, permits.Opens manager sessionID request ∧ Session.Opened request opened ∧
      Deeds daemon permits sessionID opened session := by
  induction steps generalizing session with
  | refl => exact Or.inl ⟨session, found, .refl⟩
  | @tail middle after steps step ih =>
      have sound := (Steps.kept steps kept).sound
      -- a session that stood before the last step is the one that has been traced
      have traced : ∀ {own}, middle.find sessionID = some own →
          Deeds daemon permits sessionID own session →
          (∃ before, manager.find sessionID = some before ∧
            Deeds daemon permits sessionID before session) ∨
          ∃ request opened, permits.Opens manager sessionID request ∧
            Session.Opened request opened ∧ Deeds daemon permits sessionID opened session := by
        intro own stood last
        rcases ih stood with ⟨before, first, deeds⟩ | ⟨request, opened, opens, new, deeds⟩
        · exact Or.inl ⟨before, first, deeds.trans last⟩
        · exact Or.inr ⟨request, opened, opens, new, deeds.trans last⟩
      cases stood : middle.find sessionID with
      | some own =>
          rcases step.deeds stood with ⟨changed, same, last⟩ | ⟨_, rfl⟩
          · rw [found, Option.some.injEq] at same
            exact traced stood (same ▸ last)
          · rw [find_cleanStaleEntries sound] at found
            exact traced (Option.filter_eq_some_iff.mp found).1 .refl
      | none =>
          cases step with
          | cleaned now =>
              rw [find_cleanStaleEntries sound, stood] at found
              cases found
          | @touched other own other_stood now =>
              rw [find_update, stood] at found
              split at found <;> cases found
          | @deed other own deed other_stood _ permitted =>
              rw [find_update, stood] at found
              split at found <;> cases found
          | @opened request randoms memory drawnID slot now vacant drawn permitted =>
              obtain ⟨new, random, listed, given⟩ := drawSessionID_some drawn
              rw [find_update, find_insert new] at found
              split at found
              next same =>
                obtain ⟨_, hit, rfl⟩ := Option.map_eq_some_iff.mp found
                rw [Option.some.injEq] at hit
                subst hit same
                rw [sessionIDOf_congr (Steps.network steps kept)] at given
                exact Or.inr ⟨request, _, ⟨randoms, permitted, random, listed, given⟩,
                  ⟨rfl, rfl, rfl, rfl, rfl, rfl, rfl⟩, .refl⟩
              next =>
                rw [stood] at found
                cases found

/-- A session either comes through some steps, or one of them is a cleaning for which it has become too
old. -/
theorem Manager.Steps.lost (kept : manager.Kept daemon) (steps : Steps daemon permits manager after)
    {before : Session} (found : manager.find sessionID = some before) :
    (∃ session, after.find sessionID = some session ∧
      Deeds daemon permits sessionID before session) ∨
    permits.cleans ∧ ∃ middle own, Steps daemon permits manager middle ∧
      middle.find sessionID = some own ∧ Deeds daemon permits sessionID before own ∧
      ¬ Fresh permits.now middle.activeGrace middle.setupGrace sessionID own ∧
      Steps daemon permits (middle.cleanStaleEntries permits.now) after := by
  induction steps with
  | refl => exact Or.inl ⟨before, found, .refl⟩
  | @tail middle after steps step ih =>
      rcases ih with ⟨own, stood, deeds⟩ | ⟨cleans, earlier, own, first, stood, deeds, stale, later⟩
      · rcases step.deeds stood with ⟨session, stands, last⟩ | ⟨cleans, rfl⟩
        · exact Or.inl ⟨session, stands, deeds.trans last⟩
        · have cleaned := find_cleanStaleEntries (Steps.kept steps kept).sound permits.now sessionID
          rw [stood, Option.filter_some] at cleaned
          by_cases fresh : Fresh permits.now middle.activeGrace middle.setupGrace sessionID own
          · rw [if_pos (decide_eq_true fresh)] at cleaned
            exact Or.inl ⟨own, cleaned, deeds⟩
          · exact Or.inr ⟨cleans, middle, own, steps, stood, deeds, fresh, .refl⟩
      · exact Or.inr ⟨cleans, earlier, own, first, stood, deeds, stale, later.tail step⟩

end Steps

/-- What every deed of a step keeps holds of the session after them. -/
theorem Deeds.invariant {permits : Manager.Permits} {sessionID : UInt32} {before session : Session}
    (property : Session → Prop) (holds : property before)
    (noted : ∀ {session now}, property session → property { session with lastTime := now })
    (kept : ∀ {session deed}, permits.deed sessionID session deed → property session →
      property (session.perform daemon deed))
    (deeds : Deeds daemon permits sessionID before session) : property session := by
  induction deeds with
  | refl => exact holds
  | tail _ step ih =>
      rcases step with ⟨now, _, rfl⟩ | ⟨deed, permitted, rfl⟩
      · exact noted ih
      · exact kept permitted ih

/-- No deed but the third message activates a session. -/
theorem perform_active {session : Session} {deed : Session.Deed}
    (other : ∀ moment inPayload, deed ≠ .rakp34 moment inPayload)
    (active : (session.perform daemon deed).state = .active) : session.state = .active := by
  cases deed with
  | counted => exact active
  | rakp12 moment request =>
      exact (session.rakp12_frame daemon moment request).2.1.state.symm.trans active
  | rakp34 moment inPayload => exact absurd rfl (other moment inPayload)
  | setPrivilegeLevel level => exact (session.setPrivilegeLevel_frame level).2.1.state.symm.trans active
  | tornDown => cases active

theorem Deeds.inactive {permits : Manager.Permits} {sessionID : UInt32} {before session : Session}
    (deeds : Deeds daemon permits sessionID before session)
    (quiet : ∀ {session moment inPayload},
      ¬ permits.deed sessionID session (.rakp34 moment inPayload))
    (inactive : before.state ≠ .active) : session.state ≠ .active := by
  apply deeds.invariant (fun session => session.state ≠ .active) inactive id
  intro session deed permitted inactive active
  apply inactive
  apply perform_active _ active
  rintro moment inPayload rfl
  exact quiet permitted

section Counted

/-- Nothing is done to the sessions but that their answers are counted. -/
def Manager.Permits.Counts (permits : Manager.Permits) : Prop :=
  ∀ sessionID session deed, permits.deed sessionID session deed → deed = .counted

variable {permits : Manager.Permits} (counts : permits.Counts) {sessionID : UInt32}

include counts

theorem Deeds.counted {before session : Session}
    (deeds : Deeds daemon permits sessionID before session) :
    (session.lastTime = before.lastTime ∨ session.lastTime = permits.now) ∧
    ∃ lastTime sequenceOut,
      session = { before with lastTime := lastTime, sequenceOut := sequenceOut } := by
  induction deeds with
  | refl => exact ⟨Or.inl rfl, _, _, rfl⟩
  | tail _ step ih =>
      obtain ⟨timed, lastTime, sequenceOut, rfl⟩ := ih
      rcases step with ⟨now, noted, rfl⟩ | ⟨deed, permitted, rfl⟩
      · refine ⟨?_, now, sequenceOut, rfl⟩
        rcases noted with same | now
        · rcases timed with first | last
          · exact Or.inl (same.trans first)
          · exact Or.inr (same.trans last)
        · exact Or.inr now
      · rw [counts _ _ _ permitted]
        exact ⟨timed, lastTime, sequenceOut + 1, rfl⟩

theorem Deeds.opened {request : OpenSessionRequest} {opened session : Session}
    (new : opened.Opened request) (deeds : Deeds daemon permits sessionID opened session) :
    session.Opened request := by
  obtain ⟨_, lastTime, sequenceOut, rfl⟩ := deeds.counted counts
  exact ⟨new.state, new.console, new.reqMaxPrivLevel, new.userName, new.currentPrivilege,
    new.integrity, new.crypt⟩

/-- Sessions are only lost and set up in such a step, so that the grace period does not become
shorter. -/
theorem Manager.Steps.activeGrace_le (kept : manager.Kept daemon)
    (steps : Steps daemon permits manager after) : manager.activeGrace ≤ after.activeGrace := by
  apply Manager.activeGrace_le kept.sound (Steps.kept steps kept).sound
  intro other session stands running
  rcases steps.deeds kept stands with ⟨start, held, deeds⟩ | ⟨request, opened, _, new, deeds⟩
  · obtain ⟨_, _, _, rfl⟩ := deeds.counted counts
    exact ⟨start, held, running⟩
  · rw [(deeds.opened counts new).state] at running
    cases running

/-- A session that has become too old has been so before its answers were counted. -/
theorem Deeds.idle {activeGrace setupGrace : Nat} {before session : Session}
    (deeds : Deeds daemon permits sessionID before session) (active : before.state = .active)
    (stale : ¬ Fresh permits.now activeGrace setupGrace sessionID session) :
    activeGrace ≤ (permits.now - before.lastTime) / 1000 := by
  obtain ⟨timed, _, _, same⟩ := deeds.counted counts
  have running : session.state = .active := by rw [same, active]
  have idle : activeGrace ≤ (permits.now - session.lastTime) / 1000 := by
    apply Nat.not_lt.mp
    intro early
    apply stale
    right
    rw [Session.isSessionActive, running]
    exact decide_eq_true early
  rcases timed with first | now
  · rw [first] at idle
    exact idle
  · rw [now, Nat.sub_self] at idle
    omega

omit counts in
/-- An active session that is lost to a cleaning has been idle for the grace period, and what stands
under its number afterwards has been opened. -/
theorem Manager.Steps.lost_active (kept : manager.Kept daemon)
    (steps : Steps daemon permits manager after) (quiet : permits.cleans → permits.Counts)
    {before : Session}
    (found : manager.find sessionID = some before) (active : before.state = .active) :
    (∃ session, after.find sessionID = some session ∧
      Deeds daemon permits sessionID before session) ∨
    permits.cleans ∧ manager.activeGrace ≤ (permits.now - before.lastTime) / 1000 ∧
      ∀ session, after.find sessionID = some session →
        ∃ request randoms, permits.opens request randoms ∧ session.Opened request := by
  rcases steps.lost kept found with traced | ⟨cleans, middle, own, first, stood, deeds, stale, later⟩
  · exact Or.inl traced
  have counts := quiet cleans
  refine Or.inr ⟨cleans, ?_, ?_⟩
  · exact (Steps.activeGrace_le counts kept first).trans (deeds.idle counts active stale)
  · intro session stands
    have cleaned := (Steps.kept first kept).cleaned permits.now
    have gone : (middle.cleanStaleEntries permits.now).find sessionID = none := by
      rw [find_cleanStaleEntries (Steps.kept first kept).sound, stood, Option.filter_some, if_neg]
      simpa using stale
    rcases later.deeds cleaned stands with ⟨start, held, _⟩ |
      ⟨request, opened, ⟨randoms, opens, _⟩, new, deeds⟩
    · rw [gone] at held
      cases held
    · exact ⟨request, randoms, opens, deeds.opened counts new⟩

end Counted

/-- The event is a packet that is taken for this message. -/
def Event.Carries (daemon : Daemon) (manager : Manager) (event : Event) (message : Message)
    (header : SessionHeader) : Prop :=
  ∃ moment elsewhere inPacket, event = .packet moment elsewhere inPacket ∧
    Parser.unflatten daemon.crypto manager inPacket = .ok (message, header)

/-- The deeds of an event are those of its message. The others only count an answer, or end a
session from outside. -/
theorem Event.permits_deed {event : Event} {sessionID : UInt32} {session : Session}
    {deed : Session.Deed} (permitted : (event.Permits daemon manager).deed sessionID session deed) :
    (deed = .counted ∨ deed = .tornDown ∧ event = .tornDown sessionID) ∨
    ∃ message header moment own, event.Carries daemon manager message header ∧
      manager.find message.bmcSessionID = some own ∧
      (message.Permits moment own.currentPrivilege).deed sessionID session deed := by
  cases event with
  | packet moment elsewhere inPacket =>
      obtain ⟨message, header, own, accepted, found, permitted⟩ := permitted
      exact Or.inr ⟨message, header, moment, own, ⟨moment, elsewhere, inPacket, rfl, accepted⟩, found,
        permitted⟩
  | answered => exact Or.inl (Or.inl permitted.1)
  | cleaned => exact permitted.elim
  | tornDown ended =>
      obtain ⟨rfl, rfl⟩ := permitted
      exact Or.inl (Or.inr ⟨rfl, rfl⟩)

theorem Event.permits_opens {event : Event} {request : OpenSessionRequest} {randoms : List UInt32}
    (permitted : (event.Permits daemon manager).opens request randoms) :
    ∃ message header, event.Carries daemon manager message header ∧
      message.payloadType = payloadTypeOpenSessionRequest ∧
      request = OpenSessionRequest.ofBytes message.payload := by
  cases event with
  | packet moment elsewhere inPacket =>
      obtain ⟨message, header, accepted, type, same, _⟩ := permitted
      exact ⟨message, header, ⟨moment, elsewhere, inPacket, rfl, accepted⟩, type, same⟩
  | answered | cleaned | tornDown => exact permitted.elim

theorem Event.permits_cleans {event : Event} (cleans : (event.Permits daemon manager).cleans) :
    event = .cleaned event.now ∨ ∃ message header, event.Carries daemon manager message header ∧
      message.payloadType = payloadTypeOpenSessionRequest := by
  cases event with
  | packet moment elsewhere inPacket =>
      obtain ⟨message, header, accepted, type⟩ := cleans
      exact Or.inr ⟨message, header, ⟨moment, elsewhere, inPacket, rfl, accepted⟩, type⟩
  | answered | tornDown => exact cleans.elim
  | cleaned now => exact Or.inl rfl

theorem Event.permits_now (event : Event) : (event.Permits daemon manager).now = event.now := by
  cases event <;> rfl

/-- An event carries one message at most. -/
theorem Event.Carries.permits {event : Event} {message : Message} {header : SessionHeader}
    (carries : event.Carries daemon manager message header) {sessionID : UInt32} {session : Session}
    {deed : Session.Deed} (permitted : (event.Permits daemon manager).deed sessionID session deed) :
    ∃ moment own, manager.find message.bmcSessionID = some own ∧
      (message.Permits moment own.currentPrivilege).deed sessionID session deed := by
  obtain ⟨moment, elsewhere, inPacket, rfl, accepted⟩ := carries
  obtain ⟨other, second, own, again, found, permitted⟩ := permitted
  rw [accepted] at again
  cases again
  exact ⟨moment, own, found, permitted⟩

theorem Event.Carries.opens {event : Event} {message : Message} {header : SessionHeader}
    (carries : event.Carries daemon manager message header) {request : OpenSessionRequest}
    {randoms : List UInt32} (permitted : (event.Permits daemon manager).opens request randoms) :
    message.payloadType = payloadTypeOpenSessionRequest ∧
      request = OpenSessionRequest.ofBytes message.payload := by
  obtain ⟨moment, elsewhere, inPacket, rfl, accepted⟩ := carries
  obtain ⟨other, second, again, type, same, _⟩ := permitted
  rw [accepted] at again
  cases again
  exact ⟨type, same⟩

/-- A message that opens a session does nothing to any. -/
theorem Message.opens_deed {message : Message} {moment : Moment} {level : UInt8} {sessionID : UInt32}
    {session : Session} {deed : Session.Deed}
    (type : message.payloadType = payloadTypeOpenSessionRequest)
    (permitted : (message.Permits moment level).deed sessionID session deed) : deed = .counted := by
  have apart : payloadTypeOpenSessionRequest ≠ payloadTypeRakp1 ∧
      payloadTypeOpenSessionRequest ≠ payloadTypeRakp3 ∧
      payloadTypeOpenSessionRequest ≠ payloadTypeIpmi := by decide
  cases deed with
  | counted => rfl
  | rakp12 own request => exact absurd (type.symm.trans permitted.2.1) apart.1
  | rakp34 own inPayload => exact absurd (type.symm.trans permitted.2.1) apart.2.1
  | setPrivilegeLevel level => exact absurd (type.symm.trans permitted.1) apart.2.2
  | tornDown => exact absurd (type.symm.trans permitted.1) apart.2.2

/-- An event that takes out old sessions, before a session is opened or when it is time, does nothing to
the others. -/
theorem Event.cleans_counts {event : Event} (cleans : (event.Permits daemon manager).cleans) :
    (event.Permits daemon manager).Counts := by
  cases event with
  | packet moment elsewhere inPacket =>
      obtain ⟨message, header, accepted, type⟩ := cleans
      rintro sessionID session deed ⟨other, second, own, again, _, permitted⟩
      rw [accepted] at again
      cases again
      exact message.opens_deed type permitted
  | answered | tornDown => exact cleans.elim
  | cleaned now => exact fun _ _ _ never => never.elim

/-- A third message does nothing else. -/
theorem Message.rakp34_deed {message : Message} {moment : Moment} {level : UInt8}
    {sessionID : UInt32} {session : Session} {deed : Session.Deed}
    (type : message.payloadType = payloadTypeRakp3)
    (permitted : (message.Permits moment level).deed sessionID session deed) :
    deed = .counted ∨ deed = .rakp34 moment message.payload := by
  have apart : payloadTypeRakp3 ≠ payloadTypeRakp1 ∧ payloadTypeRakp3 ≠ payloadTypeIpmi := by decide
  cases deed with
  | counted => exact Or.inl rfl
  | rakp12 own request => exact absurd (type.symm.trans permitted.2.1) apart.1
  | rakp34 own inPayload => exact Or.inr (by rw [permitted.1, permitted.2.2.1])
  | setPrivilegeLevel level => exact absurd (type.symm.trans permitted.1) apart.2
  | tornDown => exact absurd (type.symm.trans permitted.1) apart.2

/-- After a third message the session is active exactly when the message was right, or when it was not
for the session and the session was active already. -/
theorem Deeds.rakp34 {event : Event} {message : Message} {header : SessionHeader}
    (carries : event.Carries daemon manager message header)
    (type : message.payloadType = payloadTypeRakp3) {sessionID : UInt32} {before session : Session}
    (auth : before.authAlgoInterface.isSome)
    (deeds : Deeds daemon (event.Permits daemon manager) sessionID before session) :
    (session.state = .active → before.state = .active ∨ before.Authentic daemon message.payload) ∧
    (before.state = .active → session.state ≠ .active →
      ¬ before.Authentic daemon message.payload) := by
  have same : before.SameSetup session ∧
      (session.state = .active → before.state = .active ∨ before.Authentic daemon message.payload) ∧
      (before.state = .active → session.state ≠ .active →
        ¬ before.Authentic daemon message.payload) := by
    apply deeds.invariant fun session => before.SameSetup session ∧
      (session.state = .active → before.state = .active ∨ before.Authentic daemon message.payload) ∧
      (before.state = .active → session.state ≠ .active →
        ¬ before.Authentic daemon message.payload)
    · exact ⟨⟨rfl, rfl, rfl, rfl, rfl⟩, Or.inl, fun active ended => absurd active ended⟩
    · rintro session now ⟨same, rest⟩
      exact ⟨same.trans ⟨rfl, rfl, rfl, rfl, rfl⟩, rest⟩
    · rintro session deed permitted ⟨same, rest⟩
      obtain ⟨moment, own, _, allowed⟩ := carries.permits permitted
      rcases message.rakp34_deed type allowed with rfl | rfl
      · exact ⟨same.trans ⟨rfl, rfl, rfl, rfl, rfl⟩, rest⟩
      · refine ⟨same.trans (session.rakp34_frame daemon moment message.payload).1, ?_⟩
        have known : session.authAlgoInterface.isSome := by
          have key := congrArg Option.isSome same.key
          rwa [Option.isSome_map, Option.isSome_map, auth] at key
        rcases session.rakp34_cases daemon moment message.payload known with
          ⟨wrong, refused⟩ | ⟨right, algo, _, activated⟩
        · rw [Session.perform, refused]
          exact ⟨State.noConfusion, fun _ _ authentic => wrong (same.symm.authentic authentic)⟩
        · obtain ⟨k1, k2, _, _, agreed⟩ := Session.activate_eq daemon
            { session with lastTime := moment.now } (message.payload.getD 0 0) algo
          rw [Session.perform, activated, agreed]
          exact ⟨fun _ => Or.inr (same.authentic right), fun _ ended => absurd rfl ended⟩
  exact same.2

section Step

variable (small : ipmiNetworkInstance < 4) (reached : daemon.Reachable ipmiNetworkInstance manager)
  {event : Event} (taken : daemon.step manager event = some after) {sessionID : UInt32}

include small reached taken

/-- A session of the state after an event comes from the same one before it, or is new. -/
theorem step_deeds {session : Session} (stands : after.find sessionID = some session) :
    (∃ before, manager.find sessionID = some before ∧
      Deeds daemon (event.Permits daemon manager) sessionID before session) ∨
    ∃ request opened, (event.Permits daemon manager).Opens manager sessionID request ∧
      Session.Opened request opened ∧
      Deeds daemon (event.Permits daemon manager) sessionID opened session :=
  have kept := reachable_kept small reached
  (step_steps kept taken).deeds kept stands

omit taken in
theorem active_ordinary {session : Session} (stands : manager.find sessionID = some session)
    (active : session.state = .active) : sessionID ≠ sessionZero := by
  rintro rfl
  obtain ⟨lastTime, first⟩ := (reachable_kept small reached).zero
  rw [first, Option.some.injEq] at stands
  rw [← stands] at active
  cases active

/-- Whatever happens, a session becomes active only when a third message names it that ends with the
code of its user key over the random number, the level and the name of its setup. -/
theorem activated_by_code {session : Session} (stands : after.find sessionID = some session)
    (active : session.state = .active)
    (inactive : ∀ before, manager.find sessionID = some before → before.state ≠ .active) :
    ∃ message header before, event.Carries daemon manager message header ∧
      message.payloadType = payloadTypeRakp3 ∧
      readWord (field message.payload 4 4) = sessionID ∧
      manager.find sessionID = some before ∧ before.Authentic daemon message.payload := by
  have kept := reachable_kept small reached
  have ordinary := active_ordinary small (reached.next trivial taken) stands active
  have permitted : ∃ session moment inPayload,
      (event.Permits daemon manager).deed sessionID session (.rakp34 moment inPayload) := by
    by_contra none
    have quiet : ∀ {session moment inPayload}, ¬ (event.Permits daemon manager).deed sessionID
        session (.rakp34 moment inPayload) := fun permitted => none ⟨_, _, _, permitted⟩
    rcases step_deeds small reached taken stands with
      ⟨before, first, deeds⟩ | ⟨_, opened, _, new, deeds⟩
    · exact deeds.inactive quiet (inactive before first) active
    · apply deeds.inactive quiet _ active
      rw [new.state]
      exact State.noConfusion
  obtain ⟨_, _, inPayload, permitted⟩ := permitted
  rcases Event.permits_deed permitted with (counted | ⟨torn, _⟩) |
    ⟨message, header, _, own, carries, _, _, type, rfl, named⟩
  · cases counted
  · cases torn
  · rcases step_deeds small reached taken stands with
      ⟨before, first, deeds⟩ | ⟨_, _, ⟨_, opens, _⟩, _⟩
    · have auth := (kept.secured ordinary first).auth
      exact ⟨message, header, before, carries, type, named, first,
        ((deeds.rakp34 carries type auth).1 active).resolve_left (inactive before first)⟩
    · exact absurd (type.symm.trans (carries.opens opens).1) (by decide)

omit small reached taken in
theorem activated_by_code_root :
    ∃ message header before,
      (setupPacket payloadTypeRakp3 rootRakp3).Carries rootDaemon rootChallenged message header ∧
      message.payloadType = payloadTypeRakp3 ∧ readWord (field message.payload 4 4) = 1 ∧
      rootChallenged.find 1 = some before ∧ before.Authentic rootDaemon message.payload :=
  activated_by_code (by decide) rootChallenged_reached rootActive_taken rootActive_found
    (by decide +kernel) (by
      intro before found
      have stood : (rootChallenged.find 1).map Session.state = some .setupInProgress := by
        decide +kernel
      rw [found, Option.map_some, Option.some.injEq] at stood
      rw [stood]
      exact State.noConfusion)

omit small reached taken in
/-- Without a message only the other instances can end an active session. -/
theorem active_unnamed (silent : ∀ message header, ¬ event.Carries daemon manager message header)
    {before : Session} (active : before.state = .active)
    (deeds : Deeds daemon (event.Permits daemon manager) sessionID before session) :
    event = .tornDown sessionID ∨ session.state = .active := by
  by_cases torn : event = .tornDown sessionID
  · exact Or.inl torn
  · right
    apply deeds.invariant (fun session => session.state = .active) active id
    intro session deed permitted active
    rcases Event.permits_deed permitted with
      (rfl | ⟨rfl, apart⟩) | ⟨message, header, _, _, carries, _⟩
    · exact active
    · exact absurd apart torn
    · exact absurd carries (silent message header)

omit small reached taken in
/-- An active session that no third message names stays active, unless it is closed by itself or by a
session of no lower level. -/
theorem active_named {message : Message} {header : SessionHeader}
    (carries : event.Carries daemon manager message header) {before : Session}
    (active : before.state = .active)
    (other : ¬ (message.payloadType = payloadTypeRakp3 ∧
      readWord (field message.payload 4 4) = sessionID))
    (deeds : Deeds daemon (event.Permits daemon manager) sessionID before session) :
    session.state = .active ∨
    message.payloadType = payloadTypeIpmi ∧ message.bmcSessionID ≠ sessionZero ∧
      ∃ closer, manager.find message.bmcSessionID = some closer ∧
        (message.bmcSessionID = sessionID ∨
          before.currentPrivilege ≤ closer.currentPrivilege) := by
  by_contra ended
  obtain ⟨ended, unclosed⟩ := not_or.mp ended
  -- the level is the one before as long as the session has not changed it itself
  have still : session.state = .active ∧ (message.payloadType = payloadTypeIpmi →
      session.currentPrivilege = before.currentPrivilege ∨ message.bmcSessionID = sessionID) := by
    apply deeds.invariant fun session => session.state = .active ∧
      (message.payloadType = payloadTypeIpmi →
        session.currentPrivilege = before.currentPrivilege ∨ message.bmcSessionID = sessionID)
    · exact ⟨active, fun _ => Or.inl rfl⟩
    · exact id
    · rintro session deed permitted ⟨active, level⟩
      obtain ⟨moment, closer, stood, allowed⟩ := carries.permits permitted
      have apart : payloadTypeRakp1 ≠ payloadTypeIpmi := by decide
      cases deed with
      | counted => exact ⟨active, level⟩
      | rakp12 own request =>
          refine ⟨?_, fun type => absurd (allowed.2.1.symm.trans type) apart⟩
          exact (session.rakp12_frame daemon own request).2.1.state.trans active
      | rakp34 own inPayload =>
          obtain ⟨_, type, rfl, name⟩ := allowed
          exact absurd ⟨type, name⟩ other
      | setPrivilegeLevel reqPrivilegeLevel =>
          obtain ⟨changed, same⟩ := session.setPrivilegeLevel_eq reqPrivilegeLevel
          rw [Session.perform, same]
          exact ⟨active, fun _ => Or.inr allowed.2⟩
      | tornDown =>
          obtain ⟨type, ordinary, lower⟩ := allowed
          apply absurd _ unclosed
          refine ⟨type, ordinary, closer, stood, ?_⟩
          rcases level type with same | own
          · exact Or.inr (same ▸ lower)
          · exact Or.inl own
  exact ended still.1

omit taken in
/-- A session that is no longer active after its deeds has been named by a wrong third message or closed
by a session of no lower level, or one of the other instances has ended it. -/
theorem ended_deeds {before session : Session} (found : manager.find sessionID = some before)
    (active : before.state = .active)
    (deeds : Deeds daemon (event.Permits daemon manager) sessionID before session)
    (ended : session.state ≠ .active) :
    event = .tornDown sessionID ∨ ∃ message header, event.Carries daemon manager message header ∧
      (message.payloadType = payloadTypeRakp3 ∧
          readWord (field message.payload 4 4) = sessionID ∧
          ¬ before.Authentic daemon message.payload ∨
        message.payloadType = payloadTypeIpmi ∧ message.bmcSessionID ≠ sessionZero ∧
          ∃ closer, manager.find message.bmcSessionID = some closer ∧
            (message.bmcSessionID = sessionID ∨
              before.currentPrivilege ≤ closer.currentPrivilege)) := by
  have kept := reachable_kept small reached
  by_cases carried : ∃ message header, event.Carries daemon manager message header
  · obtain ⟨message, header, carries⟩ := carried
    refine Or.inr ⟨message, header, carries, ?_⟩
    by_cases named : message.payloadType = payloadTypeRakp3 ∧
        readWord (field message.payload 4 4) = sessionID
    · have auth := (kept.secured (active_ordinary small reached found active) found).auth
      exact Or.inl ⟨named.1, named.2, (deeds.rakp34 carries named.1 auth).2 active ended⟩
    · exact Or.inr ((active_named carries active named deeds).resolve_left ended)
  · have silent : ∀ message header, ¬ event.Carries daemon manager message header :=
      fun message header carries => carried ⟨message, header, carries⟩
    exact Or.inl ((active_unnamed silent active deeds).resolve_right ended)

/-- A session that is no longer active or no longer there has been named by a wrong third message or
closed by a session of no lower level, or one of the other instances has ended it, or it has been idle
for the grace period when it was time for the cleaning or when another session was to be opened. Only
then may its number stand for another one, the session that has just been opened. -/
theorem ended_by {before : Session} (found : manager.find sessionID = some before)
    (active : before.state = .active)
    (ended : ∀ session, after.find sessionID = some session → session.state ≠ .active) :
    event = .tornDown sessionID ∨
    (event = .cleaned event.now ∧ after.find sessionID = none ∧
      manager.activeGrace ≤ (event.now - before.lastTime) / 1000) ∨
    ∃ message header, event.Carries daemon manager message header ∧
      (message.payloadType = payloadTypeRakp3 ∧
          readWord (field message.payload 4 4) = sessionID ∧
          ¬ before.Authentic daemon message.payload ∨
        message.payloadType = payloadTypeIpmi ∧ message.bmcSessionID ≠ sessionZero ∧
          (∃ closer, manager.find message.bmcSessionID = some closer ∧
            (message.bmcSessionID = sessionID ∨
              before.currentPrivilege ≤ closer.currentPrivilege)) ∨
        message.payloadType = payloadTypeOpenSessionRequest ∧
          manager.activeGrace ≤ (event.now - before.lastTime) / 1000 ∧
          ∀ session, after.find sessionID = some session →
            session.Opened (OpenSessionRequest.ofBytes message.payload)) := by
  have kept := reachable_kept small reached
  rcases (step_steps kept taken).lost_active kept Event.cleans_counts found active with
    ⟨session, stands, deeds⟩ | ⟨cleans, idle, opened⟩
  · rcases ended_deeds small reached found active deeds (ended session stands) with
      torn | ⟨message, header, carries, third | closed⟩
    · exact Or.inl torn
    · exact Or.inr (Or.inr ⟨message, header, carries, Or.inl third⟩)
    · exact Or.inr (Or.inr ⟨message, header, carries, Or.inr (Or.inl closed)⟩)
  · right
    rw [event.permits_now] at idle
    rcases Event.permits_cleans cleans with timer | ⟨message, header, carries, type⟩
    · refine Or.inl ⟨timer, ?_, idle⟩
      by_contra stands
      obtain ⟨session, stands⟩ := Option.ne_none_iff_exists'.mp stands
      obtain ⟨_, _, opens, _⟩ := opened session stands
      rw [timer] at opens
      exact opens.elim
    · refine Or.inr ⟨message, header, carries, Or.inr (Or.inr ⟨type, idle, ?_⟩)⟩
      intro session stands
      obtain ⟨_, _, opens, new⟩ := opened session stands
      exact (carries.opens opens).2 ▸ new

omit small reached taken in
theorem ended_by_root :
    codeless = .tornDown 1 ∨
    (codeless = .cleaned 0 ∧ (rootAfter codeless).find 1 = none ∧
      rootActive.activeGrace ≤ (0 - rootActiveSession.lastTime) / 1000) ∨
    ∃ message header, codeless.Carries rootDaemon rootActive message header ∧
      (message.payloadType = payloadTypeRakp3 ∧ readWord (field message.payload 4 4) = 1 ∧
          ¬ rootActiveSession.Authentic rootDaemon message.payload ∨
        message.payloadType = payloadTypeIpmi ∧ message.bmcSessionID ≠ sessionZero ∧
          (∃ closer, rootActive.find message.bmcSessionID = some closer ∧
            (message.bmcSessionID = 1 ∨
              rootActiveSession.currentPrivilege ≤ closer.currentPrivilege)) ∨
        message.payloadType = payloadTypeOpenSessionRequest ∧
          rootActive.activeGrace ≤ (0 - rootActiveSession.lastTime) / 1000 ∧
          ∀ session, (rootAfter codeless).find 1 = some session →
            session.Opened (OpenSessionRequest.ofBytes message.payload)) :=
  ended_by (by decide) rootActive_reached
    (show rootDaemon.step rootActive codeless = some (rootAfter codeless) by decide +kernel)
    rootActive_found (by decide +kernel) (by
      intro session found
      have torn : ((rootAfter codeless).find 1).map Session.state = some .tearDownInProgress := by
        decide +kernel
      rw [found, Option.map_some, Option.some.injEq] at torn
      rw [torn]
      exact State.noConfusion)

/-- The first message with the name of a session. -/
def Message.Names (message : Message) (sessionID : UInt32) : Prop :=
  message.payloadType = payloadTypeRakp1 ∧
    (RAKP1request.ofBytes message.payload).managedSystemSessionID = sessionID

/-- The user of a session, with the access and the level that was asked for, changes only with a first
message that names the session, whoever sends it; or the session is another one under its number. -/
theorem user_changed {before session : Session} (found : manager.find sessionID = some before)
    (stands : after.find sessionID = some session) (changed : ¬ before.SameUser session) :
    ∃ message header, event.Carries daemon manager message header ∧
      (message.Names sessionID ∧
          session.userName = (RAKP1request.ofBytes message.payload).userName ∨
        message.payloadType = payloadTypeOpenSessionRequest ∧
          session.Opened (OpenSessionRequest.ofBytes message.payload)) := by
  rcases step_deeds small reached taken stands with
    ⟨own, same, deeds⟩ | ⟨request, opened, ⟨_, opens, _⟩, new, deeds⟩
  · rw [found, Option.some.injEq] at same
    subst same
    by_cases named : ∃ message header, event.Carries daemon manager message header ∧
        message.Names sessionID
    · obtain ⟨message, header, carries, named⟩ := named
      refine ⟨message, header, carries, Or.inl ⟨named, ?_⟩⟩
      have known : before.SameUser session ∨
          session.userName = (RAKP1request.ofBytes message.payload).userName := by
        apply deeds.invariant (fun session => before.SameUser session ∨
          session.userName = (RAKP1request.ofBytes message.payload).userName) (Or.inl (.refl before))
        · rintro session now (same | known)
          · exact Or.inl (same.trans ⟨rfl, rfl, rfl, rfl, rfl, rfl⟩)
          · exact Or.inr known
        · intro session deed permitted holds
          by_cases first : ∃ moment request, deed = .rakp12 moment request
          · obtain ⟨moment, request, rfl⟩ := first
            obtain ⟨_, _, _, allowed⟩ := carries.permits permitted
            right
            rw [← allowed.2.2.1]
            exact (Session.rakp12_frame daemon moment request session).2.2.1
          · have same := session.perform_sameUser daemon deed fun moment request hit =>
              first ⟨moment, request, hit⟩
            rcases holds with user | known
            · exact Or.inl (user.trans same)
            · exact Or.inr (same.userName.trans known)
      exact known.resolve_left changed
    · apply absurd _ changed
      apply deeds.invariant before.SameUser (.refl before)
      · intro session now same
        exact same.trans ⟨rfl, rfl, rfl, rfl, rfl, rfl⟩
      · intro session deed permitted same
        apply same.trans
        apply session.perform_sameUser daemon
        rintro moment request rfl
        rcases Event.permits_deed permitted with (counted | ⟨torn, _⟩) |
          ⟨message, header, _, own, carries, _, _, type, rfl, name⟩
        · cases counted
        · cases torn
        · exact named ⟨message, header, carries, type, name⟩
  · obtain ⟨message, header, carries, type, rfl⟩ := Event.permits_opens opens
    refine ⟨message, header, carries, Or.inr ⟨type, deeds.opened ?_ new⟩⟩
    intro other changed deed permitted
    obtain ⟨_, _, _, allowed⟩ := carries.permits permitted
    exact message.opens_deed type allowed

omit small reached taken in
theorem user_changed_root :
    ∃ message header, otherName.Carries rootDaemon rootActive message header ∧
      (message.Names 1 ∧ (rootAfterSession otherName).userName =
          (RAKP1request.ofBytes message.payload).userName ∨
        message.payloadType = payloadTypeOpenSessionRequest ∧
          (rootAfterSession otherName).Opened (OpenSessionRequest.ofBytes message.payload)) :=
  user_changed (by decide) rootActive_reached
    (show rootDaemon.step rootActive otherName = some (rootAfter otherName) by decide +kernel)
    rootActive_found (by decide +kernel) (by
      intro same
      exact absurd same.userName (by decide +kernel))

/-- A level above that of a user is reached only by the command for it, which the session itself has
sent. -/
theorem level_raised {session : Session} (stands : after.find sessionID = some session)
    (raised : privilegeUser < session.currentPrivilege)
    (lower : ∀ before, manager.find sessionID = some before →
      before.currentPrivilege ≠ session.currentPrivilege) :
    ∃ message header, event.Carries daemon manager message header ∧
      message.payloadType = payloadTypeIpmi ∧ message.bmcSessionID = sessionID := by
  have user : ∀ {level : UInt8}, level ≤ privilegeUser → session.currentPrivilege ≠ level := by
    rintro level bound rfl
    exact UInt8.not_lt.mpr bound raised
  by_contra none
  have still : ∀ {start : Session},
      Deeds daemon (event.Permits daemon manager) sessionID start session →
      session.currentPrivilege = start.currentPrivilege ∨ session.currentPrivilege ≤ privilegeUser := by
    intro start deeds
    apply deeds.invariant (fun session => session.currentPrivilege = start.currentPrivilege ∨
      session.currentPrivilege ≤ privilegeUser) (Or.inl rfl) id
    intro session deed permitted level
    by_cases first : ∃ moment request, deed = .rakp12 moment request
    · obtain ⟨moment, request, rfl⟩ := first
      rcases (session.rakp12_frame daemon moment request).2.2.2 with ⟨same, _⟩ | user
      · rw [Session.perform, same]
        exact level
      · exact Or.inr user
    · rw [session.perform_currentPrivilege daemon deed fun moment request hit =>
        first ⟨moment, request, hit⟩]
      · exact level
      · rintro reqPrivilegeLevel rfl
        rcases Event.permits_deed permitted with (counted | ⟨torn, _⟩) |
          ⟨message, header, _, own, carries, _, type, same⟩
        · cases counted
        · cases torn
        · exact none ⟨message, header, carries, type, same⟩
  rcases step_deeds small reached taken stands with
    ⟨before, found, deeds⟩ | ⟨_, opened, _, new, deeds⟩
  · rcases still deeds with same | bound
    · exact lower before found same.symm
    · exact user bound rfl
  · rcases still deeds with same | bound
    · exact user (show (0 : UInt8) ≤ privilegeUser by decide) (same.trans new.currentPrivilege)
    · exact user bound rfl

omit small reached taken in
theorem level_raised_root :
    ∃ message header, levelEvent.Carries rootDaemon rootActive message header ∧
      message.payloadType = payloadTypeIpmi ∧ message.bmcSessionID = 1 :=
  level_raised (by decide) rootActive_reached
    (show rootDaemon.step rootActive levelEvent = some (rootAfter levelEvent) by decide +kernel)
    (show (rootAfter levelEvent).find 1 = some (rootAfterSession levelEvent) by decide +kernel)
    (by decide +kernel) (by
      intro before found
      rw [rootActive_found, Option.some.injEq] at found
      rw [← found]
      decide +kernel)

end Step

end Changes

end Chassis.Netipmid

import Chassis.Proof.Network.Change

namespace Chassis.Netipmid
open Data Effect LittleEndian Manager

variable {daemon : Daemon} {moment : Moment} {manager after : Manager}

section OpenSession

/-- A session that has been opened for a console, without any keys yet. -/
structure Session.Awaits (session : Session) (console : UInt32) : Prop where
  console : session.remoteConsoleSessionID = console
  unkeyed : session.authAlgoInterface.map AuthAlgo.sessionIntegrityKey = some []

/-- A request is refused, or there is a new session for the console. -/
theorem openSession_answered (sound : manager.Sound) {inPayload outPayload : List UInt8}
    (complete : inPayload.length = openSessionRequestSize)
    (answered : openSession moment manager inPayload = some (after, .ok outPayload)) :
    let request := OpenSessionRequest.ofBytes inPayload
    (∃ statusCode, statusCode ≠ rakpNoError ∧ outPayload = request.refuse statusCode) ∨
    (request.authAlgo = rakpHmacSha256 ∧ request.intAlgo = hmacSha256128 ∧
      request.confAlgo = aesCbc128) ∧
    ∃ sessionID session, outPayload = request.accept request.priv sessionID ∧
      sessionID ≠ sessionZero ∧ after.find sessionID = some session ∧
      session.Awaits request.remoteConsoleSessionID := by
  intro request
  unfold openSession at answered
  dsimp only at answered
  rw [if_neg (not_not_intro complete)] at answered
  split at answered
  · cases answered
    exact Or.inl ⟨_, by decide, rfl⟩
  next auth =>
    split at answered
    · cases answered
      exact Or.inl ⟨_, by decide, rfl⟩
    next integrity =>
      split at answered
      · cases answered
        exact Or.inl ⟨_, by decide, rfl⟩
      next crypt =>
        obtain ⟨⟨started, result⟩, opening, answered⟩ := Option.map_eq_some_iff.mp answered
        rcases startSession_cases sound opening with
          ⟨_, ⟨text, rfl⟩, _⟩ | ⟨sessionID, slot, rfl, _, drawn, rfl⟩
        · cases answered
          exact Or.inl ⟨_, by decide, rfl⟩
        · cases answered
          have new := (drawSessionID_some drawn).1
          have stands := (sound.cleanStaleEntries moment.now).1.zero
          right
          refine ⟨⟨not_not.mp auth, not_not.mp integrity, not_not.mp crypt⟩, ?_⟩
          refine ⟨sessionID, { (manager.cleanStaleEntries moment.now).newSession slot moment.memory
            sessionID request.remoteConsoleSessionID request.priv with
              lastTime := moment.now, state := .setupInProgress }, rfl, ?_, ?_, rfl, rfl⟩
          · rintro rfl
            rw [new] at stands
            cases stands
          · rw [find_update, if_pos rfl, find_insert new, if_pos rfl]
            rfl

end OpenSession

section Rakp12

variable {request : RAKP1request}

/-- The key of a user is the password with zeros behind it. -/
def paddedKey (passwd : List UInt8) : List UInt8 :=
  passwd ++ List.replicate (userKeyMaxLength - passwd.length) 0

theorem findUser_ok {accounts : Accounts} {userName passwd : List UInt8} {userId : UInt8}
    (found : findUser accounts userName = .ok (userId, passwd)) :
    userName ≠ [] ∧ passwd = accounts.ipmiUserGetPassword userName := by
  unfold findUser at found
  dsimp only at found
  split at found
  · cases found
  next named =>
    split at found
    · cases found
    split at found
    · cases found
    split at found
    · cases found
    split at found
    · cases found
    · cases found
      exact ⟨named, rfl⟩

theorem identify_error {session named : Session} {statusCode : UInt8}
    (refused : session.identify daemon moment request = (named, .error statusCode)) :
    statusCode ≠ rakpNoError := by
  unfold Session.identify at refused
  dsimp only at refused
  split at refused
  next wrong =>
    cases refused
    unfold findUser at wrong
    dsimp only at wrong
    split_ifs at wrong <;> cases wrong <;> decide
  · split at refused
    · cases refused
      decide
    · split at refused
      · cases refused
        decide
      · cases refused

theorem identify_ok {session named : Session} {passwd : List UInt8}
    (identified : session.identify daemon moment request = (named, .ok passwd)) :
    passwd = moment.accounts.ipmiUserGetPassword request.userName ∧
      named.reqMaxPrivLevel = request.reqMaxPrivilegeLevel := by
  unfold Session.identify at identified
  dsimp only at identified
  split at identified
  · cases identified
  next userId found user =>
    have access := Session.readAccess_frame { session with
      currentPrivilege := privilegeUser
      reqMaxPrivLevel := request.reqMaxPrivilegeLevel } moment.accounts daemon.interfaceIndex userId
    split at identified
    · cases identified
    next read same =>
      rw [same] at access
      obtain ⟨privAccess, channelAccess, rfl⟩ := access
      split at identified
      · cases identified
      · cases identified
        exact ⟨(findUser_ok user).2, rfl⟩

/-- Everything that the later codes depend on. -/
structure Session.Challenged (session : Session) (console : UInt32) (role : UInt8)
    (name : List UInt8) (algo : AuthAlgo) : Prop where
  console : session.remoteConsoleSessionID = console
  role : session.reqMaxPrivLevel = role
  name : session.userName = name
  algo : session.authAlgoInterface = some algo

/-- A first message is refused, or the answer proves the knowledge of the password of the user whom the
message names. -/
theorem rakp12_answered {session challenged : Session} {outPayload : List UInt8}
    (answered : session.rakp12 daemon moment request = (challenged, .ok outPayload)) :
    (∃ statusCode, statusCode ≠ rakpNoError ∧ outPayload = rakp2Refuse statusCode) ∨
    ∃ before random, session.authAlgoInterface = some before ∧ moment.bmcRandomNum = some random ∧
      let key := paddedKey (moment.accounts.ipmiUserGetPassword request.userName)
      let algo := AuthAlgo.mk key (List.ofFn random) request.remoteConsoleRandomNumber
        before.sessionIntegrityKey
      challenged.Challenged session.remoteConsoleSessionID request.reqMaxPrivilegeLevel
        request.userName algo ∧
      challenged.bmcSessionID = session.bmcSessionID ∧
      outPayload = [request.messageTag, rakpNoError, 0, 0] ++ word session.remoteConsoleSessionID ++
        List.ofFn random ++ List.ofFn daemon.guid ++
        daemon.crypto.hmac .sha256 key (rakp2Input challenged algo daemon.guid request) := by
  unfold Session.rakp12 Session.getAuthAlgo at answered
  dsimp only at answered
  cases auth : session.authAlgoInterface with
  | none =>
      rw [auth] at answered
      cases answered
  | some before =>
      rw [auth] at answered
      dsimp only at answered
      cases drawn : moment.bmcRandomNum with
      | none =>
          rw [drawn] at answered
          cases answered
          exact Or.inl ⟨_, by decide, rfl⟩
      | some random =>
          rw [drawn] at answered
          dsimp only at answered
          split at answered
          · cases answered
            exact Or.inl ⟨_, by decide, rfl⟩
          · split at answered
            next named statusCode identified =>
              cases answered
              exact Or.inl ⟨statusCode, identify_error identified, rfl⟩
            next named passwd identified =>
              obtain ⟨numbers, _, algos, name, _⟩ := Session.identify_frame daemon moment request
                { session with
                  userName := request.userName
                  lastTime := moment.now
                  authAlgoInterface := some { before with
                    rcRandomNum := request.remoteConsoleRandomNumber } }
              rw [identified] at numbers algos name
              obtain ⟨rfl, role⟩ := identify_ok identified
              unfold Session.challenge at answered
              split at answered
              · cases answered
              · cases answered
                refine Or.inr ⟨before, random, rfl, rfl,
                  ⟨numbers.remoteConsoleSessionID, role, name, rfl⟩, numbers.bmcSessionID, ?_⟩
                rw [← numbers.remoteConsoleSessionID]
                rfl

theorem RAKP12_answered {inPayload outPayload : List UInt8}
    (complete : rakp1MinimumSize ≤ inPayload.length)
    (answered : RAKP12 daemon moment manager inPayload = (after, .ok outPayload)) :
    let request := RAKP1request.ofBytes inPayload
    (∃ statusCode, statusCode ≠ rakpNoError ∧ outPayload = rakp2Refuse statusCode) ∨
    ∃ session challenged, manager.find request.managedSystemSessionID = some session ∧
      session.rakp12 daemon moment request = (challenged, .ok outPayload) ∧
      after = manager.update request.managedSystemSessionID fun _ => challenged := by
  intro request
  unfold RAKP12 at answered
  dsimp only at answered
  rw [if_neg (by omega)] at answered
  split at answered
  · cases answered
    exact Or.inl ⟨_, by decide, rfl⟩
  split at answered
  · cases answered
    exact Or.inl ⟨_, by decide, rfl⟩
  next session found =>
    split at answered
    · cases answered
      exact Or.inl ⟨_, by decide, rfl⟩
    · cases challenging : session.rakp12 daemon moment request with
      | mk challenged answer =>
          rw [challenging, Prod.mk.injEq] at answered
          obtain ⟨rfl, rfl⟩ := answered
          exact Or.inr ⟨session, challenged, found, challenging, rfl⟩

end Rakp12

section Rakp34

/-- A third message is refused, or both keys of the packets come from the key that the codes have shown
to be the same at both ends. -/
theorem rakp34_answered {session active : Session} {algo : AuthAlgo} {inPayload outPayload : List UInt8}
    (auth : session.authAlgoInterface = some algo) (unkeyed : algo.sessionIntegrityKey = [])
    (answered : session.rakp34 daemon moment inPayload = (active, .ok outPayload)) :
    let sik := daemon.crypto.hmac .sha256 algo.userKey (sikInput session algo)
    (outPayload.length = 8 ∧ outPayload.getD 1 0 ≠ rakpNoError) ∨
    active.state = .active ∧
      active.integrityAlgoInterface = some ⟨daemon.crypto.hmac .sha256 sik const1⟩ ∧
      active.cryptAlgoInterface = some ⟨daemon.crypto.hmac .sha256 sik const2⟩ ∧
      session.SameUser active ∧ active.remoteConsoleSessionID = session.remoteConsoleSessionID ∧
      outPayload = [inPayload.getD 0 0, rakpNoError, 0, 0] ++ word session.remoteConsoleSessionID ++
        (daemon.crypto.hmac .sha256 sik (icvInput session algo daemon.guid)).take
          integrityCheckValueLength := by
  intro sik
  have derived : ∀ constN, generateKn daemon.crypto sik constN =
      .ok (daemon.crypto.hmac .sha256 sik constN) := by
    intro constN
    have same : sik.length = (daemon.crypto.hmac .sha256 sik constN).length := by
      rw [daemon.crypto.hmac_length, daemon.crypto.hmac_length]
    simp [generateKn, same]
  rcases session.rakp34_cases daemon moment inPayload (by rw [auth]; rfl) with
    ⟨_, refused⟩ | ⟨_, own, same, activated⟩
  · rw [refused] at answered
    cases answered
    have wrong : rakpInvalidIntegrityValue ≠ rakpNoError := by decide
    exact Or.inl ⟨by simp, wrong⟩
  · rw [auth, Option.some.injEq] at same
    subst same
    obtain ⟨k1, k2, first, second, agreed⟩ := Session.activate_eq daemon
      { session with lastTime := moment.now } (inPayload.getD 0 0) algo
    have key : (algo.insertSik daemon.crypto { session with lastTime := moment.now }).sessionIntegrityKey =
        sik := by
      rw [AuthAlgo.insertSik, unkeyed, List.append_nil]
      rfl
    rw [key, derived] at first second
    cases first
    cases second
    rw [activated, agreed, Prod.mk.injEq] at answered
    obtain ⟨rfl, same⟩ := answered
    refine Or.inr ⟨rfl, rfl, rfl, ⟨rfl, rfl, rfl, rfl, rfl, rfl⟩, rfl, ?_⟩
    rw [← Except.ok.inj same, AuthAlgo.generateICV, key]
    rfl

theorem RAKP34_answered {inPayload outPayload : List UInt8}
    (answered : RAKP34 daemon moment manager inPayload = (after, .ok outPayload)) :
    let sessionID := readWord (field inPayload 4 4)
    (outPayload.length = 8 ∧ outPayload.getD 1 0 ≠ rakpNoError) ∨
    ∃ session active, manager.find sessionID = some session ∧
      session.rakp34 daemon moment inPayload = (active, .ok outPayload) ∧
      after = manager.update sessionID fun _ => active := by
  intro sessionID
  unfold RAKP34 at answered
  dsimp only at answered
  split at answered
  · cases answered
    exact Or.inl ⟨by decide, by decide⟩
  split at answered
  · cases answered
    exact Or.inl ⟨by decide, by decide⟩
  split at answered
  · cases answered
    exact Or.inl ⟨by decide, by decide⟩
  next session found =>
    cases activating : session.rakp34 daemon moment inPayload with
    | mk active answer =>
        rw [activating, Prod.mk.injEq] at answered
        obtain ⟨rfl, rfl⟩ := answered
        exact Or.inr ⟨session, active, found, activating, rfl⟩

end Rakp34

end Chassis.Netipmid

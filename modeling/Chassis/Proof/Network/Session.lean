import Chassis.Construction.Network.Handler
import Chassis.Proof.Network.Integrity

namespace Chassis.Netipmid
open Data Effect LittleEndian

namespace Session

/-- What no command ever changes. -/
structure SameNumbers (before after : Session) : Prop where
  bmcSessionID : after.bmcSessionID = before.bmcSessionID
  remoteConsoleSessionID : after.remoteConsoleSessionID = before.remoteConsoleSessionID
  sessionHandle : after.sessionHandle = before.sessionHandle

/-- The state of the session, the keys of the packets and the key behind them. -/
structure SameKeys (before after : Session) : Prop where
  state : after.state = before.state
  integrity : after.integrityAlgoInterface = before.integrityAlgoInterface
  crypt : after.cryptAlgoInterface = before.cryptAlgoInterface
  sik : after.authAlgoInterface.map AuthAlgo.sessionIntegrityKey =
    before.authAlgoInterface.map AuthAlgo.sessionIntegrityKey

theorem SameNumbers.refl (session : Session) : SameNumbers session session := ⟨rfl, rfl, rfl⟩

theorem SameNumbers.trans {first second third : Session} (left : SameNumbers first second)
    (right : SameNumbers second third) : SameNumbers first third where
  bmcSessionID := right.bmcSessionID.trans left.bmcSessionID
  remoteConsoleSessionID := right.remoteConsoleSessionID.trans left.remoteConsoleSessionID
  sessionHandle := right.sessionHandle.trans left.sessionHandle

theorem SameKeys.trans {first second third : Session} (left : SameKeys first second)
    (right : SameKeys second third) : SameKeys first third where
  state := right.state.trans left.state
  integrity := right.integrity.trans left.integrity
  crypt := right.crypt.trans left.crypt
  sik := right.sik.trans left.sik

/-- The level of the session is that of a user, or what the user and the channel are permitted. -/
def Limited (session : Session) : Prop :=
  session.currentPrivilege ≤ privilegeUser ∨ session.currentPrivilege ≤ session.minPriv

section Rakp12

variable (daemon : Daemon) (moment : Moment) (request : RAKP1request) (session : Session)

theorem readAccess_frame (accounts : Accounts) (chNum userId : UInt8) :
    ∃ privAccess channelAccess, (readAccess accounts chNum userId session).1 = { session with
      sessionUserPrivAccess := privAccess, sessionChannelAccess := channelAccess } := by
  unfold readAccess
  split
  · exact ⟨_, _, rfl⟩
  · dsimp only
    split <;> exact ⟨_, _, rfl⟩

/-- The access and both levels are replaced. -/
theorem identify_frame :
    SameNumbers session (session.identify daemon moment request).1 ∧
      SameKeys session (session.identify daemon moment request).1 ∧
      (session.identify daemon moment request).1.authAlgoInterface = session.authAlgoInterface ∧
      (session.identify daemon moment request).1.userName = session.userName ∧
      (session.identify daemon moment request).1.currentPrivilege ≤ privilegeUser := by
  unfold identify
  dsimp only
  split
  · exact ⟨⟨rfl, rfl, rfl⟩, ⟨rfl, rfl, rfl, rfl⟩, rfl, rfl, UInt8.le_refl _⟩
  next userId passwd _ =>
    have access := readAccess_frame { session with
      currentPrivilege := privilegeUser
      reqMaxPrivLevel := request.reqMaxPrivilegeLevel } moment.accounts daemon.interfaceIndex userId
    split
    next read same =>
      rw [same] at access
      obtain ⟨privAccess, channelAccess, rfl⟩ := access
      exact ⟨⟨rfl, rfl, rfl⟩, ⟨rfl, rfl, rfl, rfl⟩, rfl, rfl, UInt8.le_refl _⟩
    next read same =>
      rw [same] at access
      obtain ⟨privAccess, channelAccess, rfl⟩ := access
      have bound : ∀ level : UInt8, (if level < privilegeUser then level else privilegeUser) ≤
          privilegeUser := by
        intro level
        split
        next less => exact UInt8.le_of_lt less
        next => exact UInt8.le_refl _
      split <;> exact ⟨⟨rfl, rfl, rfl⟩, ⟨rfl, rfl, rfl, rfl⟩, rfl, rfl, bound _⟩

theorem challenge_frame (random : Block) {algo : AuthAlgo} (passwd : List UInt8)
    (auth : session.authAlgoInterface = some algo) :
    SameNumbers session (session.challenge daemon random request algo passwd).1 ∧
      SameKeys session (session.challenge daemon random request algo passwd).1 ∧
      (session.challenge daemon random request algo passwd).1.userName = session.userName ∧
      (session.challenge daemon random request algo passwd).1.currentPrivilege =
        session.currentPrivilege := by
  unfold challenge
  split
  · exact ⟨⟨rfl, rfl, rfl⟩, ⟨rfl, rfl, rfl, rfl⟩, rfl, rfl⟩
  · exact ⟨⟨rfl, rfl, rfl⟩, ⟨rfl, rfl, rfl, by rw [auth]; rfl⟩, rfl, rfl⟩

/-- Whatever becomes of a first message, it names the user of the session. The level stays with the
access, or becomes at most that of a user. -/
theorem rakp12_frame :
    SameNumbers session (session.rakp12 daemon moment request).1 ∧
      SameKeys session (session.rakp12 daemon moment request).1 ∧
      (session.rakp12 daemon moment request).1.userName = request.userName ∧
      (((session.rakp12 daemon moment request).1.currentPrivilege = session.currentPrivilege ∧
          (session.rakp12 daemon moment request).1.minPriv = session.minPriv) ∨
        (session.rakp12 daemon moment request).1.currentPrivilege ≤ privilegeUser) := by
  unfold rakp12 getAuthAlgo
  dsimp only
  cases auth : session.authAlgoInterface with
  | none =>
      exact ⟨⟨rfl, rfl, rfl⟩, ⟨rfl, rfl, rfl, by rw [auth]; rfl⟩, rfl, Or.inl ⟨rfl, rfl⟩⟩
  | some algo =>
      dsimp only
      cases moment.bmcRandomNum with
      | none =>
          exact ⟨⟨rfl, rfl, rfl⟩, ⟨rfl, rfl, rfl, by rw [auth]; rfl⟩, rfl, Or.inl ⟨rfl, rfl⟩⟩
      | some random =>
          dsimp only
          let heard : Session := { session with
            userName := request.userName
            lastTime := moment.now
            authAlgoInterface := some { algo with
              rcRandomNum := request.remoteConsoleRandomNumber } }
          have noted : SameNumbers session heard ∧ SameKeys session heard :=
            ⟨⟨rfl, rfl, rfl⟩, ⟨rfl, rfl, rfl, by rw [auth]; rfl⟩⟩
          split
          · exact ⟨noted.1, noted.2, rfl, Or.inl ⟨rfl, rfl⟩⟩
          · obtain ⟨numbers, keys, algos, name, level⟩ := identify_frame daemon moment request heard
            split
            next named statusCode same =>
              rw [same] at numbers keys name level
              exact ⟨noted.1.trans numbers, noted.2.trans keys, name, Or.inr level⟩
            next named passwd same =>
              rw [same] at numbers keys algos name level
              have challenged := challenge_frame daemon request named random passwd
                (algos.trans rfl)
              refine ⟨noted.1.trans (numbers.trans challenged.1),
                noted.2.trans (keys.trans challenged.2.1), challenged.2.2.1.trans name, Or.inr ?_⟩
              rw [challenged.2.2.2]
              exact level

theorem rakp12_limited (limited : session.Limited) :
    (session.rakp12 daemon moment request).1.Limited := by
  rcases (rakp12_frame daemon moment request session).2.2.2 with ⟨level, bound⟩ | user
  · rw [Limited, level, bound]
    exact limited
  · exact Or.inl user

end Rakp12

section Rakp34

/-- Both keys of the packets come from the key that the setup has agreed on. -/
def Keyed (crypto : Crypto) (session : Session) : Prop :=
  ∃ sik k1 k2, session.authAlgoInterface.map AuthAlgo.sessionIntegrityKey = some sik ∧
    generateKn crypto sik const1 = .ok k1 ∧ generateKn crypto sik const2 = .ok k2 ∧
    session.integrityAlgoInterface = some ⟨k1⟩ ∧ session.cryptAlgoInterface = some ⟨k2⟩

theorem Keyed.same {crypto : Crypto} {before after : Session} (keyed : Keyed crypto before)
    (same : SameKeys before after) : Keyed crypto after := by
  obtain ⟨sik, k1, k2, key, first, second, integrity, crypt⟩ := keyed
  exact ⟨sik, k1, k2, same.sik.trans key, first, second, same.integrity.trans integrity,
    same.crypt.trans crypt⟩

/-- A key that begins with a digest is long enough to derive others from it. -/
theorem generateKn_ok (crypto : Crypto) (key message rest constN : List UInt8) :
    ∃ kn, generateKn crypto (crypto.hmac .sha256 key message ++ rest) constN = .ok kn := by
  have long : ¬ (crypto.hmac .sha256 key message ++ rest).length <
      (crypto.hmac .sha256 (crypto.hmac .sha256 key message ++ rest) constN).length := by
    rw [List.length_append, crypto.hmac_length, crypto.hmac_length]
    omega
  rw [generateKn, if_neg long]
  exact ⟨_, rfl⟩

variable (daemon : Daemon) (session : Session)

/-- The keys that follow from the key of the session replace any older ones. -/
theorem activate_eq (messageTag : UInt8) (algo : AuthAlgo) :
    let agreed := algo.insertSik daemon.crypto session
    ∃ k1 k2, generateKn daemon.crypto agreed.sessionIntegrityKey const1 = .ok k1 ∧
      generateKn daemon.crypto agreed.sessionIntegrityKey const2 = .ok k2 ∧
      session.activate daemon messageTag algo =
        ({ session with
            authAlgoInterface := some agreed
            integrityAlgoInterface := some ⟨k1⟩
            cryptAlgoInterface := some ⟨k2⟩
            state := .active },
          .ok ([messageTag, rakpNoError, 0, 0] ++ word session.remoteConsoleSessionID ++
            agreed.generateICV daemon.crypto (icvInput session agreed daemon.guid))) := by
  intro agreed
  obtain ⟨k1, first⟩ := generateKn_ok daemon.crypto algo.userKey (sikInput session algo)
    algo.sessionIntegrityKey const1
  obtain ⟨k2, second⟩ := generateKn_ok daemon.crypto algo.userKey (sikInput session algo)
    algo.sessionIntegrityKey const2
  have key : agreed.sessionIntegrityKey = daemon.crypto.hmac .sha256 algo.userKey
      (sikInput session algo) ++ algo.sessionIntegrityKey := rfl
  refine ⟨k1, k2, by rw [key, first], by rw [key, second], ?_⟩
  simp only [activate, applyIntegrityAlgo, applyCryptAlgo, getAuthAlgo, getIntegrityAlgo, ok_bind,
    pure_eq_ok]
  rw [← key] at first second
  simp only [show algo.insertSik daemon.crypto session = agreed from rfl, first, second, ok_bind]
  rfl

/-- The third message is right when it ends with the code that the key of the user gives. -/
def Authentic (session : Session) (inPayload : List UInt8) : Prop :=
  ∃ algo, session.authAlgoInterface = some algo ∧
    inPayload.drop rakp3MinimumSize = algo.generateHMAC daemon.crypto (rakp3Input session algo)

variable (moment : Moment) (inPayload : List UInt8)

/-- The right third message activates the session with new keys, and any other one tears it down. -/
theorem rakp34_cases (auth : session.authAlgoInterface.isSome) :
    (¬ Authentic daemon session inPayload ∧ session.rakp34 daemon moment inPayload =
      ({ session with lastTime := moment.now, state := .tearDownInProgress },
        .ok ([inPayload.getD 0 0, rakpInvalidIntegrityValue, 0, 0] ++
          word session.remoteConsoleSessionID))) ∨
    (Authentic daemon session inPayload ∧ ∃ algo, session.authAlgoInterface = some algo ∧
      session.rakp34 daemon moment inPayload =
        { session with lastTime := moment.now }.activate daemon (inPayload.getD 0 0) algo) := by
  obtain ⟨algo, known⟩ := Option.isSome_iff_exists.mp auth
  have got : { session with lastTime := moment.now }.getAuthAlgo = .ok algo := by
    simp [getAuthAlgo, known]
  by_cases right : inPayload.drop rakp3MinimumSize =
      algo.generateHMAC daemon.crypto (rakp3Input session algo)
  · right
    refine ⟨⟨algo, known, right⟩, algo, known, ?_⟩
    rw [rakp34, got]
    exact if_neg (not_not_intro right)
  · left
    constructor
    · rintro ⟨other, same, code⟩
      rw [known, Option.some.injEq] at same
      exact right (same ▸ code)
    · rw [rakp34, got]
      exact if_pos right

/-- What the code of the third message depends on. -/
structure SameSetup (before after : Session) : Prop where
  key : after.authAlgoInterface.map AuthAlgo.userKey = before.authAlgoInterface.map AuthAlgo.userKey
  random : after.authAlgoInterface.map AuthAlgo.bmcRandomNum =
    before.authAlgoInterface.map AuthAlgo.bmcRandomNum
  remoteConsoleSessionID : after.remoteConsoleSessionID = before.remoteConsoleSessionID
  reqMaxPrivLevel : after.reqMaxPrivLevel = before.reqMaxPrivLevel
  userName : after.userName = before.userName

theorem SameSetup.trans {first second third : Session} (left : SameSetup first second)
    (right : SameSetup second third) : SameSetup first third where
  key := right.key.trans left.key
  random := right.random.trans left.random
  remoteConsoleSessionID := right.remoteConsoleSessionID.trans left.remoteConsoleSessionID
  reqMaxPrivLevel := right.reqMaxPrivLevel.trans left.reqMaxPrivLevel
  userName := right.userName.trans left.userName

theorem SameSetup.symm {first second : Session} (same : SameSetup first second) :
    SameSetup second first where
  key := same.key.symm
  random := same.random.symm
  remoteConsoleSessionID := same.remoteConsoleSessionID.symm
  reqMaxPrivLevel := same.reqMaxPrivLevel.symm
  userName := same.userName.symm

variable {daemon inPayload} in
theorem SameSetup.authentic {before after : Session} (same : SameSetup before after)
    (authentic : Authentic daemon after inPayload) : Authentic daemon before inPayload := by
  obtain ⟨algo, known, code⟩ := authentic
  have key := same.key
  have random := same.random
  cases stood : before.authAlgoInterface with
  | none =>
      rw [known, stood] at key
      cases key
  | some own =>
      rw [known, stood, Option.map_some, Option.map_some, Option.some.injEq] at key random
      refine ⟨own, stood, code.trans ?_⟩
      rw [AuthAlgo.generateHMAC, AuthAlgo.generateHMAC, rakp3Input, rakp3Input, role, role, key, random,
        same.remoteConsoleSessionID, same.reqMaxPrivLevel, same.userName]

/-- Whatever becomes of a third message, the setup of the session stays, and the user with the access
and the levels. -/
theorem rakp34_frame : SameSetup session (session.rakp34 daemon moment inPayload).1 ∧
    ∃ auth integrity crypt state, (session.rakp34 daemon moment inPayload).1 = { session with
      lastTime := moment.now
      authAlgoInterface := auth
      integrityAlgoInterface := integrity
      cryptAlgoInterface := crypt
      state := state } := by
  cases auth : session.authAlgoInterface with
  | none =>
      have empty : { session with lastTime := moment.now }.getAuthAlgo =
          raise "Authentication Algorithm Empty" := by
        simp [getAuthAlgo, auth]
      rw [rakp34, empty]
      exact ⟨⟨rfl, rfl, rfl, rfl, rfl⟩, session.authAlgoInterface, _, _, session.state, rfl⟩
  | some known =>
      rcases rakp34_cases daemon session moment inPayload (by rw [auth]; rfl) with
        ⟨_, refused⟩ | ⟨_, algo, own, activated⟩
      · rw [refused]
        exact ⟨⟨rfl, rfl, rfl, rfl, rfl⟩, session.authAlgoInterface, _, _, .tearDownInProgress, rfl⟩
      · obtain ⟨k1, k2, _, _, same⟩ := activate_eq daemon
          { session with lastTime := moment.now } (inPayload.getD 0 0) algo
        rw [activated, same]
        exact ⟨⟨by rw [own]; rfl, by rw [own]; rfl, rfl, rfl, rfl⟩, _, _, _, _, rfl⟩

end Rakp34

/-- A session of the setup has its keys as soon as anything is locked with them, and before that nothing
is. -/
structure Secured (crypto : Crypto) (session : Session) : Prop where
  auth : session.authAlgoInterface.isSome
  keyed : session.state = .active ∨ session.integrityAlgoInterface.isSome ∨
    session.cryptAlgoInterface.isSome → session.Keyed crypto
  unlocked : session.state = .setupInProgress →
    session.integrityAlgoInterface = none ∧ session.cryptAlgoInterface = none
  limited : session.Limited

theorem Secured.same {crypto : Crypto} {before after : Session} (secured : Secured crypto before)
    (same : SameKeys before after) (limited : after.Limited) : Secured crypto after where
  auth := by
    have sik := congrArg Option.isSome same.sik
    simpa [secured.auth] using sik
  keyed locked := by
    rw [same.state, same.integrity, same.crypt] at locked
    exact (secured.keyed locked).same same
  unlocked setup := by
    rw [same.state] at setup
    rw [same.integrity, same.crypt]
    exact secured.unlocked setup
  limited := limited

theorem Secured.rakp34 {daemon : Daemon} {session : Session} (secured : Secured daemon.crypto session)
    (moment : Moment) (inPayload : List UInt8) :
    Secured daemon.crypto (session.rakp34 daemon moment inPayload).1 := by
  rcases rakp34_cases daemon session moment inPayload secured.auth with
    ⟨_, refused⟩ | ⟨_, algo, known, activated⟩
  · rw [refused]
    constructor
    · exact secured.auth
    · rintro (torn | locked)
      · cases torn
      · obtain ⟨sik, k1, k2, keys⟩ := secured.keyed (Or.inr locked)
        exact ⟨sik, k1, k2, keys⟩
    · exact State.noConfusion
    · exact secured.limited
  · obtain ⟨k1, k2, first, second, same⟩ := activate_eq daemon
      { session with lastTime := moment.now } (inPayload.getD 0 0) algo
    rw [activated, same]
    exact ⟨rfl, fun _ => ⟨_, k1, k2, rfl, first, second, rfl, rfl⟩, State.noConfusion, secured.limited⟩

/-- The level rises at most to what the access of the session permits. -/
theorem setPrivilegeLevel_frame (session : Session) (reqPrivilegeLevel : UInt8) :
    SameNumbers session (session.setPrivilegeLevel reqPrivilegeLevel).1 ∧
      SameKeys session (session.setPrivilegeLevel reqPrivilegeLevel).1 ∧
      (session.Limited → (session.setPrivilegeLevel reqPrivilegeLevel).1.Limited) := by
  unfold setPrivilegeLevel
  split
  · exact ⟨.refl _, ⟨rfl, rfl, rfl, rfl⟩, id⟩
  split
  · exact ⟨.refl _, ⟨rfl, rfl, rfl, rfl⟩, id⟩
  split
  · exact ⟨.refl _, ⟨rfl, rfl, rfl, rfl⟩, id⟩
  split
  · exact ⟨.refl _, ⟨rfl, rfl, rfl, rfl⟩, id⟩
  next within => exact ⟨⟨rfl, rfl, rfl⟩, ⟨rfl, rfl, rfl, rfl⟩, fun _ => Or.inr (UInt8.not_lt.mp within)⟩

/-- What can happen to a session once it has been opened. -/
inductive Deed where
  | counted
  | rakp12 (moment : Moment) (request : RAKP1request)
  | rakp34 (moment : Moment) (inPayload : List UInt8)
  | setPrivilegeLevel (reqPrivilegeLevel : UInt8)
  | tornDown

def perform (daemon : Daemon) (session : Session) : Deed → Session
  | .counted => { session with sequenceOut := session.sequenceOut + 1 }
  | .rakp12 moment request => (session.rakp12 daemon moment request).1
  | .rakp34 moment inPayload => (session.rakp34 daemon moment inPayload).1
  | .setPrivilegeLevel reqPrivilegeLevel => (session.setPrivilegeLevel reqPrivilegeLevel).1
  | .tornDown => { session with state := .tearDownInProgress }

/-- The user of a session, with the access and the level that was asked for. -/
structure SameUser (before after : Session) : Prop where
  userName : after.userName = before.userName
  userID : after.userID = before.userID
  userAccess : after.sessionUserPrivAccess = before.sessionUserPrivAccess
  channelAccess : after.sessionChannelAccess = before.sessionChannelAccess
  channelNum : after.channelNum = before.channelNum
  reqMaxPrivLevel : after.reqMaxPrivLevel = before.reqMaxPrivLevel

theorem SameUser.refl (session : Session) : SameUser session session := ⟨rfl, rfl, rfl, rfl, rfl, rfl⟩

theorem SameUser.trans {first second third : Session} (left : SameUser first second)
    (right : SameUser second third) : SameUser first third where
  userName := right.userName.trans left.userName
  userID := right.userID.trans left.userID
  userAccess := right.userAccess.trans left.userAccess
  channelAccess := right.channelAccess.trans left.channelAccess
  channelNum := right.channelNum.trans left.channelNum
  reqMaxPrivLevel := right.reqMaxPrivLevel.trans left.reqMaxPrivLevel

theorem setPrivilegeLevel_eq (session : Session) (reqPrivilegeLevel : UInt8) : ∃ level,
    (session.setPrivilegeLevel reqPrivilegeLevel).1 = { session with currentPrivilege := level } := by
  unfold setPrivilegeLevel
  split_ifs <;> exact ⟨_, rfl⟩

section Perform

variable (daemon : Daemon) (session : Session) (deed : Deed)

theorem perform_sameNumbers : SameNumbers session (session.perform daemon deed) := by
  cases deed with
  | counted | tornDown => exact ⟨rfl, rfl, rfl⟩
  | rakp12 moment request => exact (rakp12_frame daemon moment request session).1
  | setPrivilegeLevel level => exact (setPrivilegeLevel_frame session level).1
  | rakp34 moment inPayload =>
      obtain ⟨_, auth, integrity, crypt, state, same⟩ :=
        rakp34_frame daemon session moment inPayload
      rw [perform, same]
      exact ⟨rfl, rfl, rfl⟩

/-- Nothing but the first message changes the user. -/
theorem perform_sameUser (other : ∀ moment request, deed ≠ .rakp12 moment request) :
    SameUser session (session.perform daemon deed) := by
  cases deed with
  | counted | tornDown => exact ⟨rfl, rfl, rfl, rfl, rfl, rfl⟩
  | rakp12 moment request => exact absurd rfl (other moment request)
  | setPrivilegeLevel level =>
      obtain ⟨changed, same⟩ := session.setPrivilegeLevel_eq level
      rw [perform, same]
      exact ⟨rfl, rfl, rfl, rfl, rfl, rfl⟩
  | rakp34 moment inPayload =>
      obtain ⟨_, auth, integrity, crypt, state, same⟩ :=
        rakp34_frame daemon session moment inPayload
      rw [perform, same]
      exact ⟨rfl, rfl, rfl, rfl, rfl, rfl⟩

/-- Nothing but the first message and the command for it changes the level. -/
theorem perform_currentPrivilege (other : ∀ moment request, deed ≠ .rakp12 moment request)
    (quiet : ∀ level, deed ≠ .setPrivilegeLevel level) :
    (session.perform daemon deed).currentPrivilege = session.currentPrivilege := by
  cases deed with
  | counted | tornDown => rfl
  | rakp12 moment request => exact absurd rfl (other moment request)
  | setPrivilegeLevel level => exact absurd rfl (quiet level)
  | rakp34 moment inPayload =>
      obtain ⟨_, auth, integrity, crypt, state, same⟩ :=
        rakp34_frame daemon session moment inPayload
      rw [perform, same]

variable {daemon session}

theorem Secured.perform (secured : Secured daemon.crypto session) :
    Secured daemon.crypto (session.perform daemon deed) := by
  cases deed with
  | counted => exact secured.same ⟨rfl, rfl, rfl, rfl⟩ secured.limited
  | rakp12 moment request =>
      have frame := rakp12_frame daemon moment request session
      exact secured.same frame.2.1 (rakp12_limited daemon moment request session secured.limited)
  | rakp34 moment inPayload => exact secured.rakp34 moment inPayload
  | setPrivilegeLevel level =>
      have frame := setPrivilegeLevel_frame session level
      exact secured.same frame.2.1 (frame.2.2 secured.limited)
  | tornDown =>
      constructor
      · exact secured.auth
      · rintro (torn | locked)
        · cases torn
        · obtain ⟨sik, k1, k2, keys⟩ := secured.keyed (Or.inr locked)
          exact ⟨sik, k1, k2, keys⟩
      · exact State.noConfusion
      · exact secured.limited

end Perform

end Session

end Chassis.Netipmid

import Chassis.Proof.Network.Run

namespace Chassis.Netipmid
open Data Effect LittleEndian Manager

variable {daemon : Daemon} {manager after : Manager} {ipmiNetworkInstance : UInt8}

section States

theorem slot_of_taken {handle : UInt8} (taken : manager.getSessionIDbyHandle handle ≠ 0) :
    manager.sessionHandleMap.getD handle.toNat 0 = manager.getSessionIDbyHandle handle := by
  unfold getSessionIDbyHandle at taken ⊢
  split
  · rfl
  next outside =>
    rw [if_neg outside] at taken
    exact absurd rfl taken

/-- A handle leads to a session exactly when it is the own one of the session. -/
theorem Manager.Sound.handle_iff (sound : manager.Sound) {sessionID : UInt32} {session : Session}
    (ordinary : sessionID ≠ sessionZero) (found : manager.find sessionID = some session)
    (handle : UInt8) : manager.getSessionIDbyHandle handle = sessionID ↔
      handle = session.sessionHandle &&& multiIntfaceSessionHandleMask := by
  have own := sound.handle ordinary found
  constructor
  · intro same
    apply UInt8.toNat_inj.mp
    apply sound.held.distinct
    · rw [slot_of_taken (by rw [same]; exact ordinary), slot_of_taken (by rw [own]; exact ordinary),
        same, own]
    · rw [slot_of_taken (by rw [same]; exact ordinary), same]
      exact ordinary
  · rintro rfl
    exact own

theorem Manager.Sound.handle_found (sound : manager.Sound) {handle : UInt8}
    (taken : manager.getSessionIDbyHandle handle ≠ 0) :
    ∃ session, manager.find (manager.getSessionIDbyHandle handle) = some session :=
  Option.isSome_iff_exists.mp ((sound.held.held taken).mp ⟨_, slot_of_taken taken⟩)

/-- In every state of a run there are at most 62 sessions besides the first one, which is always there.
Each of them stands under its own number, its handle leads to it, and no other handle does. -/
theorem reachable_handles (small : ipmiNetworkInstance < 4)
    (reached : daemon.Reachable ipmiNetworkInstance manager) :
    (manager.sessionsMap.map Prod.fst).Nodup ∧ (manager.find sessionZero).isSome ∧
    manager.sessionsMap.length ≤ maxSessionHandles ∧
    (∀ sessionID session, sessionID ≠ sessionZero → manager.find sessionID = some session →
      session.bmcSessionID = sessionID ∧
      sessionID >>> 30 = manager.ipmiNetworkInstance.toUInt32 ∧
      ∀ handle, manager.getSessionIDbyHandle handle = sessionID ↔
        handle = session.sessionHandle &&& multiIntfaceSessionHandleMask) ∧
    ∀ handle, manager.getSessionIDbyHandle handle ≠ 0 →
      ∃ session, manager.find (manager.getSessionIDbyHandle handle) = some session := by
  have sound := (reachable_kept small reached).sound
  refine ⟨sound.distinct, sound.zero, sound.length_le, ?_, fun _ => sound.handle_found⟩
  intro sessionID session ordinary found
  exact ⟨sound.own found, sound.network ordinary (by rw [found]; rfl),
    sound.handle_iff ordinary found⟩

theorem reachable_handles_root :
    (rootActive.sessionsMap.map Prod.fst).Nodup ∧ (rootActive.find sessionZero).isSome ∧
    rootActive.sessionsMap.length ≤ maxSessionHandles ∧
    (∀ sessionID session, sessionID ≠ sessionZero → rootActive.find sessionID = some session →
      session.bmcSessionID = sessionID ∧
      sessionID >>> 30 = rootActive.ipmiNetworkInstance.toUInt32 ∧
      ∀ handle, rootActive.getSessionIDbyHandle handle = sessionID ↔
        handle = session.sessionHandle &&& multiIntfaceSessionHandleMask) ∧
    ∀ handle, rootActive.getSessionIDbyHandle handle ≠ 0 →
      ∃ session, rootActive.find (rootActive.getSessionIDbyHandle handle) = some session :=
  reachable_handles (by decide) rootActive_reached

/-- In every state of a run the cleaning takes out exactly the sessions that are too old, measured with
the grace periods of the state before it, and their handles become free. -/
theorem reachable_cleaned (small : ipmiNetworkInstance < 4)
    (reached : daemon.Reachable ipmiNetworkInstance manager) (now : Nat) :
    (∀ sessionID, (manager.cleanStaleEntries now).find sessionID =
      (manager.find sessionID).filter fun session => sessionID = sessionZero ∨
        session.isSessionActive now manager.activeGrace manager.setupGrace) ∧
    ∀ handle, (manager.cleanStaleEntries now).getSessionIDbyHandle handle =
      if ((manager.cleanStaleEntries now).find (manager.getSessionIDbyHandle handle)).isSome then
        manager.getSessionIDbyHandle handle
      else 0 := by
  have sound := (reachable_kept small reached).sound
  have cleaned := (sound.cleanStaleEntries now).1
  have found := find_cleanStaleEntries sound now
  have before : ∀ {sessionID session}, (manager.cleanStaleEntries now).find sessionID = some session →
      manager.find sessionID = some session := by
    intro sessionID session stands
    rw [found] at stands
    exact (Option.filter_eq_some_iff.mp stands).1
  refine ⟨found, ?_⟩
  intro handle
  -- a handle that is still taken leads where it led before
  have later : (manager.cleanStaleEntries now).getSessionIDbyHandle handle ≠ 0 →
      (manager.cleanStaleEntries now).getSessionIDbyHandle handle =
        manager.getSessionIDbyHandle handle := by
    intro taken
    obtain ⟨session, stands⟩ := cleaned.handle_found taken
    have own := (cleaned.handle_iff taken stands handle).mp rfl
    exact ((sound.handle_iff taken (before stands) handle).mpr own).symm
  by_cases taken : manager.getSessionIDbyHandle handle = 0
  · rw [taken, ite_self]
    by_contra still
    exact still ((later still).trans taken)
  · split
    next stays =>
      obtain ⟨session, stands⟩ := Option.isSome_iff_exists.mp stays
      have own := (sound.handle_iff taken (before stands) handle).mp rfl
      exact (cleaned.handle_iff taken stands handle).mpr own
    next gone =>
      by_contra still
      apply gone
      rw [← later still]
      obtain ⟨session, stands⟩ := cleaned.handle_found still
      rw [stands]
      rfl

theorem reachable_cleaned_root :
    (∀ sessionID, (rootActive.cleanStaleEntries (2 ^ 40)).find sessionID =
      (rootActive.find sessionID).filter fun session => sessionID = sessionZero ∨
        session.isSessionActive (2 ^ 40) rootActive.activeGrace rootActive.setupGrace) ∧
    ∀ handle, (rootActive.cleanStaleEntries (2 ^ 40)).getSessionIDbyHandle handle =
      if ((rootActive.cleanStaleEntries (2 ^ 40)).find
        (rootActive.getSessionIDbyHandle handle)).isSome then
        rootActive.getSessionIDbyHandle handle
      else 0 :=
  reachable_cleaned (by decide) rootActive_reached (2 ^ 40)

/-- A request is complete and asks for the algorithms that there are. -/
structure OpenSessionRequest.Supported (inPayload : List UInt8) : Prop where
  complete : inPayload.length = openSessionRequestSize
  auth : (OpenSessionRequest.ofBytes inPayload).authAlgo = rakpHmacSha256
  integrity : (OpenSessionRequest.ofBytes inPayload).intAlgo = hmacSha256128
  crypt : (OpenSessionRequest.ofBytes inPayload).confAlgo = aesCbc128

theorem openSession_started {moment : Moment} {inPayload : List UInt8}
    (supported : OpenSessionRequest.Supported inPayload) {sessionID : UInt32}
    (started : manager.startSession moment.now moment.randoms moment.memory
      (OpenSessionRequest.ofBytes inPayload).remoteConsoleSessionID
      (OpenSessionRequest.ofBytes inPayload).priv = some (after, .ok sessionID)) :
    openSession moment manager inPayload =
      some (after.update sessionID fun session =>
          { session with lastTime := moment.now, state := .setupInProgress },
        .ok ((OpenSessionRequest.ofBytes inPayload).accept (OpenSessionRequest.ofBytes inPayload).priv
          sessionID)) := by
  simp [openSession, supported.complete, supported.auth, supported.integrity, supported.crypt,
    started]

theorem openSession_refused {moment : Moment} {inPayload : List UInt8}
    (supported : OpenSessionRequest.Supported inPayload) {text : String}
    (started : manager.startSession moment.now moment.randoms moment.memory
      (OpenSessionRequest.ofBytes inPayload).remoteConsoleSessionID
      (OpenSessionRequest.ofBytes inPayload).priv = some (after, raise text)) :
    openSession moment manager inPayload =
      some (after, .ok ((OpenSessionRequest.ofBytes inPayload).refuse rakpInsufficientResource)) := by
  simp [openSession, supported.complete, supported.auth, supported.integrity, supported.crypt,
    started, raise]

/-- A session is opened exactly when the cleaning leaves fewer than 62 others. The new session is set up
from there on, and the others stay as the cleaning left them. -/
theorem openSession_cases (sound : manager.Sound) {moment : Moment} {inPayload : List UInt8}
    (supported : OpenSessionRequest.Supported inPayload) {sessionID : UInt32}
    (drawn : (manager.cleanStaleEntries moment.now).drawSessionID moment.randoms = some sessionID) :
    let request := OpenSessionRequest.ofBytes inPayload
    let cleaned := manager.cleanStaleEntries moment.now
    (cleaned.sessionsMap.length < maxSessionHandles ∧ ∃ after slot,
      openSession moment manager inPayload =
        some (after, .ok (request.accept request.priv sessionID)) ∧
      after.find sessionID = some { cleaned.newSession slot moment.memory sessionID
        request.remoteConsoleSessionID request.priv with
          lastTime := moment.now, state := .setupInProgress } ∧
      ∀ other, other ≠ sessionID → after.find other = cleaned.find other) ∨
    (¬ cleaned.sessionsMap.length < maxSessionHandles ∧
      openSession moment manager inPayload =
        some (cleaned, .ok (request.refuse rakpInsufficientResource))) := by
  intro request cleaned
  have opens : (∃ after, manager.startSession moment.now moment.randoms moment.memory
      request.remoteConsoleSessionID request.priv = some (after, .ok sessionID)) ↔
        cleaned.sessionsMap.length < maxSessionHandles := startSession_ok_iff sound drawn
  by_cases room : cleaned.sessionsMap.length < maxSessionHandles
  · left
    obtain ⟨after, started⟩ := opens.mpr room
    rcases startSession_cases sound started with ⟨_, ⟨text, failed⟩, _⟩ | ⟨same, slot, own, _, _, rfl⟩
    · cases failed
    · cases own
      have new := (drawSessionID_some drawn).1
      refine ⟨room, _, slot, openSession_started supported started, ?_, ?_⟩
      · rw [find_update, if_pos rfl, find_insert new, if_pos rfl]
        rfl
      · intro other apart
        rw [find_update, if_neg apart, find_insert new, if_neg apart]
  · right
    have returned : ∃ after result, manager.startSession moment.now moment.randoms moment.memory
        request.remoteConsoleSessionID request.priv = some (after, result) :=
      manager.startSession_returns drawn
    obtain ⟨after, result, started⟩ := returned
    rcases startSession_cases sound started with ⟨rfl, ⟨text, rfl⟩, _⟩ | ⟨other, _, rfl, _, same, _⟩
    · exact ⟨room, openSession_refused supported started⟩
    · rw [drawn, Option.some.injEq] at same
      subst same
      exact absurd (opens.mp ⟨_, started⟩) room

/-- In every state of a run a session is opened exactly when the cleaning leaves fewer than 62 others,
and otherwise the request is refused. The check of the code against 63 others passes in any case. -/
theorem reachable_opened (small : ipmiNetworkInstance < 4)
    (reached : daemon.Reachable ipmiNetworkInstance manager) {moment : Moment}
    {inPayload : List UInt8} (supported : OpenSessionRequest.Supported inPayload) {sessionID : UInt32}
    (drawn : (manager.cleanStaleEntries moment.now).drawSessionID moment.randoms = some sessionID) :
    let request := OpenSessionRequest.ofBytes inPayload
    let cleaned := manager.cleanStaleEntries moment.now
    cleaned.sessionsMap.length - maxSessionlessCount < maxSessionHandles ∧
    if cleaned.sessionsMap.length < maxSessionHandles then
      ∃ after session,
        openSession moment manager inPayload =
          some (after, .ok (request.accept request.priv sessionID)) ∧
        cleaned.find sessionID = none ∧ after.find sessionID = some session ∧
        session.state = .setupInProgress ∧
        session.remoteConsoleSessionID = request.remoteConsoleSessionID ∧
        session.reqMaxPrivLevel = request.priv ∧
        ∀ other, other ≠ sessionID → after.find other = cleaned.find other
    else openSession moment manager inPayload =
      some (cleaned, .ok (request.refuse rakpInsufficientResource)) := by
  intro request cleaned
  have sound := (reachable_kept small reached).sound
  have limit : cleaned.sessionsMap.length ≤ maxSessionHandles :=
    (sound.cleanStaleEntries moment.now).1.length_le
  have passes : cleaned.sessionsMap.length - maxSessionlessCount < maxSessionHandles := by
    simp only [maxSessionlessCount, maxSessionHandles] at limit ⊢
    omega
  refine ⟨passes, ?_⟩
  rcases openSession_cases sound supported drawn with
    ⟨room, after, slot, opened, stands, others⟩ | ⟨full, refused⟩
  · rw [if_pos room]
    exact ⟨after, _, opened, (drawSessionID_some drawn).1, stands, rfl, rfl, rfl, others⟩
  · rw [if_neg full]
    exact refused

theorem reachable_opened_root :
    ((managerInit 0).cleanStaleEntries 0).sessionsMap.length - maxSessionlessCount <
      maxSessionHandles ∧
    ∃ after session,
      openSession rootMoment (managerInit 0) rootOpen =
        some (after, .ok ((OpenSessionRequest.ofBytes rootOpen).accept privilegeAdmin 1)) ∧
      ((managerInit 0).cleanStaleEntries 0).find 1 = none ∧ after.find 1 = some session ∧
      session.state = .setupInProgress ∧ session.remoteConsoleSessionID = 0xA0A2A3A4 ∧
      session.reqMaxPrivLevel = privilegeAdmin ∧
      ∀ other, other ≠ 1 → after.find other = ((managerInit 0).cleanStaleEntries 0).find other :=
  reachable_opened (by decide) (show rootDaemon.Reachable 0 (managerInit 0) from .start)
    (show OpenSessionRequest.Supported rootOpen from
      ⟨by decide, by decide, by decide, by decide⟩)
    (show ((managerInit 0).cleanStaleEntries 0).drawSessionID [1] = some 1 by decide +kernel)

/-- In every state of a run, whatever is accepted for an active session is sealed and encrypted with
keys that follow from the key of the session. -/
theorem active_sealed (small : ipmiNetworkInstance < 4)
    (reached : daemon.Reachable ipmiNetworkInstance manager) {inPacket : List UInt8}
    {message : Message} {header : SessionHeader} {session : Session}
    (accepted : Parser.unflatten daemon.crypto manager inPacket = .ok (message, header))
    (found : manager.find message.bmcSessionID = some session) (active : session.state = .active) :
    header = .ipmi20 ∧ ∃ sik k1 k2,
      session.authAlgoInterface.map AuthAlgo.sessionIntegrityKey = some sik ∧
      generateKn daemon.crypto sik const1 = .ok k1 ∧ generateKn daemon.crypto sik const2 = .ok k2 ∧
      Sealed daemon.crypto ⟨k1⟩ inPacket (decode (field inPacket 14 2)) ∧
      CryptAlgo.decryptPayload daemon.crypto ⟨k2⟩ inPacket Ipmi20Parser.sessionHeaderLength
        (decode (field inPacket 14 2)) = .ok message.payload := by
  have kept := reachable_kept small reached
  have ordinary : message.bmcSessionID ≠ sessionZero := by
    intro zero
    obtain ⟨lastTime, first⟩ := kept.zero
    rw [zero, first, Option.some.injEq] at found
    rw [← found] at active
    cases active
  obtain ⟨second, own, parsed⟩ := unflatten_ok accepted ordinary
  have same := parsed.found
  rw [found, Option.some.injEq] at same
  subst same
  obtain ⟨sik, k1, k2, key, first, cipher, integrity, crypt⟩ :=
    (kept.secured ordinary found).keyed (Or.inl active)
  obtain ⟨authenticated, encrypted⟩ := parsed.guarded ordinary
  obtain ⟨algo, codes, sealed⟩ := parsed.verified (authenticated (by rw [integrity]; rfl))
  obtain ⟨other, ciphers, decrypted⟩ := parsed.decrypted (encrypted (by rw [crypt]; rfl))
  rw [integrity, Option.some.injEq] at codes
  rw [crypt, Option.some.injEq] at ciphers
  exact ⟨second, sik, k1, k2, key, first, cipher, codes ▸ sealed, ciphers ▸ decrypted⟩

theorem active_sealed_root : SessionHeader.ipmi20 = .ipmi20 ∧ ∃ sik k1 k2,
    rootActiveSession.authAlgoInterface.map AuthAlgo.sessionIntegrityKey = some sik ∧
    generateKn rootCrypto sik const1 = .ok k1 ∧ generateKn rootCrypto sik const2 = .ok k2 ∧
    Sealed rootCrypto ⟨k1⟩ levelPacket (decode (field levelPacket 14 2)) ∧
    CryptAlgo.decryptPayload rootCrypto ⟨k2⟩ levelPacket Ipmi20Parser.sessionHeaderLength
      (decode (field levelPacket 14 2)) = .ok levelRequest.wire :=
  active_sealed (by decide) rootActive_reached
    (show Parser.unflatten rootCrypto rootActive levelPacket =
      .ok (levelMessage, .ipmi20) by decide +kernel)
    rootActive_found (by decide +kernel)

/-- In every state of a run the level of a session is at most that of a user, or what its user and its
channel are permitted. -/
theorem reachable_limited (small : ipmiNetworkInstance < 4)
    (reached : daemon.Reachable ipmiNetworkInstance manager) {sessionID : UInt32} {session : Session}
    (found : manager.find sessionID = some session) :
    session.currentPrivilege ≤ privilegeUser ∨
      (session.currentPrivilege ≤ session.sessionUserPrivAccess.privilege ∧
        session.currentPrivilege ≤ session.sessionChannelAccess.privLimit) := by
  have kept := reachable_kept small reached
  by_cases ordinary : sessionID = sessionZero
  · obtain ⟨lastTime, first⟩ := kept.zero
    rw [ordinary, first, Option.some.injEq] at found
    rw [← found]
    exact Or.inl (show (0 : UInt8) ≤ privilegeUser by decide)
  · rcases (kept.secured ordinary found).limited with user | permitted
    · exact Or.inl user
    · right
      unfold Session.minPriv at permitted
      split at permitted
      next lower =>
        exact ⟨UInt8.le_trans permitted (UInt8.le_of_lt lower), permitted⟩
      next higher =>
        exact ⟨permitted, UInt8.le_trans permitted (UInt8.not_lt.mp higher)⟩

theorem reachable_limited_root :
    rootActiveSession.currentPrivilege ≤ privilegeUser ∨
      (rootActiveSession.currentPrivilege ≤ rootActiveSession.sessionUserPrivAccess.privilege ∧
        rootActiveSession.currentPrivilege ≤ rootActiveSession.sessionChannelAccess.privLimit) :=
  reachable_limited (by decide) rootActive_reached rootActive_found

end States

end Chassis.Netipmid

import Chassis.Proof.Network.Clean

namespace Chassis.Netipmid
open Data

theorem small_cases {network : UInt8} (small : network < 4) :
    network = 0 ∨ network = 1 ∨ network = 2 ∨ network = 3 := by
  have checked := forall_byte (fun byte =>
    decide (byte < 4 → byte = 0 ∨ byte = 1 ∨ byte = 2 ∨ byte = 3)) (by decide +kernel) network
  exact of_decide_eq_true checked small

/-- The part of a handle that is left of the network is the slot. -/
theorem sessionHandle_slot {network : UInt8} (small : network < 4) (handle : UInt8) :
    (handle &&& multiIntfaceSessionHandleMask ||| network <<< 6) &&& multiIntfaceSessionHandleMask =
      handle &&& multiIntfaceSessionHandleMask := by
  have checked := forall_byte (fun handle => [0, 1, 2, 3].all fun network : UInt8 =>
    ((handle &&& multiIntfaceSessionHandleMask ||| network <<< 6) &&&
      multiIntfaceSessionHandleMask) == handle &&& multiIntfaceSessionHandleMask)
    (by decide +kernel) handle
  rw [List.all_eq_true] at checked
  exact beq_iff_eq.mp (checked network (by simpa using small_cases small))

theorem toNat_slot {slot : Nat} (inside : slot < maxSessionHandles) :
    (UInt8.ofNat slot).toNat = slot := by
  have limit : maxSessionHandles = 63 := rfl
  rw [UInt8.toNat_ofNat']
  omega

theorem mask_slot {slot : Nat} (inside : slot < maxSessionHandles) :
    UInt8.ofNat slot &&& multiIntfaceSessionHandleMask = UInt8.ofNat slot := by
  have checked := forall_byte (fun handle =>
    decide (handle < 63 → handle &&& multiIntfaceSessionHandleMask = handle))
    (by decide +kernel) (UInt8.ofNat slot)
  apply of_decide_eq_true checked
  rw [UInt8.lt_iff_toNat_lt, toNat_slot inside]
  exact inside

namespace Manager

theorem sessionIDOf_network {manager : Manager} (small : manager.ipmiNetworkInstance < 4)
    (random : UInt32) :
    manager.sessionIDOf random >>> 30 = manager.ipmiNetworkInstance.toUInt32 := by
  have masked : (random &&& multiIntfaceSessionIDMask) >>> 30 = 0 := by
    rw [UInt32.shiftRight_and, show multiIntfaceSessionIDMask >>> 30 = 0 by decide, UInt32.and_zero]
  rw [sessionIDOf, UInt32.shiftRight_or, masked, UInt32.zero_or]
  rcases small_cases small with network | network | network | network <;> rw [network] <;> decide

/-- A new session stands behind the others, and its number in a free slot. -/
def insert (manager : Manager) (sessionID : UInt32) (slot : Nat) (session : Session) : Manager :=
  { manager with
    sessionHandleMap := manager.sessionHandleMap.set slot sessionID
    sessionsMap := manager.sessionsMap ++ [(sessionID, session)] }

theorem find_insert {manager : Manager} {sessionID : UInt32} (new : manager.find sessionID = none)
    (slot : Nat) (session : Session) (other : UInt32) :
    (manager.insert sessionID slot session).find other =
      if other = sessionID then some session else manager.find other := by
  rw [find, insert, List.lookup_append, lookup_cons_key]
  by_cases hit : other = sessionID
  · rw [hit, show manager.sessionsMap.lookup sessionID = none from new]
    simp
  · cases stood : manager.find other with
    | none => simp [hit, show manager.sessionsMap.lookup other = none from stood]
    | some before => simp [hit, show manager.sessionsMap.lookup other = some before from stood]

/-- The slot that a new session can take. -/
structure Vacant (manager : Manager) (slot : Nat) : Prop where
  positive : 0 < slot
  inside : slot < maxSessionHandles
  empty : manager.sessionHandleMap.getD slot 0 = 0

theorem Sound.insert {manager : Manager} (sound : manager.Sound) {sessionID : UInt32} {slot : Nat}
    {session : Session} (vacant : manager.Vacant slot) (new : manager.find sessionID = none)
    (own : session.bmcSessionID = sessionID)
    (handle : session.sessionHandle &&& multiIntfaceSessionHandleMask = UInt8.ofNat slot)
    (network : sessionID >>> 30 = manager.ipmiNetworkInstance.toUInt32) :
    (manager.insert sessionID slot session).Sound := by
  have taken : sessionID ≠ sessionZero := by
    intro zero
    have stands := sound.zero
    rw [← zero, new] at stands
    simp at stands
  have inside : slot < manager.sessionHandleMap.length := by
    rw [sound.size]
    exact vacant.inside
  constructor
  · rw [Manager.insert, List.map_append, List.map_cons, List.map_nil, List.nodup_append]
    refine ⟨sound.distinct, by simp, ?_⟩
    intro key listed other single
    obtain ⟨entry, stands, rfl⟩ := List.mem_map.mp listed
    rw [List.mem_singleton] at single
    rintro rfl
    have found := lookup_of_mem sound.distinct stands
    rw [← find, single, new] at found
    simp at found
  · intro other found stands
    rw [find_insert new] at stands
    split at stands
    next hit =>
      rw [Option.some.injEq] at stands
      rw [← stands, own, hit]
    · exact sound.own stands
  · rw [find_insert new, if_neg (Ne.symm taken)]
    exact sound.zero
  · rw [Manager.insert, List.length_set]
    exact sound.size
  · apply (sound.held.claim vacant.positive inside vacant.empty taken (by simp [new])).congr
    intro other _
    rw [find_insert new]
    by_cases hit : other = sessionID <;> simp [hit]
  · intro other found stands present
    rw [getSessionIDbyHandle, Manager.insert]
    rw [find_insert new] at present
    split at present
    next hit =>
      rw [Option.some.injEq] at present
      rw [← present, handle, toNat_slot vacant.inside, if_pos vacant.inside, getD_set, if_pos ⟨rfl, inside⟩, hit]
    next apart =>
      have before := sound.handle stands present
      rw [getSessionIDbyHandle] at before
      split at before
      next bound =>
        rw [if_pos bound, getD_set, if_neg, before]
        rintro ⟨same, _⟩
        rw [same, vacant.empty] at before
        exact stands before.symm
      next => exact absurd before.symm stands
  · exact sound.small
  · intro other stands present
    rw [find_insert new] at present
    split at present
    next hit => rw [hit]; exact network
    · exact sound.network stands present

/-- The number of a new session is in the first free slot. -/
theorem storeSessionHandle_cases (manager : Manager) (bmcSessionID : UInt32) :
    (manager.storeSessionHandle bmcSessionID = (manager, 0) ∧ ∀ slot, ¬ manager.Vacant slot) ∨
    ∃ slot, manager.Vacant slot ∧ manager.storeSessionHandle bmcSessionID =
      ({ manager with sessionHandleMap := manager.sessionHandleMap.set slot bmcSessionID },
        UInt8.ofNat slot) := by
  unfold storeSessionHandle
  cases search : (List.range' 1 (maxSessionHandles - 1)).find? fun index =>
      manager.sessionHandleMap.getD index 0 = 0 with
  | none =>
      left
      refine ⟨rfl, ?_⟩
      rintro slot ⟨positive, inside, empty⟩
      have missed := List.find?_eq_none.mp search slot (by
        rw [List.mem_range'_1]
        simp only [maxSessionHandles] at inside ⊢
        omega)
      exact missed (by simpa using empty)
  | some slot =>
      right
      have bound := List.mem_of_find?_eq_some search
      simp only [List.mem_range'_1, maxSessionHandles] at bound
      exact ⟨slot, ⟨by omega, by simp only [maxSessionHandles]; omega,
        by simpa using List.find?_some search⟩, rfl⟩

/-- What a session is when it is opened. -/
def newSession (manager : Manager) (slot : Nat) (memory : List UInt8 × List UInt8)
    (bmcSessionID remoteConsoleSessID : UInt32) (priv : UInt8) : Session where
  bmcSessionID := bmcSessionID
  remoteConsoleSessionID := remoteConsoleSessID
  reqMaxPrivLevel := priv
  authAlgoInterface := some ⟨defaultUserKey, memory.1, memory.2, []⟩
  sessionHandle := UInt8.ofNat slot &&& multiIntfaceSessionHandleMask |||
    manager.ipmiNetworkInstance <<< 6

/-- A number that no session has is drawn from the random numbers. -/
theorem drawSessionID_some {manager : Manager} {randoms : List UInt32} {sessionID : UInt32}
    (drawn : manager.drawSessionID randoms = some sessionID) :
    manager.find sessionID = none ∧ ∃ random ∈ randoms, sessionID = manager.sessionIDOf random := by
  constructor
  · simpa using List.find?_some drawn
  · obtain ⟨random, listed, same⟩ := List.mem_map.mp (List.mem_of_find?_eq_some drawn)
    exact ⟨random, listed, same.symm⟩

theorem sessionIDOf_congr {manager other : Manager}
    (same : manager.ipmiNetworkInstance = other.ipmiNetworkInstance) :
    manager.sessionIDOf = other.sessionIDOf := by
  funext random
  rw [sessionIDOf, sessionIDOf, same]

theorem startSession_returns (manager : Manager) {now : Nat} {randoms : List UInt32}
    {memory : List UInt8 × List UInt8} {remoteConsoleSessID sessionID : UInt32} {priv : UInt8}
    (drawn : (manager.cleanStaleEntries now).drawSessionID randoms = some sessionID) :
    ∃ after result, manager.startSession now randoms memory remoteConsoleSessID priv =
      some (after, result) := by
  by_cases free : (manager.cleanStaleEntries now).sessionsMap.length - maxSessionlessCount <
      maxSessionHandles
  · rw [startSession, if_pos free, drawn]
    exact ⟨_, _, rfl⟩
  · rw [startSession, if_neg free]
    exact ⟨_, _, rfl⟩

section Start

variable {manager : Manager} (sound : manager.Sound) {now : Nat} {randoms : List UInt32}
  {memory : List UInt8 × List UInt8} {remoteConsoleSessID : UInt32} {priv : UInt8}

include sound

/-- A session is refused and only the old ones are taken out, or it is the last one in the map. -/
theorem startSession_cases {after : Manager} {result : Result UInt32}
    (started : manager.startSession now randoms memory remoteConsoleSessID priv =
      some (after, result)) :
    let cleaned := manager.cleanStaleEntries now
    (after = cleaned ∧ (∃ text, result = raise text) ∧ ∀ slot, ¬ cleaned.Vacant slot) ∨
    ∃ sessionID slot, result = .ok sessionID ∧ cleaned.Vacant slot ∧
      cleaned.drawSessionID randoms = some sessionID ∧
      after = cleaned.insert sessionID slot
        (cleaned.newSession slot memory sessionID remoteConsoleSessID priv) := by
  intro cleaned
  have limit := (sound.cleanStaleEntries now).1.length_le
  have free : cleaned.sessionsMap.length - maxSessionlessCount < maxSessionHandles := by
    have positive : maxSessionHandles = 63 ∧ maxSessionlessCount = 1 := ⟨rfl, rfl⟩
    simp only [cleaned]
    omega
  rw [startSession, if_pos free, Option.map_eq_some_iff] at started
  obtain ⟨sessionID, drawn, rest⟩ := started
  rcases cleaned.storeSessionHandle_cases sessionID with ⟨full, none⟩ | ⟨slot, vacant, stored⟩
  · rw [full] at rest
    simp only [if_true, Prod.mk.injEq] at rest
    exact Or.inl ⟨rest.1.symm, ⟨_, rest.2.symm⟩, none⟩
  · have nonzero : UInt8.ofNat slot ≠ 0 := by
      intro zero
      have byte := toNat_slot vacant.inside
      rw [zero] at byte
      have positive := vacant.positive
      rw [← byte] at positive
      simp at positive
    rw [stored] at rest
    simp only [if_neg nonzero, Prod.mk.injEq] at rest
    exact Or.inr ⟨sessionID, slot, rest.2.symm, vacant, drawn, rest.1.symm⟩

/-- A new session may take any vacant slot. -/
theorem Sound.insert_new {slot : Nat} (vacant : manager.Vacant slot) {sessionID : UInt32}
    (drawn : manager.drawSessionID randoms = some sessionID) :
    (manager.insert sessionID slot
      (manager.newSession slot memory sessionID remoteConsoleSessID priv)).Sound := by
  obtain ⟨new, random, _, same⟩ := drawSessionID_some drawn
  apply sound.insert vacant new rfl
  · rw [newSession, sessionHandle_slot sound.small, mask_slot vacant.inside]
  · rw [same]
    exact sessionIDOf_network sound.small random

theorem Sound.startSession {after : Manager} {result : Result UInt32}
    (started : manager.startSession now randoms memory remoteConsoleSessID priv =
      some (after, result)) :
    after.Sound := by
  have kept := sound.cleanStaleEntries now
  rcases startSession_cases sound started with
    ⟨rfl, _, _⟩ | ⟨sessionID, slot, _, vacant, drawn, rfl⟩
  · exact kept.1
  · exact kept.1.insert_new vacant drawn

/-- Where no slot is vacant, all of them are held by sessions. -/
theorem Sound.vacant_of_length (room : manager.sessionsMap.length < maxSessionHandles) :
    ∃ slot, manager.Vacant slot := by
  by_contra full
  let held := (List.range' 1 62).map fun slot => manager.sessionHandleMap.getD slot 0
  have taken : ∀ slot ∈ List.range' 1 62, manager.sessionHandleMap.getD slot 0 ≠ 0 := by
    intro slot listed empty
    rw [List.mem_range'_1] at listed
    have limit : maxSessionHandles = 63 := rfl
    exact full ⟨slot, ⟨by omega, by omega, empty⟩⟩
  have once : held.Nodup := by
    apply List.Nodup.map_on
    · intro first listed second _ same
      exact sound.held.distinct same (taken first listed)
    · exact List.nodup_range'
  have zero : (0 : UInt32) ∉ held := by
    intro listed
    obtain ⟨slot, inside, empty⟩ := List.mem_map.mp listed
    exact taken slot inside empty
  have keys : 0 :: held ⊆ manager.sessionsMap.map Prod.fst := by
    intro sessionID listed
    have present : (manager.find sessionID).isSome := by
      rcases List.mem_cons.mp listed with rfl | later
      · exact sound.zero
      · obtain ⟨slot, inside, found⟩ := List.mem_map.mp later
        have stands := taken slot inside
        exact (sound.held.held (found ▸ stands)).mp ⟨slot, found⟩
    obtain ⟨session, found⟩ := Option.isSome_iff_exists.mp present
    exact List.mem_map_of_mem (mem_of_lookup found)
  have count := ((List.nodup_cons.mpr ⟨zero, once⟩).subperm keys).length_le
  simp only [held, List.length_cons, List.length_map, List.length_range', maxSessionHandles]
    at count room
  omega

/-- A session is opened exactly when there are fewer than 62 others, and the check of the code against
63 never refuses one. -/
theorem startSession_ok_iff {sessionID : UInt32}
    (drawn : (manager.cleanStaleEntries now).drawSessionID randoms = some sessionID) :
    (∃ after, manager.startSession now randoms memory remoteConsoleSessID priv =
      some (after, .ok sessionID)) ↔
    (manager.cleanStaleEntries now).sessionsMap.length < maxSessionHandles := by
  have kept := (sound.cleanStaleEntries now).1
  constructor
  · rintro ⟨after, started⟩
    have grown := (sound.startSession started).length_le
    rcases startSession_cases sound started with ⟨_, ⟨text, failed⟩, _⟩ | ⟨_, _, _, _, _, rfl⟩
    · cases failed
    · rw [insert, List.length_append, List.length_singleton] at grown
      omega
  · intro room
    have returned : ∃ after result, manager.startSession now randoms memory remoteConsoleSessID
        priv = some (after, result) := manager.startSession_returns drawn
    obtain ⟨after, result, started⟩ := returned
    obtain ⟨slot, vacant⟩ := kept.vacant_of_length room
    rcases startSession_cases sound started with ⟨_, _, full⟩ | ⟨other, _, rfl, _, same, _⟩
    · exact absurd vacant (full slot)
    · rw [drawn, Option.some.injEq] at same
      rw [same]
      exact ⟨after, started⟩

end Start

end Manager

end Chassis.Netipmid

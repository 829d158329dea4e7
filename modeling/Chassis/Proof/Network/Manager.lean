import Chassis.Construction.Network.Session
import Chassis.Data.Assoc
import Chassis.Data.Byte
import Chassis.Data.Slots

namespace Chassis.Netipmid
open Data

namespace Manager

@[simp] theorem find_update (manager : Manager) (sessionID other : UInt32)
    (change : Session → Session) :
    (manager.update sessionID change).find other =
      if other = sessionID then (manager.find other).map change else manager.find other :=
  lookup_map_key manager.sessionsMap sessionID other change

theorem find_updated {manager : Manager} {sessionID : UInt32} {session : Session}
    (found : manager.find sessionID = some session) (change : Session → Session) :
    (manager.update sessionID change).find sessionID = some (change session) := by
  rw [find_update, if_pos rfl, found, Option.map_some]

@[simp] theorem update_sessionHandleMap (manager : Manager) (sessionID : UInt32)
    (change : Session → Session) :
    (manager.update sessionID change).sessionHandleMap = manager.sessionHandleMap := rfl

@[simp] theorem update_ipmiNetworkInstance (manager : Manager) (sessionID : UInt32)
    (change : Session → Session) :
    (manager.update sessionID change).ipmiNetworkInstance = manager.ipmiNetworkInstance := rfl

@[simp] theorem update_getSessionIDbyHandle (manager : Manager) (sessionID : UInt32)
    (change : Session → Session) (handle : UInt8) :
    (manager.update sessionID change).getSessionIDbyHandle handle =
      manager.getSessionIDbyHandle handle := rfl

/-- Without the session there is nothing to change. -/
theorem update_absent {manager : Manager} {sessionID : UInt32} (absent : manager.find sessionID = none)
    (change : Session → Session) : manager.update sessionID change = manager := by
  have same : (manager.sessionsMap.map fun entry =>
      if entry.1 = sessionID then (entry.1, change entry.2) else entry) = manager.sessionsMap := by
    rw [List.map_congr_left, List.map_id]
    intro entry listed
    have other : entry.1 ≠ sessionID := by
      intro hit
      have unequal := (List.lookup_eq_none_iff.mp absent) entry listed
      simp [hit] at unequal
    simp [other]
  rw [update, same]

/-- The map holds every session under its own number, and the table of the handles holds exactly the
numbers of the sessions. -/
structure Sound (manager : Manager) : Prop where
  distinct : (manager.sessionsMap.map Prod.fst).Nodup
  own : ∀ {sessionID session}, manager.find sessionID = some session →
    session.bmcSessionID = sessionID
  zero : (manager.find sessionZero).isSome
  size : manager.sessionHandleMap.length = maxSessionHandles
  held : Holds 0 manager.sessionHandleMap fun sessionID => (manager.find sessionID).isSome
  handle : ∀ {sessionID session}, sessionID ≠ sessionZero → manager.find sessionID = some session →
    manager.getSessionIDbyHandle (session.sessionHandle &&& multiIntfaceSessionHandleMask) = sessionID
  small : manager.ipmiNetworkInstance < 4
  network : ∀ {sessionID}, sessionID ≠ sessionZero → (manager.find sessionID).isSome →
    sessionID >>> 30 = manager.ipmiNetworkInstance.toUInt32

/-- A change of a session that keeps its numbers keeps the tables. -/
theorem Sound.update {manager : Manager} (sound : manager.Sound) {sessionID : UInt32}
    {change : Session → Session}
    (numbers : ∀ session, manager.find sessionID = some session →
      (change session).bmcSessionID = session.bmcSessionID ∧
        (change session).sessionHandle = session.sessionHandle) :
    (manager.update sessionID change).Sound := by
  have present : ∀ other, ((manager.update sessionID change).find other).isSome =
      (manager.find other).isSome := by
    intro other
    rw [find_update]
    split <;> simp
  constructor
  · rw [Manager.update, map_fst_map_key]
    exact sound.distinct
  · intro other session found
    rw [find_update] at found
    split at found
    · obtain ⟨before, stood, rfl⟩ := Option.map_eq_some_iff.mp found
      next same => rw [(numbers before (same ▸ stood)).1, sound.own stood]
    · exact sound.own found
  · rw [present]
    exact sound.zero
  · exact sound.size
  · apply sound.held.congr
    intro other _
    rw [present]
  · intro other session taken found
    rw [update_getSessionIDbyHandle]
    rw [find_update] at found
    split at found
    · obtain ⟨before, stood, rfl⟩ := Option.map_eq_some_iff.mp found
      next same => rw [(numbers before (same ▸ stood)).2, sound.handle taken stood]
    · exact sound.handle taken found
  · exact sound.small
  · intro other taken stands
    rw [present] at stands
    exact sound.network taken stands

/-- A change of a session can be written down with the session that is found. -/
theorem Sound.update_found {manager : Manager} (sound : manager.Sound) {sessionID : UInt32}
    {session : Session} (found : manager.find sessionID = some session)
    (change : Session → Session) :
    manager.update sessionID change = manager.update sessionID fun _ => change session := by
  unfold Manager.update
  congr 1
  apply List.map_congr_left
  intro entry listed
  by_cases hit : entry.1 = sessionID
  · have stood := lookup_of_mem sound.distinct listed
    rw [← find, hit, found, Option.some.injEq] at stood
    simp [hit, stood]
  · simp [hit]

section Handles

variable {manager : Manager} (sound : manager.Sound)

include sound

/-- A session is found by its number in the slot of its handle. -/
theorem getD_getSessionHandle {sessionID : UInt32} (taken : sessionID ≠ 0)
    (stands : (manager.find sessionID).isSome) :
    manager.sessionHandleMap.getD (manager.getSessionHandle sessionID).toNat 0 = sessionID := by
  obtain ⟨index, found⟩ := (sound.held.held taken).mpr stands
  have inside : index < 63 := by
    by_contra outside
    have default := List.getD_eq_default manager.sessionHandleMap 0
      (by rw [sound.size, maxSessionHandles]; omega : manager.sessionHandleMap.length ≤ index)
    exact taken (found.symm.trans default)
  have positive : 0 < index := by
    by_contra first
    have zero : index = 0 := by omega
    rw [zero, sound.held.reserved] at found
    exact taken found.symm
  unfold getSessionHandle
  cases search : (List.range' 1 (maxSessionHandles - 1)).find? fun index =>
      manager.sessionHandleMap.getD index 0 = sessionID with
  | none =>
      have missed := List.find?_eq_none.mp search index (by simp; omega)
      exact absurd found (by simpa using missed)
  | some slot =>
      have bound := List.mem_of_find?_eq_some search
      simp only [List.mem_range'_1, maxSessionHandles] at bound
      have byte : (UInt8.ofNat slot).toNat = slot := by
        rw [UInt8.toNat_ofNat']
        omega
      simpa [byte] using List.find?_some search

/-- A number without a session has the handle that is never used. -/
theorem getSessionHandle_absent {sessionID : UInt32} (taken : sessionID ≠ 0)
    (absent : manager.find sessionID = none) : manager.getSessionHandle sessionID = 0 := by
  have missing : ∀ index, manager.sessionHandleMap.getD index 0 ≠ sessionID := by
    intro index found
    have stands := (sound.held.held taken).mp ⟨index, found⟩
    rw [absent] at stands
    simp at stands
  have search : (List.range' 1 (maxSessionHandles - 1)).find? (fun index =>
      decide (manager.sessionHandleMap.getD index 0 = sessionID)) = none := by
    rw [List.find?_eq_none]
    intro index _
    exact mt of_decide_eq_true (missing index)
  rw [getSessionHandle, search]

/-- There is a slot fewer for the sessions than there are handles. -/
theorem Sound.length_le : manager.sessionsMap.length ≤ maxSessionHandles := by
  have listed : ∀ sessionID ∈ (manager.sessionsMap.map Prod.fst).filter (· ≠ sessionZero),
      sessionID ≠ 0 ∧ (manager.find sessionID).isSome := by
    intro sessionID member
    obtain ⟨key, other⟩ := List.mem_filter.mp member
    obtain ⟨entry, stands, rfl⟩ := List.mem_map.mp key
    constructor
    · exact of_decide_eq_true other
    · rw [find, lookup_of_mem sound.distinct stands]
      rfl
  have bound := sound.held.length_lt (sound.distinct.filter _) listed (by rw [sound.size]; decide)
  have once : (manager.sessionsMap.map Prod.fst).length ≤
      ((manager.sessionsMap.map Prod.fst).filter (· ≠ sessionZero)).length + 1 := by
    have count := List.nodup_iff_count_le_one.mp sound.distinct sessionZero
    have split := List.length_eq_length_filter_add (l := manager.sessionsMap.map Prod.fst)
      (fun key => decide (key ≠ sessionZero))
    have rest : ((manager.sessionsMap.map Prod.fst).filter fun key =>
        !decide (key ≠ sessionZero)).length = (manager.sessionsMap.map Prod.fst).count sessionZero := by
      rw [List.count_eq_length_filter]
      congr 1
      apply List.filter_congr
      intro key _
      by_cases hit : key = sessionZero <;> simp [hit]
    omega
  rw [List.length_map] at once
  rw [sound.size] at bound
  omega

end Handles

end Manager

end Chassis.Netipmid

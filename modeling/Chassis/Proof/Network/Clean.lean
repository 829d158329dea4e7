import Chassis.Proof.Network.Manager

namespace Chassis.Netipmid
open Data

namespace Manager

/-- The session that is taken out, and the slot of its handle. -/
def remove (manager : Manager) (sessionID : UInt32) : Manager :=
  { manager with
    sessionHandleMap := manager.sessionHandleMap.set (manager.getSessionHandle sessionID).toNat 0
    sessionsMap := manager.sessionsMap.filter fun other => other.1 ≠ sessionID }

theorem find_remove (manager : Manager) (sessionID other : UInt32) :
    (manager.remove sessionID).find other =
      if other = sessionID then none else manager.find other :=
  lookup_filter_key manager.sessionsMap sessionID other

section Remove

variable {manager : Manager} (sound : manager.Sound) {sessionID : UInt32} (taken : sessionID ≠ 0)

include sound taken

theorem slot_remove :
    manager.sessionHandleMap.getD (manager.getSessionHandle sessionID).toNat 0 =
      if (manager.find sessionID).isSome then sessionID else 0 := by
  split
  next stands => exact getD_getSessionHandle sound taken stands
  next missing =>
    rw [getSessionHandle_absent sound taken (by simpa using missing)]
    exact sound.held.reserved

/-- The other sessions keep their handles. -/
theorem getSessionIDbyHandle_remove {handle : UInt8} {other : UInt32} (apart : other ≠ sessionID)
    (stands : other ≠ 0) (found : manager.getSessionIDbyHandle handle = other) :
    (manager.remove sessionID).getSessionIDbyHandle handle = other := by
  unfold getSessionIDbyHandle at found ⊢
  split at found
  next inside =>
    have elsewhere : handle.toNat ≠ (manager.getSessionHandle sessionID).toNat := by
      intro same
      rw [same, slot_remove sound taken] at found
      split at found
      · exact apart found.symm
      · exact stands found.symm
    rw [if_pos inside, remove, getD_set, if_neg (fun hit => elsewhere hit.1), found]
  next => exact absurd found.symm stands

theorem Sound.remove : (manager.remove sessionID).Sound := by
  constructor
  · rw [Manager.remove, map_fst_filter_key]
    exact sound.distinct.filter _
  · intro other session found
    rw [find_remove] at found
    split at found
    · simp at found
    · exact sound.own found
  · have apart : sessionZero ≠ sessionID := Ne.symm taken
    rw [find_remove, if_neg apart]
    exact sound.zero
  · rw [Manager.remove, List.length_set]
    exact sound.size
  · apply (sound.held.release _).congr
    intro other stands
    rw [slot_remove sound taken, find_remove]
    by_cases same : other = sessionID
    · subst same
      by_cases present : (manager.find other).isSome <;> simp [present]
    · by_cases present : (manager.find sessionID).isSome <;> simp [present, same, stands]
  · intro other session stands found
    rw [find_remove] at found
    split at found
    · simp at found
    next apart =>
      exact getSessionIDbyHandle_remove sound taken apart stands (sound.handle stands found)
  · exact sound.small
  · intro other stands present
    rw [find_remove] at present
    split at present
    · simp at present
    · exact sound.network stands present

end Remove

section Fold

variable (now activeGrace setupGrace : Nat)

/-- A session stays as long as it is not too old. -/
def Fresh (sessionID : UInt32) (session : Session) : Prop :=
  sessionID = sessionZero ∨ session.isSessionActive now activeGrace setupGrace = true

instance (sessionID : UInt32) (session : Session) :
    Decidable (Fresh now activeGrace setupGrace sessionID session) :=
  inferInstanceAs (Decidable (_ ∨ _))

theorem cleanEntry_eq (manager : Manager) {entry : UInt32 × Session}
    (own : entry.2.bmcSessionID = entry.1) :
    cleanEntry now activeGrace setupGrace manager entry =
      if Fresh now activeGrace setupGrace entry.1 entry.2 then manager
      else manager.remove entry.1 := by
  unfold cleanEntry remove Fresh
  rw [own]
  by_cases zero : entry.1 = sessionZero <;>
    by_cases active : entry.2.isSessionActive now activeGrace setupGrace <;> simp [zero, active]

/-- Every turn of the loop keeps the tables and takes out at most its own session. -/
theorem foldl_cleanEntry {entries : List (UInt32 × Session)} {manager : Manager}
    (sound : manager.Sound) (own : ∀ entry ∈ entries, entry.2.bmcSessionID = entry.1) :
    (entries.foldl (cleanEntry now activeGrace setupGrace) manager).Sound ∧
      (entries.foldl (cleanEntry now activeGrace setupGrace) manager).ipmiNetworkInstance =
        manager.ipmiNetworkInstance ∧
      ∀ other, (entries.foldl (cleanEntry now activeGrace setupGrace) manager).find other =
        if ∃ entry ∈ entries, entry.1 = other ∧ ¬ Fresh now activeGrace setupGrace entry.1 entry.2
        then none else manager.find other := by
  induction entries generalizing manager with
  | nil => exact ⟨sound, rfl, by simp⟩
  | cons entry rest ih =>
      have ownRest : ∀ entry ∈ rest, entry.2.bmcSessionID = entry.1 := fun entry later =>
        own entry (List.mem_cons_of_mem _ later)
      rw [List.foldl_cons, cleanEntry_eq now activeGrace setupGrace manager
        (own entry List.mem_cons_self)]
      by_cases fresh : Fresh now activeGrace setupGrace entry.1 entry.2
      · rw [if_pos fresh]
        obtain ⟨kept, network, found⟩ := ih sound ownRest
        refine ⟨kept, network, ?_⟩
        intro other
        rw [found]
        apply if_congr _ rfl rfl
        rw [List.exists_mem_cons_iff]
        tauto
      · have taken : entry.1 ≠ 0 := fun zero => fresh (Or.inl zero)
        rw [if_neg fresh]
        obtain ⟨kept, network, found⟩ := ih (sound.remove taken) ownRest
        refine ⟨kept, network, ?_⟩
        intro other
        rw [found, find_remove]
        by_cases hit : other = entry.1
        · rw [if_pos hit, ite_self, if_pos]
          exact ⟨entry, List.mem_cons_self, hit.symm, fresh⟩
        · rw [if_neg hit]
          apply if_congr _ rfl rfl
          rw [List.exists_mem_cons_iff]
          tauto

end Fold

/-- The cleaning takes out exactly the sessions that are too old, measured with the grace periods of
the state before it. -/
theorem find_cleanStaleEntries {manager : Manager} (sound : manager.Sound) (now : Nat)
    (other : UInt32) :
    (manager.cleanStaleEntries now).find other =
      (manager.find other).filter fun session =>
        Fresh now manager.activeGrace manager.setupGrace other session := by
  have own : ∀ entry ∈ manager.sessionsMap, entry.2.bmcSessionID = entry.1 := by
    intro entry listed
    exact sound.own (lookup_of_mem sound.distinct listed)
  rw [cleanStaleEntries, (foldl_cleanEntry _ _ _ sound own).2.2]
  cases stood : manager.find other with
  | none =>
      split <;> rfl
  | some session =>
      rw [Option.filter_some]
      by_cases fresh : Fresh now manager.activeGrace manager.setupGrace other session
      · rw [if_neg, if_pos (by simpa using fresh)]
        rintro ⟨entry, listed, rfl, stale⟩
        have same := lookup_of_mem sound.distinct listed
        rw [← find, stood, Option.some.injEq] at same
        exact stale (same ▸ fresh)
      · rw [if_pos, if_neg (by simpa using fresh)]
        exact ⟨(other, session), mem_of_lookup stood, rfl, fresh⟩

theorem Sound.cleanStaleEntries {manager : Manager} (sound : manager.Sound) (now : Nat) :
    (manager.cleanStaleEntries now).Sound ∧
      (manager.cleanStaleEntries now).ipmiNetworkInstance = manager.ipmiNetworkInstance := by
  have own : ∀ entry ∈ manager.sessionsMap, entry.2.bmcSessionID = entry.1 := by
    intro entry listed
    exact sound.own (lookup_of_mem sound.distinct listed)
  have folded := foldl_cleanEntry now manager.activeGrace manager.setupGrace sound own
  exact ⟨folded.1, folded.2.1⟩

/-- The grace period of the active sessions grows when there are fewer of them. -/
theorem activeGrace_le {manager after : Manager} (sound : manager.Sound) (kept : after.Sound)
    (active : ∀ sessionID session, after.find sessionID = some session → session.state = .active →
      ∃ before, manager.find sessionID = some before ∧ before.state = .active) :
    manager.activeGrace ≤ after.activeGrace := by
  let keys := fun manager : Manager =>
    (manager.sessionsMap.filter fun entry => entry.2.state = .active).map Prod.fst
  have count : ∀ {manager : Manager}, manager.Sound →
      manager.getActiveSessionCount = (keys manager).length := by
    intro manager sound
    have limit := sound.length_le
    have few := List.countP_le_length (p := fun entry : UInt32 × Session => entry.2.state = .active)
      (l := manager.sessionsMap)
    rw [getActiveSessionCount, List.length_map, ← List.countP_eq_length_filter, Nat.mod_eq_of_lt]
    simp only [maxSessionHandles] at limit
    omega
  have listed : keys after ⊆ keys manager := by
    intro sessionID member
    obtain ⟨entry, stands, rfl⟩ := List.mem_map.mp member
    obtain ⟨stands, state⟩ := List.mem_filter.mp stands
    obtain ⟨before, found, same⟩ := active entry.1 entry.2 (lookup_of_mem kept.distinct stands)
      (of_decide_eq_true state)
    exact List.mem_map.mpr ⟨(entry.1, before), List.mem_filter.mpr
      ⟨mem_of_lookup found, decide_eq_true same⟩, rfl⟩
  have once : (keys after).Nodup := kept.distinct.sublist (List.filter_sublist.map Prod.fst)
  have fewer := (once.subperm listed).length_le
  rw [activeGrace, activeGrace, count sound, count kept]
  apply Nat.div_le_div_left
  · apply Nat.pow_le_pow_left
    omega
  · exact Nat.pow_pos (Nat.succ_pos _)

end Manager

end Chassis.Netipmid

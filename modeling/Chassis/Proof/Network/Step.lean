import Chassis.Proof.Network.Session
import Chassis.Proof.Network.Start
import Mathlib.Logic.Relation

namespace Chassis.Netipmid
open Data Effect

namespace Manager

/-- What may be done to the sessions at a time, and the requests and the random numbers with which one
may be opened. -/
structure Permits where
  now : Nat
  deed : UInt32 → Session → Session.Deed → Prop
  cleans : Prop
  opens : OpenSessionRequest → List UInt32 → Prop

/-- Nothing is permitted but that the time is noted. -/
def Permits.noting (now : Nat) : Permits := ⟨now, fun _ _ _ => False, False, fun _ _ => False⟩

/-- Commands change the sessions in steps of these kinds. Nothing is done to the first session but
that the time is noted. -/
inductive Step (daemon : Daemon) (permits : Permits) : Manager → Manager → Prop where
  | cleaned (manager : Manager) {now : Nat} (timed : now = permits.now)
      (permitted : permits.cleans) : Step daemon permits manager (manager.cleanStaleEntries now)
  | touched {manager : Manager} {sessionID : UInt32} {session : Session}
      (found : manager.find sessionID = some session) {now : Nat}
      (timed : now = session.lastTime ∨ now = permits.now) :
      Step daemon permits manager
        (manager.update sessionID fun _ => { session with lastTime := now })
  | deed {manager : Manager} {sessionID : UInt32} {session : Session} {deed : Session.Deed}
      (found : manager.find sessionID = some session) (ordinary : sessionID ≠ sessionZero)
      (permitted : permits.deed sessionID session deed) :
      Step daemon permits manager (manager.update sessionID fun _ => session.perform daemon deed)
  | opened {manager : Manager} {request : OpenSessionRequest} {randoms : List UInt32}
      {memory : List UInt8 × List UInt8} {sessionID : UInt32} {slot now : Nat}
      (vacant : manager.Vacant slot) (drawn : manager.drawSessionID randoms = some sessionID)
      (permitted : permits.opens request randoms) :
      Step daemon permits manager
        ((manager.insert sessionID slot (manager.newSession slot memory sessionID
            request.remoteConsoleSessionID request.priv)).update sessionID fun session =>
          { session with lastTime := now, state := .setupInProgress })

abbrev Steps (daemon : Daemon) (permits : Permits) : Manager → Manager → Prop :=
  Relation.ReflTransGen (Step daemon permits)

/-- Besides the tables, the first session stays as it was made and the others are secured. -/
structure Kept (daemon : Daemon) (manager : Manager) : Prop where
  sound : manager.Sound
  zero : ∃ lastTime, manager.find sessionZero = some { sessionZeroEntry with lastTime := lastTime }
  secured : ∀ {sessionID session}, sessionID ≠ sessionZero → manager.find sessionID = some session →
    session.Secured daemon.crypto

section Kept

variable {daemon : Daemon} {permits : Permits} {manager after : Manager}

theorem Kept.cleaned (kept : manager.Kept daemon) (now : Nat) :
    (manager.cleanStaleEntries now).Kept daemon := by
  have found := find_cleanStaleEntries kept.sound now
  constructor
  · exact (kept.sound.cleanStaleEntries now).1
  · obtain ⟨lastTime, zero⟩ := kept.zero
    refine ⟨lastTime, ?_⟩
    rw [found, zero, Option.filter_some, if_pos]
    exact decide_eq_true (Or.inl rfl)
  · intro sessionID session ordinary stands
    rw [found] at stands
    exact kept.secured ordinary (Option.filter_eq_some_iff.mp stands).1

/-- A new session has no keys and no level yet. -/
theorem newSession_secured (crypto : Crypto) (manager : Manager) (slot : Nat)
    (memory : List UInt8 × List UInt8) (bmcSessionID remoteConsoleSessID : UInt32) (priv : UInt8)
    (now : Nat) :
    Session.Secured crypto { manager.newSession slot memory bmcSessionID remoteConsoleSessID priv with
      lastTime := now, state := .setupInProgress } := by
  constructor
  · rfl
  · rintro (locked | locked | locked) <;> cases locked
  · exact fun _ => ⟨rfl, rfl⟩
  · exact Or.inl (show (0 : UInt8) ≤ privilegeUser by decide)

theorem Step.kept (step : Step daemon permits manager after) (kept : manager.Kept daemon) :
    after.Kept daemon := by
  cases step with
  | cleaned => exact kept.cleaned _
  | @touched sessionID session found now =>
      constructor
      · apply kept.sound.update
        intro before stood
        rw [found, Option.some.injEq] at stood
        exact ⟨by rw [← stood], by rw [← stood]⟩
      · obtain ⟨lastTime, zero⟩ := kept.zero
        rw [find_update]
        split
        next same =>
          rw [← same, zero, Option.some.injEq] at found
          exact ⟨now, by rw [zero, Option.map_some, ← found]⟩
        next => exact ⟨lastTime, zero⟩
      · intro other changed ordinary stands
        rw [find_update] at stands
        split at stands
        next same =>
          obtain ⟨_, _, rfl⟩ := Option.map_eq_some_iff.mp stands
          have secured := kept.secured (same ▸ ordinary) found
          exact secured.same ⟨rfl, rfl, rfl, rfl⟩ secured.limited
        next => exact kept.secured ordinary stands
  | @deed sessionID before deed found ordinary permitted =>
      have numbers := before.perform_sameNumbers daemon deed
      constructor
      · apply kept.sound.update
        intro stood same
        rw [found, Option.some.injEq] at same
        exact ⟨by rw [← same, numbers.bmcSessionID], by rw [← same, numbers.sessionHandle]⟩
      · obtain ⟨lastTime, zero⟩ := kept.zero
        exact ⟨lastTime, by rw [find_update, if_neg (Ne.symm ordinary), zero]⟩
      · intro other session taken stands
        rw [find_update] at stands
        split at stands
        next same =>
          obtain ⟨_, _, rfl⟩ := Option.map_eq_some_iff.mp stands
          exact (kept.secured ordinary found).perform deed
        next => exact kept.secured taken stands
  | @opened request randoms memory sessionID slot now vacant drawn permitted =>
      obtain ⟨new, _⟩ := drawSessionID_some drawn
      obtain ⟨lastTime, zero⟩ := kept.zero
      have ordinary : sessionZero ≠ sessionID := by
        intro hit
        rw [hit, new] at zero
        cases zero
      constructor
      · apply (kept.sound.insert_new vacant drawn).update
        intro session _
        exact ⟨rfl, rfl⟩
      · exact ⟨lastTime, by rw [find_update, if_neg ordinary, find_insert new, if_neg ordinary, zero]⟩
      · intro other session taken stands
        rw [find_update, find_insert new] at stands
        split at stands
        next hit =>
          rw [Option.map_some, Option.some.injEq] at stands
          rw [← stands]
          exact newSession_secured ..
        next apart => exact kept.secured taken stands

/-- The instance of the network stays the same. -/
theorem Step.network (step : Step daemon permits manager after) (sound : manager.Sound) :
    after.ipmiNetworkInstance = manager.ipmiNetworkInstance := by
  cases step with
  | cleaned => exact (sound.cleanStaleEntries _).2
  | touched | deed | opened => rfl

theorem Steps.kept (steps : Steps daemon permits manager after) (kept : manager.Kept daemon) :
    after.Kept daemon := by
  induction steps with
  | refl => exact kept
  | tail _ step ih => exact step.kept ih

theorem Steps.network (steps : Steps daemon permits manager after) (kept : manager.Kept daemon) :
    after.ipmiNetworkInstance = manager.ipmiNetworkInstance := by
  induction steps with
  | refl => rfl
  | tail steps step ih => exact (step.network (Steps.kept steps kept).sound).trans ih

/-- A manager that has just been made. -/
theorem managerInit_kept (daemon : Daemon) {ipmiNetworkInstance : UInt8}
    (small : ipmiNetworkInstance < 4) : (managerInit ipmiNetworkInstance).Kept daemon := by
  have only : ∀ sessionID, (managerInit ipmiNetworkInstance).find sessionID =
      if sessionID = sessionZero then some sessionZeroEntry else none := by
    intro sessionID
    rw [find, managerInit, lookup_cons_key, List.lookup_nil]
  have alone : ∀ {sessionID session}, (managerInit ipmiNetworkInstance).find sessionID =
      some session → sessionID = sessionZero ∧ session = sessionZeroEntry := by
    intro sessionID session found
    rw [only] at found
    split at found
    next same => exact ⟨same, (Option.some.inj found).symm⟩
    next => cases found
  refine ⟨?_, ⟨0, by rw [only, if_pos rfl]; rfl⟩, ?_⟩
  · constructor
    · simp [managerInit]
    · intro sessionID session found
      obtain ⟨rfl, rfl⟩ := alone found
      rfl
    · rw [only, if_pos rfl]
      rfl
    · rfl
    · apply (holds_replicate (0 : UInt32) maxSessionHandles).congr
      intro sessionID taken
      have ordinary : sessionID ≠ sessionZero := taken
      rw [only, if_neg ordinary]
      simp
    · intro sessionID session ordinary found
      exact absurd (alone found).1 ordinary
    · exact small
    · intro sessionID ordinary present
      obtain ⟨session, found⟩ := Option.isSome_iff_exists.mp present
      exact absurd (alone found).1 ordinary
  · intro sessionID session ordinary found
    exact absurd (alone found).1 ordinary

end Kept

end Manager

end Chassis.Netipmid

import Chassis.Construction.Thermal
import Chassis.Effect.Run
import Chassis.Proof.Store.Reread

namespace Chassis.Thermal
open Effect Program Json Store

variable {numbers : Numbers}

/-- The objects with limits that the bus lists, and those whose properties can be set. -/
structure Objects where
  listing : Option (List ObjectPath)
  accepts : ObjectPath → Bool

def Objects.environment (objects : Objects) : Environment (interface numbers) := fun _ op =>
  match op with
  | .getSubTreePaths _ => objects.listing
  | .setProperty path _ _ => objects.accepts path

/-- Only properties of objects with the name of the item are set. -/
def Names (setting : Setting numbers) : List UInt8 → Op numbers → Prop
  | _, .setProperty path _ _ => path.name = setting.itemname
  | _, .getSubTreePaths _ => True

section Names

variable {setting : Setting numbers}

theorem setItems_names (record : String → Value numbers.Number → Option (Value numbers.Number))
    (j : Value numbers.Number) (paths : List ObjectPath) (file : List UInt8) :
    (setItems setting record j paths).pre (Names setting) .any file := by
  induction paths generalizing j with
  | nil => trivial
  | cons path rest ih =>
      rw [setItems]
      by_cases named : path.name = setting.itemname
      · rw [if_pos named]
        cases boundOf (setting.highorlow.map toLower) with
        | none => exact ih j
        | some bounds =>
            rw [pre_bind]
            refine ⟨named, ?_⟩
            intro succeeded
            change Bool at succeeded
            cases succeeded with
            | false => trivial
            | true =>
                dsimp only
                cases record bounds.2 j with
                | none => trivial
                | some next => exact ih next
      · rw [if_neg named]
        exact ih j

theorem setStub_names (stub : String)
    (record : String → Value numbers.Number → Option (Value numbers.Number))
    (j : Value numbers.Number) (file : List UInt8) :
    (setStub setting stub record j).pre (Names setting) .any file := by
  rw [setStub, pre_bind]
  refine ⟨trivial, ?_⟩
  intro paths
  change Option (List ObjectPath) at paths
  cases paths with
  | none => trivial
  | some paths => exact setItems_names record j paths file

/-- A command sets properties only of objects with the name of its item. -/
theorem setThreshold_names (file : List UInt8) :
    (Store.setThreshold setting).pre (Names setting) .any file := by
  rw [Store.setThreshold, pre_bind, pre_read]
  dsimp only
  cases parse numbers.read file with
  | none => trivial
  | some j =>
      simp only
      rw [pre_bind]
      have updated : (updateLimits setting j).pre (Names setting) .any file := by
        unfold updateLimits
        dsimp only
        split_ifs
        · exact setStub_names _ _ _ _
        · exact setStub_names _ _ _ _
        · exact setStub_names _ _ _ _
        · trivial
      exact pre_value updated fun _ _ _ => trivial

end Names

section Items

variable (setting : Setting numbers) (objects : Objects)

/-- The way in which the limits of temperatures are recorded. -/
abbrev recordTemperature (setting : Setting numbers) (bound : String) (j : Value numbers.Number) :
    Option (Value numbers.Number) :=
  assignLimit (ascii "TempLimits") (ascii bound) setting.value j

/-- No property of an object with the name of the item is refused. -/
def Accepted (setting : Setting numbers) (objects : Objects) (paths : List ObjectPath) : Prop :=
  ∀ path ∈ paths, path.name = setting.itemname → objects.accepts path = true

instance (paths : List ObjectPath) : Decidable (Accepted setting objects paths) :=
  List.decidableBAll _ paths

/-- Without a known bound the paths are passed over. -/
theorem run_setItems_unknown (unknown : boundOf (setting.highorlow.map toLower) = none)
    (j : Value numbers.Number) (paths : List ObjectPath) (file : List UInt8) (position : Nat) :
    (setItems setting (recordTemperature setting) j paths).run objects.environment file position =
      ⟨.value j, file, []⟩ := by
  induction paths with
  | nil => rfl
  | cons path rest ih =>
      rw [setItems, unknown]
      split
      next => exact ih
      next => exact ih

/-- With a known bound the pass records the value when there is an object with the name and none of
them refuses. -/
theorem run_setItems_known {property bound : String}
    (known : boundOf (setting.highorlow.map toLower) = some (property, bound))
    {j : Value numbers.Number} (tidy : Tidy j) (paths : List ObjectPath) (file : List UInt8)
    (position : Nat) : ∃ calls,
    if Accepted setting objects paths then
      ∃ next, (setItems setting (recordTemperature setting) j paths).run objects.environment file
          position = ⟨.value next, file, calls⟩ ∧ Tidy next ∧
        ∀ key, limitIn next (ascii "TempLimits") key =
          if (∃ path ∈ paths, path.name = setting.itemname) ∧ key = ascii bound then
            some setting.value
          else limitIn j (ascii "TempLimits") key
    else (setItems setting (recordTemperature setting) j paths).run objects.environment file
      position = ⟨.thrown .dbusError, file, calls⟩ := by
  induction paths generalizing j position with
  | nil => 
      have accepted : Accepted setting objects [] := List.forall_mem_nil _
      refine ⟨[], ?_⟩
      rw [if_pos accepted]
      exact ⟨j, rfl, tidy, by simp⟩
  | cons path rest ih =>
      rw [setItems]
      by_cases named : path.name = setting.itemname
      case neg =>
        have accepted : Accepted setting objects (path :: rest) ↔ Accepted setting objects rest := by
          simp [Accepted, named]
        simp only [accepted, List.exists_mem_cons_iff, named, false_or]
        exact ih tidy position
      case pos =>
        simp only [if_pos named, known, run_bind]
        rw [run_ask]
        simp only [andThen_value, Objects.environment]
        cases accepts : objects.accepts path with
        | false =>
            have refused : ¬ Accepted setting objects (path :: rest) := fun accepted =>
              absurd (accepted path List.mem_cons_self named) (by rw [accepts]; exact Bool.false_ne_true)
            exact ⟨_, by rw [if_neg refused]; rfl⟩
        | true =>
            have accepted :
                Accepted setting objects (path :: rest) ↔ Accepted setting objects rest := by
              simp [Accepted, accepts]
            obtain ⟨next, assigned, tidyNext⟩ := assignLimit_tidy tidy (by decide : Plain
              (ascii "TempLimits")) (boundOf_plain known) setting.value
            have changed := limitIn_assignLimit tidy assigned
            obtain ⟨calls, spec⟩ := ih tidyNext (position + 1)
            let call : Call (interface numbers) (List UInt8) :=
              ⟨file, .setProperty path property setting.value, true⟩
            refine ⟨call :: calls, ?_⟩
            simp only [accepted, if_true]
            by_cases all : Accepted setting objects rest
            · rw [if_pos all] at spec ⊢
              obtain ⟨last, ran, tidyLast, limits⟩ := spec
              refine ⟨last, ?_, tidyLast, ?_⟩
              · simp only [recordTemperature, assigned]
                rw [List.length_singleton, ran]
                rfl
              · intro key
                rw [limits, changed]
                simp only [List.exists_mem_cons_iff, named, true_or, true_and]
                by_cases same : key = ascii bound
                · simp [same]
                · simp [same]
            · rw [if_neg all] at spec ⊢
              simp only [recordTemperature, assigned]
              rw [List.length_singleton, spec]
              rfl

/-- The command gets to writing the file when the bound is unknown or no object refuses. -/
def Written (paths : List ObjectPath) : Prop :=
  boundOf (setting.highorlow.map toLower) = none ∨ Accepted setting objects paths

instance (paths : List ObjectPath) : Decidable (Written setting objects paths) :=
  inferInstanceAs (Decidable (_ ∨ _))

/-- The limit of the temperatures that a file with some value has after the command. A limit whose
text is a null is lost when the file is written. -/
def limitAfter (paths : List ObjectPath) (j : Value numbers.Number) (bound : String) :
    Option numbers.Number :=
  let present := limitIn j (ascii "TempLimits") (ascii bound)
  if Written setting objects paths then
    (if (boundOf (setting.highorlow.map toLower)).map (fun bounds => ascii bounds.2) =
        some (ascii bound) then some setting.value
      else present).filter fun number => numbers.print number ≠ ascii "null"
  else present

/-- A command for a temperature leaves a file with these limits. -/
theorem setThreshold_limits (temperature : setting.type.map toLower = ascii "temperature")
    {paths : List ObjectPath} (listed : objects.listing = some paths)
    (named : ∃ path ∈ paths, path.name = setting.itemname) {file : List UInt8}
    {j : Value numbers.Number} (parsed : parse numbers.read file = some j) (tidy : Tidy j) :
    ∃ next, parse numbers.read
        ((Store.setThreshold setting).run objects.environment file 0).state = some next ∧
      ∀ bound, limitIn next (ascii "TempLimits") (ascii bound) =
        limitAfter setting objects paths j bound := by
  have items : updateLimits setting j =
      setStub setting Boot.temperatureStub (recordTemperature setting) j := by
    rw [updateLimits, temperature]
    rfl
  have run : ((Store.setThreshold setting).run objects.environment file 0).state =
      (((setItems setting (recordTemperature setting) j paths).run objects.environment file 1).andThen
        fun next _ => (⟨.value (), dump numbers.print 4 0 next, []⟩ :
          Run (interface numbers) (List UInt8) Unit)).state := by
    simp only [Store.setThreshold, run_bind, run_read, andThen_value, parsed, items, setStub]
    rw [run_ask]
    simp only [andThen_value, Objects.environment, listed, run_modify]
    rcases (setItems setting (recordTemperature setting) j paths).run
      objects.environment file 1 with ⟨outcome, state, calls⟩
    cases outcome with
    | value next => rfl
    | thrown exception => rfl
    | fault reason => rfl
  rw [run]
  cases known : boundOf (setting.highorlow.map toLower) with
  | none =>
      have written : Written setting objects paths := .inl known
      refine ⟨j.substitute (reread numbers), ?_, ?_⟩
      · rw [run_setItems_unknown setting objects known]
        exact parse_dump tidy
      · intro bound
        rw [limitIn_reread, limitAfter, if_pos written, known]
        rfl
  | some bounds =>
      obtain ⟨property, bound⟩ := bounds
      have written : Written setting objects paths ↔ Accepted setting objects paths := by
        rw [Written, known]
        simp
      obtain ⟨calls, spec⟩ := run_setItems_known setting objects known tidy paths file 1
      by_cases accepted : Accepted setting objects paths
      · rw [if_pos accepted] at spec
        obtain ⟨next, ran, tidyNext, limits⟩ := spec
        refine ⟨next.substitute (reread numbers), ?_, ?_⟩
        · rw [ran]
          exact parse_dump tidyNext
        · intro other
          rw [limitIn_reread, limits, limitAfter, if_pos (written.mpr accepted), known]
          have same : (ascii other = ascii bound) = (ascii bound = ascii other) := propext eq_comm
          simp only [named, true_and, Option.map_some, Option.some.injEq, same]
      · rw [if_neg accepted] at spec
        refine ⟨j, ?_, ?_⟩
        · rw [spec]
          exact parsed
        · intro other
          rw [limitAfter, if_neg (mt written.mp accepted)]

end Items

end Chassis.Thermal

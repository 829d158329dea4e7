import Chassis.Proof.Monitor.Wiring

namespace Chassis.Monitor
open Data Effect Program Json

/-- What was written into the value when the stream operator returned or threw a parse error. -/
def Parsed.value? : Parsed → Option (Value ℚ)
  | .accepted value => some value
  | .rejected left => some left
  | .outOfRange => none

/-- The files have fixed contents, and the limits file parses in a fixed way. -/
def files (contents : String → List UInt8) (parsed : Parsed) : Environment interface := fun _ op =>
  match op with
  | .readFile path => contents path
  | .readJson _ => parsed

section Load

variable {Element : Type} (contents : String → List UInt8) (hwmon : Hwmon Element) (position : Nat)

theorem run_loadLimits {parsed : Parsed} {file : Value ℚ} (left : parsed.value? = some file) :
    ∃ calls, loadLimits.run (files contents parsed) hwmon position =
      ⟨.value (), { hwmon with limitJson := file }, calls⟩ := by
  cases parsed with
  | accepted value =>
      cases left
      exact ⟨_, rfl⟩
  | rejected value =>
      cases left
      exact ⟨_, rfl⟩
  | outOfRange => cases left

theorem run_loadLimits_outOfRange : ∃ calls,
    loadLimits.run (files contents .outOfRange) hwmon position =
      ⟨.thrown .outOfRange, hwmon, calls⟩ := ⟨_, rfl⟩

end Load

/-- The raw value that a content converts to. -/
def rawOf (content : List UInt8) : Int := (stoi content).getD 0

namespace AdcElement

/-- The element with the reading of its file. -/
def take (contents : String → List UInt8) (adc : AdcElement) : AdcElement :=
  { adc with
    rawReading := rawOf (contents adc.path)
    vCurrent := scaled adc.scaleCoeff (rawOf (contents adc.path)) }

def probe (adc : AdcElement) : Probe := ⟨adc.name, adc.name, adc.vCurrent⟩

end AdcElement

/-- The probe of a rail with a content of its file. -/
def Rail.probe (contents : String → List UInt8) (rail : Rail) : Probe :=
  ⟨rail.name, rail.name, rail.voltage (rawOf (contents rail.path))⟩

section Update

variable {contents : String → List UInt8} {parsed : Parsed}

theorem run_updateReading {hwmon : AdcSensor} {index : Nat} {adc : AdcElement} (position : Nat)
    (found : hwmon.elements[index]? = some adc) (converts : (stoi (contents adc.path)).isSome) :
    ∃ calls, (AdcSensor.updateReading index).run (files contents parsed) hwmon position =
      ⟨.value (), { hwmon with
        elements := hwmon.elements.modify index (AdcElement.take contents) }, calls⟩ := by
  obtain ⟨raw, stoiRaw⟩ := Option.isSome_iff_exists.mp converts
  have same : hwmon.elements.modify index (fun adc =>
      { adc with rawReading := raw, vCurrent := scaled adc.scaleCoeff raw }) =
        hwmon.elements.modify index (AdcElement.take contents) := by
    apply List.ext_getElem?
    intro other
    rw [List.getElem?_modify, List.getElem?_modify]
    split
    next here =>
      subst here
      simp [found, AdcElement.take, rawOf, stoiRaw]
    next => rfl
  simp only [AdcSensor.updateReading, run_bind, run_read, Run.andThen, found]
  rw [run_ask]
  simp only [files, stoiRaw, run_modify, same]
  exact ⟨_, rfl⟩

/-- The loop over some positions takes the reading of each of them. -/
theorem run_forEach_updateReading (indices : List Nat) (hwmon : AdcSensor) (position : Nat)
    (converts : ∀ index ∈ indices, ∃ adc, hwmon.elements[index]? = some adc ∧
      (stoi (contents adc.path)).isSome) :
    ∃ calls, (forEach AdcSensor.updateReading indices).run (files contents parsed) hwmon position =
      ⟨.value (), { hwmon with
        elements := indices.foldl (fun elements index =>
          elements.modify index (AdcElement.take contents)) hwmon.elements }, calls⟩ := by
  induction indices generalizing hwmon position with
  | nil => exact ⟨[], rfl⟩
  | cons index rest ih =>
      obtain ⟨adc, found, converted⟩ := converts index List.mem_cons_self
      obtain ⟨first, ran⟩ := @run_updateReading contents parsed hwmon index adc position found
        converted
      rw [forEach, run_then, ran]
      simp only [Run.andThen, List.foldl_cons]
      obtain ⟨later, ran⟩ := ih { hwmon with
        elements := hwmon.elements.modify index (AdcElement.take contents) }
          (position + first.length) (by
            intro other member
            obtain ⟨adc, found, converted⟩ := converts other (List.mem_cons_of_mem _ member)
            rw [List.getElem?_modify, found]
            split
            next => exact ⟨_, rfl, converted⟩
            next => exact ⟨_, rfl, converted⟩)
      exact ⟨_, by rw [ran]⟩

/-- When every file converts, each element gets the reading of its rail. -/
theorem run_updateReadings {hwmon : AdcSensor} (wired : hwmon.Wired)
    (converts : ∀ rail ∈ rails, (stoi (contents rail.path)).isSome) (position : Nat) :
    ∃ calls, AdcSensor.updateReadings.run (files contents parsed) hwmon position =
      ⟨.value (), { hwmon with
        elements := hwmon.elements.map (AdcElement.take contents) }, calls⟩ := by
  have each : ∀ index ∈ List.range hwmon.elements.length,
      ∃ adc, hwmon.elements[index]? = some adc ∧ (stoi (contents adc.path)).isSome := by
    intro index member
    have inside := List.mem_range.mp member
    have found := List.getElem?_eq_getElem inside
    have present : hwmon.elements[index].wiring ∈
        rails.map Rail.wiring := by
      rw [← wired.elements]
      exact List.mem_map_of_mem (List.getElem_mem inside)
    obtain ⟨rail, listed, same⟩ := List.mem_map.mp present
    have path : rail.path = hwmon.elements[index].path := congrArg (fun wiring => wiring.2.1) same
    exact ⟨_, found, path ▸ converts rail listed⟩
  obtain ⟨calls, ran⟩ := @run_forEach_updateReading contents parsed _ hwmon position each
  rw [Data.foldl_modify_range] at ran
  simp only [AdcSensor.updateReadings, run_bind, run_read, Run.andThen, List.length_nil,
    Nat.add_zero, ran]
  exact ⟨_, rfl⟩

/-- The elements with new readings are the probes of the rails. -/
theorem AdcSensor.Wired.probes {hwmon : AdcSensor} (wired : hwmon.Wired)
    (contents : String → List UInt8) :
    (hwmon.elements.map (AdcElement.take contents)).map AdcElement.probe =
      rails.map (Rail.probe contents) := by
  have image : ∀ adc : AdcElement, (adc.take contents).probe =
      (fun wiring : String × String × ℚ =>
        (⟨wiring.1, wiring.1, scaled wiring.2.2 (rawOf (contents wiring.2.1))⟩ : Probe)) adc.wiring :=
    fun _ => rfl
  rw [List.map_map]
  calc hwmon.elements.map (AdcElement.probe ∘ AdcElement.take contents)
      = (hwmon.elements.map AdcElement.wiring).map (fun wiring =>
          (⟨wiring.1, wiring.1, scaled wiring.2.2 (rawOf (contents wiring.2.1))⟩ : Probe)) := by
        rw [List.map_map]
        exact List.map_congr_left fun adc _ => image adc
    _ = rails.map (Rail.probe contents) := by
        rw [wired.elements, List.map_map]
        rfl

/-- A pass over the elements of the ADC leaves the flags of their reports in order. -/
theorem run_sendAllReadings {hwmon : AdcSensor} {file : Value ℚ} (left : parsed.value? = some file)
    (present : ∀ adc ∈ hwmon.elements, (hwmon.board adc.name).isSome) (position : Nat) :
    (AdcSensor.sendAllReadings.run (files contents parsed) hwmon position).outcome =
        (if (reports file (hwmon.elements.map AdcElement.probe) hwmon.board).1 then .value ()
          else .thrown .typeError) ∧
      (AdcSensor.sendAllReadings.run (files contents parsed) hwmon position).state.board =
        (reports file (hwmon.elements.map AdcElement.probe) hwmon.board).2 := by
  obtain ⟨calls, ran⟩ := run_loadLimits contents hwmon position left
  simp only [AdcSensor.sendAllReadings, run_bind, ran, Run.andThen, run_read]
  obtain ⟨outcome, board, _⟩ := @forEach_reported AdcElement (files contents parsed) file
    (fun adc => report adc.name adc.name adc.vCurrent) AdcElement.probe
    (fun hwmon => hwmon.limitJson = file) (fun _ loaded => loaded)
    (fun adc hwmon position loaded present => by
      subst loaded
      exact report_reported _ hwmon position adc.probe present)
    hwmon.elements { hwmon with limitJson := file } (position + calls.length) rfl present
  exact ⟨outcome, board⟩

/-- A pass that cannot take the file throws and leaves the flags. -/
theorem run_sendAllReadings_outOfRange (hwmon : AdcSensor) (position : Nat) :
    (AdcSensor.sendAllReadings.run (files contents .outOfRange) hwmon position).outcome =
        .thrown .outOfRange ∧
      (AdcSensor.sendAllReadings.run (files contents .outOfRange) hwmon position).state = hwmon := by
  obtain ⟨calls, ran⟩ := run_loadLimits_outOfRange contents hwmon position
  simp only [AdcSensor.sendAllReadings, run_bind, ran, Run.andThen]
  exact ⟨trivial, trivial⟩

theorem rails_distinct (contents : String → List UInt8) :
    ((rails.map (Rail.probe contents)).map Probe.name).Nodup := by
  rw [List.map_map]
  change (rails.map Rail.name).Nodup
  decide

/-- A round on files that all convert leaves the flags of the reports of the rails. -/
theorem run_round {hwmon : AdcSensor} (wired : hwmon.Wired) {file : Value ℚ}
    (left : parsed.value? = some file)
    (converts : ∀ rail ∈ rails, (stoi (contents rail.path)).isSome) (position : Nat) :
    (AdcSensor.round.run (files contents parsed) hwmon position).state.board =
      (reports file (rails.map (Rail.probe contents)) hwmon.board).2 := by
  obtain ⟨calls, ran⟩ := @run_updateReadings contents parsed hwmon wired converts position
  simp only [AdcSensor.round, run_bind, ran, andThen_value]
  have present : ∀ adc ∈ hwmon.elements.map (AdcElement.take contents),
      (hwmon.board adc.name).isSome := by
    intro adc member
    have listed : adc.probe ∈ rails.map (Rail.probe contents) := by
      rw [← wired.probes contents]
      exact List.mem_map_of_mem member
    obtain ⟨rail, present, same⟩ := List.mem_map.mp listed
    have name : rail.name = adc.name := congrArg Probe.name same
    exact name ▸ wired.exposed rail present
  have sent := (@run_sendAllReadings contents parsed { hwmon with
    elements := hwmon.elements.map (AdcElement.take contents) } file left present
      (position + calls.length)).2
  rw [wired.probes contents] at sent
  exact sent

/-- A round that cannot take the limits file leaves the flags. -/
theorem run_round_outOfRange {hwmon : AdcSensor} (wired : hwmon.Wired)
    (converts : ∀ rail ∈ rails, (stoi (contents rail.path)).isSome) (position : Nat) :
    (AdcSensor.round.run (files contents .outOfRange) hwmon position).state.board =
      hwmon.board := by
  obtain ⟨calls, ran⟩ := @run_updateReadings contents .outOfRange hwmon wired converts position
  simp only [AdcSensor.round, run_bind, ran, andThen_value]
  rw [(@run_sendAllReadings_outOfRange contents _ _).2]
  rfl

end Update

/-- The limits that the repository ships, up to the upper limit of the first rail. -/
def shippedLimits (upper : ℚ) : Value ℚ :=
  let limits := fun (name : String) (low high : ℚ) =>
    (ascii name, Value.object
      [(ascii "min", .number (roundDouble low)), (ascii "max", .number (roundDouble high))])
  .object [limits "TempLimits" (-20) 80, limits "12V_Rail" (57 / 5) upper,
    limits "12nauxV_Rail" (57 / 5) (63 / 5), limits "12pauxV_Rail" (57 / 5) (63 / 5),
    limits "3_3V_Rail" (627 / 200) (693 / 200), limits "3_3auxV_Rail" (627 / 200) (693 / 200),
    limits "5V_Rail" (19 / 4) (21 / 4)]

/-- A monitor with the wiring of the constructor and no alarm. -/
def quietMonitor : AdcSensor where
  elements := (AdcSensor.adcs fun _ => ⟨"", "", 0, 0, 0, 0⟩).map fun adc =>
    { adc with scaleCoeff := scaleOf adc.vTarget }
  sensors _ := some ⟨0, 0, 0, false, false⟩
  limitJson := .null

theorem quietMonitor_wired : quietMonitor.Wired :=
  ⟨AdcSensor.calculateCs_wiring _, fun _ _ => rfl⟩

theorem quietMonitor_quiet : Quiet quietMonitor.board := by
  intro name flags set
  exact (Option.some.inj set).symm

end Chassis.Monitor

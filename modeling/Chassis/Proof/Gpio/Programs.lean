import Chassis.Proof.Gpio.Reads

namespace Chassis.Gpio
open Effect Program

/-- What a read never changes of a line. -/
def GpioInfo.declaration (gpio : GpioInfo) : GpioInfo := { gpio with status := 0 }

theorem declaration_modify (gpios : List GpioInfo) (index : Nat) (status : Int) :
    (gpios.modify index fun gpio => { gpio with status := status }).map GpioInfo.declaration =
      gpios.map GpioInfo.declaration := by
  have kept : ∀ gpio : GpioInfo,
      GpioInfo.declaration { gpio with status := status } = id gpio.declaration := fun _ => rfl
  rw [Data.map_modify _ kept, List.modify_id]

variable {State Value : Type} {keeps : State → Prop}

/-- A read depends on the declaration of its line alone. -/
theorem reads_declaration {gpio : GpioInfo} {program : Program interface State Value}
    (reads : Reads keeps [gpio] program) : Reads keeps [gpio.declaration] program := by
  intro environment state position initial
  have reading := reads environment state position initial
  exact ⟨⟨reading.kept, reading.passive, reading.granted⟩, reading.returned, reading.length⟩

/-- The indices of a list visit its elements in order. -/
theorem flatMap_available : (List.range availableGpios.length).flatMap
    (fun index => availableGpios[index]?.toList) = availableGpios := by
  decide

namespace GpioMonitor

/-- A read by the monitor keeps every property that does not depend on the statuses. -/
theorem reads_readgpio {keeps : GpioMonitor → Prop}
    (listed : ∀ monitor, keeps monitor →
      monitor.availableGpios.map GpioInfo.declaration = Gpio.availableGpios)
    (recorded : ∀ index status monitor, keeps monitor → keeps (monitor.setStatus index status))
    (index : Nat) : Reads keeps Gpio.availableGpios[index]?.toList (readgpio index) := by
  apply reads_read
  intro monitor initial
  rw [← listed monitor initial, List.getElem?_map]
  cases monitor.availableGpios[index]? with
  | none => exact reads_pure false
  | some gpio =>
      apply reads_declaration
      exact reads_catch (tries_map (tries_readLine gpio (recorded index)) _) false

/-- The monitor has the declared lines. -/
def Listed (monitor : GpioMonitor) : Prop :=
  monitor.availableGpios.map GpioInfo.declaration = Gpio.availableGpios

theorem Listed.length {monitor : GpioMonitor} (listed : monitor.Listed) :
    monitor.availableGpios.length = Gpio.availableGpios.length := by
  have same := congrArg List.length listed
  rwa [List.length_map] at same

/-- The monitor has the declared lines, and an object under the name of each. -/
structure Ready (monitor : GpioMonitor) : Prop where
  listed : monitor.Listed
  exposed : ∀ gpio ∈ Gpio.availableGpios, (monitor.gpioIfaces gpio.name).isSome

theorem setStatus_listed (index : Nat) (status : Int) (monitor : GpioMonitor)
    (listed : monitor.Listed) : (monitor.setStatus index status).Listed :=
  (declaration_modify monitor.availableGpios index status).trans listed

theorem setStatus_ready (index : Nat) (status : Int) (monitor : GpioMonitor)
    (ready : monitor.Ready) : (monitor.setStatus index status).Ready :=
  ⟨setStatus_listed index status monitor ready.listed, ready.exposed⟩

/-- The pointer to the object of a declared line is never null. -/
theorem reads_updateBus (index : Nat) : Reads Ready [] (updateBus index) := by
  apply reads_read
  intro monitor ready
  cases found : monitor.availableGpios[index]? with
  | none => exact reads_pure ()
  | some gpio =>
      have declared : gpio.declaration ∈ Gpio.availableGpios := by
        rw [← ready.listed]
        exact List.mem_map_of_mem (List.mem_of_getElem? found)
      obtain ⟨value, exposed⟩ := Option.isSome_iff_exists.mp (ready.exposed _ declared)
      change monitor.gpioIfaces gpio.name = some value at exposed
      simp only [exposed]
      apply reads_modify
      intro state kept
      refine ⟨kept.listed, ?_⟩
      intro other member
      rcases eq_or_ne other.name gpio.name with same | different
      · simp [same]
      · simpa [different] using kept.exposed other member

/-- A poll reads every declared line in order. -/
theorem reads_readallpins : Reads Ready Gpio.availableGpios readallpins := by
  apply reads_read
  intro monitor ready
  have each : ∀ index, Reads Ready Gpio.availableGpios[index]?.toList (do
      let gpiostatus ← readgpio index
      if gpiostatus then updateBus index else Pure.pure ()) := by
    intro index
    rw [← List.append_nil Gpio.availableGpios[index]?.toList]
    apply reads_bind (reads_readgpio (fun _ ready => ready.listed) setStatus_ready index)
    intro changed
    cases changed with
    | false => exact reads_pure ()
    | true => exact reads_updateBus index
  have loop := reads_forEach (List.range Gpio.availableGpios.length) each
  rw [flatMap_available] at loop
  rw [ready.listed.length]
  exact loop

theorem reads_initallpins : Reads Listed Gpio.availableGpios initallpins := by
  apply reads_read
  intro monitor listed
  have each : ∀ index, Reads Listed Gpio.availableGpios[index]?.toList (do
      let _ ← readgpio index
      Pure.pure ()) := by
    intro index
    rw [← List.append_nil Gpio.availableGpios[index]?.toList]
    exact reads_bind (reads_readgpio (fun _ => id) setStatus_listed index) fun _ => reads_pure ()
  have loop := reads_forEach (List.range Gpio.availableGpios.length) each
  rw [flatMap_available] at loop
  rw [listed.length]
  exact loop

/-- A loop over lines exposes each of them and removes no object. -/
theorem run_exposeGpio (environment : Environment interface) (gpios : List GpioInfo)
    (monitor : GpioMonitor) (position : Nat) : ∃ gpioIfaces,
    (forEach exposeGpio gpios).run environment monitor position =
      ⟨.value (), { monitor with gpioIfaces := gpioIfaces }, []⟩ ∧
    (∀ name, (monitor.gpioIfaces name).isSome → (gpioIfaces name).isSome) ∧
    ∀ gpio ∈ gpios, (gpioIfaces gpio.name).isSome := by
  induction gpios generalizing monitor with
  | nil => exact ⟨monitor.gpioIfaces, rfl, fun _ => id, nofun⟩
  | cons gpio rest ih =>
      obtain ⟨gpioIfaces, ran, kept, exposed⟩ := ih { monitor with
        gpioIfaces := Function.update monitor.gpioIfaces gpio.name (some gpio.status) }
      refine ⟨gpioIfaces, ran, ?_, ?_⟩
      · intro name present
        apply kept
        rcases eq_or_ne name gpio.name with rfl | different
        · simp
        · simpa [different] using present
      · intro other member
        rcases List.mem_cons.mp member with rfl | member
        · apply kept
          simp
        · exact exposed other member

theorem exposeGpios_ready (environment : Environment interface) {monitor : GpioMonitor}
    (listed : monitor.Listed) (position : Nat) :
    (exposeGpios.run environment monitor position).state.Ready := by
  obtain ⟨first, ranFirst, _, exposed⟩ :=
    run_exposeGpio environment monitor.availableGpios monitor position
  obtain ⟨second, ranSecond, kept, _⟩ := run_exposeGpio environment
    [sysreset, gdiscrete, psenable, ps1inh, ps2inh] { monitor with gpioIfaces := first } position
  have ran : (exposeGpios.run environment monitor position).state =
      { monitor with gpioIfaces := second } := by
    simp only [exposeGpios, run_bind, run_read, andThen_value, List.length_nil, Nat.add_zero,
      ranFirst, ranSecond]
  rw [ran]
  refine ⟨listed, ?_⟩
  intro gpio member
  rw [← listed, List.mem_map] at member
  obtain ⟨other, member, rfl⟩ := member
  exact kept _ (exposed other member)

/-- The constructor leaves a monitor that is ready. -/
theorem construct_ready (environment : Environment interface) (monitor : GpioMonitor) :
    (construct.run environment monitor 0).state.Ready := by
  have listed : Listed { monitor with availableGpios := Gpio.availableGpios } := by
    change Gpio.availableGpios.map GpioInfo.declaration = Gpio.availableGpios
    decide
  have reading := reads_initallpins environment _ 0 listed
  obtain ⟨value, returned⟩ := reading.returned
  rw [construct, run_record, run_bind, Run.andThen, returned]
  exact exposeGpios_ready environment reading.kept _

end GpioMonitor

namespace Cli

/-- The tool has the declared lines in both lists. -/
structure Listed (cli : Cli) : Prop where
  available : cli.availableGpios.map GpioInfo.declaration = Gpio.availableGpios
  chassis : cli.chassisGpios.map GpioInfo.declaration = Gpio.chassisGpios

theorem construct_listed : construct.Listed := ⟨by decide, by decide⟩

theorem setStatus_listed (target : Target) (status : Int) (cli : Cli) (listed : cli.Listed) :
    (cli.setStatus status target).Listed := by
  cases target with
  | available index =>
      exact ⟨(declaration_modify cli.availableGpios index status).trans listed.available,
        listed.chassis⟩
  | chassis index =>
      exact ⟨listed.available,
        (declaration_modify cli.chassisGpios index status).trans listed.chassis⟩

theorem Listed.gpio {cli : Cli} (listed : cli.Listed) (target : Target) :
    construct.gpio target = (cli.gpio target).map GpioInfo.declaration := by
  cases target with
  | available index =>
      change Gpio.availableGpios[index]? = _
      rw [← listed.available, List.getElem?_map]
      rfl
  | chassis index =>
      change Gpio.chassisGpios[index]? = _
      rw [← listed.chassis, List.getElem?_map]
      rfl

theorem reads_readgpio (target : Target) :
    Reads Listed (construct.gpio target).toList (readgpio target) := by
  apply reads_read
  intro cli listed
  rw [listed.gpio target]
  cases cli.gpio target with
  | none => exact reads_pure (-1)
  | some gpio =>
      apply reads_declaration
      exact reads_catch (tries_readLine gpio fun value => setStatus_listed target value) (-1)

/-- A property read over the bus touches no line. -/
theorem asks_readdbusgpio (target : Target) : Asks Listed [] (readdbusgpio target) := by
  apply asks_read
  intro cli _
  cases cli.gpio target with
  | none => exact (reads_pure (-1)).asks
  | some gpio =>
      intro environment state position listed
      simp only [run_tryCatch, run_fetch, run_record, run_pure, id]
      cases environment position (.getValueProperty (Boot.gpioPath gpio.name)) with
      | none => exact ⟨listed, rfl, rfl⟩
      | some value => exact ⟨setStatus_listed target _ state listed, rfl, rfl⟩

/-- The indices of the list visit the lines of one direction in order. -/
theorem flatMap_direction (input : Bool) : (List.range Gpio.availableGpios.length).flatMap
    (fun index => Gpio.availableGpios[index]?.toList.filter fun gpio => gpio.input == input) =
      Gpio.availableGpios.filter fun gpio => gpio.input == input := by
  cases input with
  | false => decide
  | true => decide

theorem reads_readDirection (input : Bool) :
    Reads Listed (Gpio.availableGpios.filter fun gpio => gpio.input == input)
      (readDirection input) := by
  apply reads_read
  intro cli listed
  have length : cli.availableGpios.length = Gpio.availableGpios.length := by
    have same := congrArg List.length listed.available
    rwa [List.length_map] at same
  rw [length, ← flatMap_direction input]
  apply reads_forEach
  intro index
  apply reads_read
  intro cli listed
  have same : Gpio.availableGpios[index]? = _ := listed.gpio (.available index)
  have reads := reads_readgpio (.available index)
  change Reads Listed Gpio.availableGpios[index]?.toList _ at reads
  change Gpio.availableGpios[index]? = cli.availableGpios[index]?.map GpioInfo.declaration at same
  rw [same] at reads ⊢
  cases found : cli.availableGpios[index]? with
  | none => exact reads_pure ()
  | some gpio =>
      rw [found] at reads
      by_cases direction : gpio.input = input
      · have listed : ([gpio.declaration].filter fun gpio => gpio.input == input) =
            [gpio.declaration] ++ [] := by
          simp [GpioInfo.declaration, direction]
        change Reads Listed ([gpio.declaration].filter fun gpio => gpio.input == input) _
        rw [listed]
        simp only [direction, if_true]
        exact reads_bind reads fun _ => reads_pure ()
      · have skipped : ([gpio.declaration].filter fun gpio => gpio.input == input) = [] := by
          simp [GpioInfo.declaration, direction]
        change Reads Listed ([gpio.declaration].filter fun gpio => gpio.input == input) _
        rw [skipped]
        simp only [direction, if_false]
        exact reads_pure ()

theorem asks_readChassis : Asks Listed [] readChassis := by
  apply asks_read
  intro cli _
  apply asks_forEach
  intro index
  exact asks_quiet (asks_readdbusgpio (.chassis index)) fun _ => (reads_pure ()).asks

end Cli

end Chassis.Gpio

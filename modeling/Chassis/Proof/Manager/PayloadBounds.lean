import Chassis.Proof.Manager.Calls
import Chassis.Proof.Manager.Outline

namespace Chassis.Vita4611
open Effect Program

def requestOf (call : Call interface Vita4611Device) : Option Ipmb.SendRequest :=
  match call.op with
  | .sendRequest arguments => some arguments
  | _ => none

/-- The requests of a run. -/
def requestsOf {Value : Type} (run : Run interface Vita4611Device Value) : List Ipmb.SendRequest :=
  run.calls.filterMap requestOf

/-- The data of a usable answer to a request. -/
def payload (environment : Environment interface) (position : Nat) (arguments : Ipmb.SendRequest) :
    Option (List UInt8) :=
  (readReply (environment position (.sendRequest arguments))).1.map Ipmb.SendRequestReply.data

/-- The consumers of payloads. The handlers of records are passed a payload, and the others ask for
theirs. -/
inductive Consumer where
  | handleFullSdr (sdrheader sdrvals : List UInt8)
  | handleCompactSdr (sdrheader sdrvals : List UInt8)
  | enumerateFruSensors (fru addr : UInt8)
  | reserveSdrRepo
  | getSensorReading (index : Nat) (channel : UInt8)
  | checkSdrInfo
  | queryVsoCapabilities

namespace Consumer

def program [Libm] : Consumer → Program interface Vita4611Device Unit
  | handleFullSdr sdrheader sdrvals => Vita4611Device.handleFullSdr sdrheader sdrvals
  | handleCompactSdr sdrheader sdrvals => Vita4611Device.handleCompactSdr sdrheader sdrvals
  | enumerateFruSensors fru addr => Vita4611Device.enumerateFruSensors fru addr
  | reserveSdrRepo => do
      let _ ← Vita4611Device.reserveSdrRepo
      Pure.pure ()
  | getSensorReading index channel => Vita4611Device.getSensorReading index channel
  | checkSdrInfo => Vita4611Device.checkSdrInfo
  | queryVsoCapabilities => Vita4611Device.queryVsoCapabilities

/-- A consumer asks for its payloads before it reads the first one. -/
def ownRequests : Consumer → Nat
  | handleFullSdr _ _ => 0
  | handleCompactSdr _ _ => 0
  | enumerateFruSensors _ _ => 3
  | reserveSdrRepo => 1
  | getSensorReading _ _ => 1
  | checkSdrInfo => 1
  | queryVsoCapabilities => 1

/-- A consumer reads only inside its payloads, or it rejects them: no read of theirs is undefined. An
undefined read behind a later request is one of another consumer. -/
def ReadsInside [Libm] (consumer : Consumer) (environment : Environment interface)
    (device : Vita4611Device) (position : Nat) : Prop :=
  let run := consumer.program.run environment device position
  ∀ reason, run.outcome = .fault reason → consumer.ownRequests < (requestsOf run).length

/-- The payloads are as long as their consumer takes for granted. -/
def Fits (consumer : Consumer) (environment : Environment interface) (device : Vita4611Device)
    (position : Nat) : Prop :=
  match consumer with
  | handleFullSdr _ sdrvals => 43 + (sdrvals.getD 42 0 &&& 0x1F).toNat ≤ sdrvals.length
  | handleCompactSdr _ sdrvals => 27 + (sdrvals.getD 26 0 &&& 0x1F).toNat ≤ sdrvals.length
  | enumerateFruSensors fru addr =>
      let mandatory := payload environment position
        ⟨0, addr, netfnVita4611, 0, vita4611GetMandatorySensorNumbersCmd, [0x03, fru]⟩
      let sdrInfo := payload environment (position + 1)
        ⟨0, addr, netfnSE, 0, ipmitoolCmdGetSdrInfo, []⟩
      let sdrRepoInfo := payload environment (position + 2)
        ⟨0, addr, netfnStorage, 0, ipmitoolCmdGetSdrInfo, []⟩
      (∀ data, mandatory = some data →
        1 ≤ data.length ∧ (data.getD 0 0 = vita4611VsoIdentifier → 7 ≤ data.length)) ∧
      ((∀ data, mandatory = some data → data.getD 0 0 = vita4611VsoIdentifier) →
        (∀ data, sdrRepoInfo = some data → 2 ≤ data.length) ∧
        ∀ data, sdrInfo = some data → 2 ≤ data.length)
  | reserveSdrRepo =>
      ∀ data, payload environment position
        ⟨device.channel, device.ipmiAddress, netfnSE, 0, ipmitoolCmdReserveSdrRepo, []⟩ =
          some data → 2 ≤ data.length
  | getSensorReading index channel =>
      ∀ sensor, device.fruinfo.sensors[index]? = some sensor →
        ∀ data, payload environment position
          ⟨channel, device.ipmiAddress, netfnSE, 0, ipmiGetSensorReadingCmd,
            [sensor.sensorNumber]⟩ = some data → 1 ≤ data.length
  | checkSdrInfo =>
      ∀ data, payload environment position
        ⟨0, device.ipmiAddress, netfnSE, 0, ipmitoolCmdGetSdrInfo, []⟩ = some data →
          2 ≤ data.length
  | queryVsoCapabilities =>
      ∀ data, payload environment position
        ⟨device.channel, 0x40, netfnVita4611, 0, vita4611GetVsoCapsCmd, [0x03]⟩ = some data →
          7 ≤ data.length

end Consumer

section Endings

variable {environment : Environment interface} {device : Vita4611Device} {position : Nat}

/-- The run reaches undefined behaviour before it sends a request. -/
def FaultsFirst {Value : Type} (run : Run interface Vita4611Device Value) : Prop :=
  (∃ reason, run.outcome = .fault reason) ∧ requestsOf run = []

theorem requestsOf_silent {Value : Type} {program : Program interface Vita4611Device Value}
    (silent : SendsNothing program) :
    requestsOf (program.run environment device position) = [] := by
  unfold requestsOf
  rw [List.filterMap_eq_nil_iff]
  rintro ⟨state, op, answer⟩ called
  obtain rfl : op = .indeterminate := (silent.sound environment device position trivial).1 _ called
  rfl

/-- A silent program does not hide where the rest of a sequence reads. -/
theorem faultsFirst_bind {Value Result : Type} {program : Program interface Vita4611Device Value}
    {rest : Value → Program interface Vita4611Device Result}
    {first : Run interface Vita4611Device Value} (silent : SendsNothing program)
    (ran : program.run environment device position = first) :
    FaultsFirst ((program >>= rest).run environment device position) ↔
      (∃ reason, first.outcome = .fault reason) ∨ ∃ value, first.outcome = .value value ∧
        FaultsFirst ((rest value).run environment first.state (position + first.calls.length)) := by
  have quiet := @requestsOf_silent environment device position Value program silent
  rw [run_bind, ran]
  rw [ran] at quiet
  unfold requestsOf at quiet
  rcases first with ⟨value | exception | reason, after, calls⟩
  · dsimp only at quiet
    simp [FaultsFirst, requestsOf, List.filterMap_append, quiet]
  · simp [FaultsFirst, Run.andThen]
  · simp [FaultsFirst, Run.andThen, requestsOf, quiet]

section Sequences

variable {Result : Type}

/-- A byte outside the payload is the first undefined read, and otherwise the rest decides. -/
theorem faultsFirst_payloadByte {data : List UInt8} {index : Nat}
    {rest : UInt8 → Program interface Vita4611Device Result} :
    FaultsFirst ((payloadByte data index >>= rest).run environment device position) ↔
      (index < data.length →
        FaultsFirst ((rest (data.getD index 0)).run environment device position)) := by
  by_cases inside : index < data.length
  · have ran : (payloadByte data index).run environment device position =
        ⟨.value (data.getD index 0), device, []⟩ := by
      simp [payloadByte, inside]
    rw [faultsFirst_bind payloadByte_silent ran]
    simp [inside]
  · have ran : (payloadByte data index).run environment device position =
        ⟨.fault .payloadIndex, device, []⟩ := by
      simp [payloadByte, inside]
    rw [faultsFirst_bind payloadByte_silent ran]
    simp [inside]

theorem faultsFirst_payloadRange {data : List UInt8} {first last : Nat}
    {rest : List UInt8 → Program interface Vita4611Device Result} :
    FaultsFirst ((payloadRange data first last >>= rest).run environment device position) ↔
      (first ≤ last ∧ last ≤ data.length →
        FaultsFirst ((rest ((data.take last).drop first)).run environment device position)) := by
  by_cases inside : first ≤ last ∧ last ≤ data.length
  · have ran : (payloadRange data first last).run environment device position =
        ⟨.value ((data.take last).drop first), device, []⟩ := by
      simp [payloadRange, inside]
    rw [faultsFirst_bind payloadRange_silent ran]
    simp [inside]
  · have ran : (payloadRange data first last).run environment device position =
        ⟨.fault .payloadRange, device, []⟩ := by
      unfold payloadRange
      rw [if_neg inside, run_fault]
    rw [faultsFirst_bind payloadRange_silent ran]
    simp [inside]

omit device position environment in
theorem value_ne_fault (value : Result) (reason : interface.Fault) :
    (Outcome.value value : Outcome interface Result) ≠ .fault reason := by
  simp

/-- A run without a fault does not fault first. -/
theorem not_faultsFirst {run : Run interface Vita4611Device Result}
    (sound : ∀ reason, run.outcome ≠ .fault reason) : ¬FaultsFirst run :=
  fun faults => sound _ faults.1.choose_spec

/-- A run that starts with a request does not fault first. -/
theorem not_faultsFirst_request {run : Run interface Vita4611Device Result}
    {call : Call interface Vita4611Device} {calls : List (Call interface Vita4611Device)}
    (started : run.calls = call :: calls) (request : requestOf call ≠ none) :
    ¬FaultsFirst run := by
  rintro ⟨_, none⟩
  unfold requestsOf at none
  rw [started, List.filterMap_eq_nil_iff] at none
  exact request (none call List.mem_cons_self)

/-- The name of a record is behind the byte with its length. -/
theorem named_faultsFirst {data : List UInt8} {index : Nat}
    {rest : UInt8 → List UInt8 → Program interface Vita4611Device Unit}
    (sound : ∀ idLength sdrName reason,
      ((rest idLength sdrName).run environment device position).outcome ≠ .fault reason) :
    FaultsFirst ((do
        let idLength ← payloadByte data index
        let sdrName ← payloadRange data (index + 1) (index + 1 + (idLength &&& 0x1F).toNat)
        rest idLength sdrName).run environment device position) ↔
      ¬index + 1 + (data.getD index 0 &&& 0x1F).toNat ≤ data.length := by
  have quiet (idLength : UInt8) (sdrName : List UInt8) :=
    not_faultsFirst (sound idLength sdrName)
  simp only [faultsFirst_payloadByte, faultsFirst_payloadRange, quiet, imp_false]
  omega

/-- A change of the state is no request. -/
theorem modify_faultsFirst {update : Vita4611Device → Vita4611Device}
    {rest : Program interface Vita4611Device Result} :
    FaultsFirst ((modify update >>= fun _ => rest).run environment device position) ↔
      FaultsFirst (rest.run environment (update device) position) := Iff.rfl

section Parts

variable {later : Prop}

/-- Each role is read at its own index. -/
theorem forEach_addMandatorySensor_faultsFirst {junk : SensorRecord} {data : List UInt8}
    {roles : List (Nat × Vita4611FruSensorType)}
    {rest : Unit → Program interface Vita4611Device Result}
    (behind : ∀ device, FaultsFirst ((rest ()).run environment device position) ↔ later) :
    FaultsFirst ((forEach (Vita4611Device.addMandatorySensor junk data) roles >>= rest).run
        environment device position) ↔
      ((∀ role ∈ roles, role.1 < data.length) → later) := by
  induction roles generalizing device with
  | nil => exact (behind device).trans (by simp)
  | cons role roles ih =>
      rw [forEach_cons, bind_bind, Vita4611Device.addMandatorySensor, bind_bind,
        faultsFirst_payloadByte, List.forall_mem_cons, and_imp]
      exact imp_congr_right fun _ => ih

theorem addMandatorySensors_faultsFirst {fru : UInt8} {response : Option Ipmb.SendRequestReply}
    {rest : Bool → Program interface Vita4611Device Result}
    (behind : ∀ device position,
      FaultsFirst ((rest true).run environment device position) ↔ later)
    (ended : ∀ device position, ¬FaultsFirst ((rest false).run environment device position)) :
    FaultsFirst ((Vita4611Device.addMandatorySensors fru response >>= rest).run environment device
        position) ↔
      ((∀ data, response.map Ipmb.SendRequestReply.data = some data → 1 ≤ data.length ∧
          (data.getD 0 0 = vita4611VsoIdentifier → 7 ≤ data.length)) →
        (∀ data, response.map Ipmb.SendRequestReply.data = some data →
          data.getD 0 0 = vita4611VsoIdentifier) ∧ later) := by
  cases response with
  | none => exact (behind device position).trans (by simp)
  | some response =>
      simp only [Option.map_some, Option.some.injEq, forall_eq', and_imp]
      rw [Vita4611Device.addMandatorySensors, bind_bind, faultsFirst_payloadByte]
      apply imp_congr_right
      intro inside
      by_cases own : response.data.getD 0 0 = vita4611VsoIdentifier
      · rw [if_neg (not_not_intro own), bind_bind]
        have uninitialised : indeterminate.run environment device position =
            ⟨.value (environment position .indeterminate), device,
              [⟨device, .indeterminate, environment position .indeterminate⟩]⟩ := rfl
        rw [faultsFirst_bind indeterminate_silent uninitialised]
        have six : (∀ role ∈ Vita4611Device.mandatoryRoles, role.1 < response.data.length) ↔
            7 ≤ response.data.length := by
          simp only [Vita4611Device.mandatoryRoles, List.forall_mem_cons]
          constructor
          · exact fun each => each.2.2.2.2.2.1
          · intro long
            exact ⟨by omega, by omega, by omega, by omega, by omega, by omega,
              List.forall_mem_nil _⟩
        simp only [own, true_imp_iff, true_and]
        constructor
        · rintro (⟨_, fault⟩ | ⟨junk, _, faults⟩) long
          · exact (value_ne_fault _ _ fault).elim
          · rw [bind_bind, modify_faultsFirst, bind_bind] at faults
            exact (forEach_addMandatorySensor_faultsFirst fun after => behind after _).mp faults
              (six.mpr long)
        · intro long
          refine .inr ⟨_, rfl, ?_⟩
          rw [bind_bind, modify_faultsFirst, bind_bind]
          exact (forEach_addMandatorySensor_faultsFirst fun after => behind after _).mpr
            fun each => long (six.mp each)
      · rw [if_pos own]
        exact iff_of_false (ended device position) fun both => own (both (fun same => absurd same own)).1

theorem updateFromInfo_faultsFirst {info : Option Ipmb.SendRequestReply}
    {update : UInt8 → Vita4611Device → Vita4611Device}
    {rest : Unit → Program interface Vita4611Device Result}
    (behind : ∀ device, FaultsFirst ((rest ()).run environment device position) ↔ later) :
    FaultsFirst ((Vita4611Device.updateFromInfo info update >>= rest).run environment device
        position) ↔
      ((∀ data, info.map Ipmb.SendRequestReply.data = some data → 2 ≤ data.length) → later) := by
  cases info with
  | none => exact (behind device).trans (by simp)
  | some info =>
      simp only [Option.map_some, Option.some.injEq, forall_eq']
      rw [Vita4611Device.updateFromInfo, bind_bind, faultsFirst_payloadByte]
      exact imp_congr_right fun _ => behind _

end Parts

end Sequences

end Endings

section Consumers

variable [Libm] {environment : Environment interface} {device : Vita4611Device} {position : Nat}

/-- Behind its own requests a consumer must not fault first. -/
theorem readsInside_iff {consumer : Consumer} {rest : Run interface Vita4611Device Unit}
    {own : List (Call interface Vita4611Device)}
    (ran : consumer.program.run environment device position =
      ⟨rest.outcome, rest.state, own ++ rest.calls⟩)
    (asked : (own.filterMap requestOf).length = consumer.ownRequests) :
    consumer.ReadsInside environment device position ↔ ¬FaultsFirst rest := by
  unfold Consumer.ReadsInside FaultsFirst requestsOf
  simp only [ran, List.filterMap_append, List.length_append, asked, ← List.length_eq_zero_iff]
  constructor
  · rintro inside ⟨⟨reason, fault⟩, none⟩
    have more := inside reason fault
    omega
  · intro later reason fault
    by_contra few
    exact later ⟨⟨reason, fault⟩, by omega⟩

theorem handleFullSdr_inside (sdrheader sdrvals : List UInt8) :
    (Consumer.handleFullSdr sdrheader sdrvals).ReadsInside environment device position ↔
      (Consumer.handleFullSdr sdrheader sdrvals).Fits environment device position := by
  refine (@readsInside_iff _ environment device position (.handleFullSdr sdrheader sdrvals) _ []
    rfl rfl).trans ?_
  refine (not_congr (@named_faultsFirst environment device position sdrvals 42 _ ?_)).trans not_not
  exact fun _ _ reason => value_ne_fault () reason

theorem handleCompactSdr_inside (sdrheader sdrvals : List UInt8) :
    (Consumer.handleCompactSdr sdrheader sdrvals).ReadsInside environment device position ↔
      (Consumer.handleCompactSdr sdrheader sdrvals).Fits environment device position := by
  refine (@readsInside_iff _ environment device position (.handleCompactSdr sdrheader sdrvals) _ []
    rfl rfl).trans ?_
  refine (not_congr (@named_faultsFirst environment device position sdrvals 26 _ ?_)).trans not_not
  exact fun _ _ reason => value_ne_fault () reason

/-- The reservation is read in its first two bytes. -/
theorem reserveSdrRepo_inside :
    Consumer.reserveSdrRepo.ReadsInside environment device position ↔
      Consumer.reserveSdrRepo.Fits environment device position := by
  let request : Ipmb.SendRequest :=
    ⟨device.channel, device.ipmiAddress, netfnSE, 0, ipmitoolCmdReserveSdrRepo, []⟩
  let reserved : Program interface Vita4611Device (UInt8 × UInt8) := do
    let response ← optionalValue (readReply (environment position (.sendRequest request))).1
    let first ← payloadByte response.data 0
    let second ← payloadByte response.data 1
    Pure.pure (first, second)
  let rest := (reserved >>= fun _ => Pure.pure ()).run environment device (position + 1)
  let asked : Call interface Vita4611Device :=
    ⟨device, .sendRequest request, environment position (.sendRequest request)⟩
  have ran : Consumer.reserveSdrRepo.program.run environment device position =
    ⟨rest.outcome, rest.state, asked :: rest.calls⟩ := rfl
  refine (@readsInside_iff _ environment device position .reserveSdrRepo rest [asked] ran rfl).trans ?_
  change _ ↔ ∀ data, payload environment position request = some data → 2 ≤ data.length
  unfold payload
  dsimp only [rest, reserved]
  rcases (readReply (environment position (.sendRequest request))).1 with
    _ | ⟨status, netFn, lun, cmd, cc, _ | ⟨first, _ | ⟨second, tail⟩⟩⟩
  · exact iff_of_true (not_faultsFirst (by simp [optionalValue])) (by simp)
  · exact iff_of_false (not_not_intro ⟨⟨_, rfl⟩, rfl⟩) (by simp)
  · exact iff_of_false (not_not_intro ⟨⟨_, rfl⟩, rfl⟩) (by simp)
  · exact iff_of_true (not_faultsFirst (value_ne_fault ())) (by simp)

/-- A reading is one byte, and an index without a sensor is not read at all. -/
theorem getSensorReading_inside (index : Nat) (channel : UInt8) :
    (Consumer.getSensorReading index channel).ReadsInside environment device position ↔
      (Consumer.getSensorReading index channel).Fits environment device position := by
  rcases present : device.fruinfo.sensors[index]? with _ | sensor
  · have ran : (Consumer.getSensorReading index channel).program.run environment device position =
        ⟨.value (), device, []⟩ := by
      simp [Consumer.program, Vita4611Device.getSensorReading, present]
    constructor
    · intro _ sensor found
      cases present.symm.trans found
    · intro _ reason fault
      rw [ran] at fault
      exact (value_ne_fault () reason fault).elim
  · let request : Ipmb.SendRequest :=
      ⟨channel, device.ipmiAddress, netfnSE, 0, ipmiGetSensorReadingCmd, [sensor.sensorNumber]⟩
    let response := (readReply (environment position (.sendRequest request))).1
    let store (rawReading : UInt8) : Program interface Vita4611Device Unit :=
      let value := sensor.convert rawReading
      Program.modify fun device => device.setSensors (device.fruinfo.sensors.set index { sensor with
        rawReading := rawReading
        readingConverted := value
        sensorIface := sensor.sensorIface.map fun iface => { iface with value := value } })
    let rest := (Vita4611Device.rawReadingOf response >>= store).run environment device (position + 1)
    let asked : Call interface Vita4611Device :=
      ⟨device, .sendRequest request, environment position (.sendRequest request)⟩
    have ran : (Consumer.getSensorReading index channel).program.run environment device position =
        ⟨rest.outcome, rest.state, asked :: rest.calls⟩ := by
      unfold Consumer.program Vita4611Device.getSensorReading
      rw [run_bind, run_read, andThen_value]
      simp only [present]
      rfl
    refine (@readsInside_iff _ environment device position (.getSensorReading index channel) rest
      [asked] ran rfl).trans ?_
    have fits : (Consumer.getSensorReading index channel).Fits environment device position ↔
        ∀ data, response.map Ipmb.SendRequestReply.data = some data → 1 ≤ data.length := by
      constructor
      · exact fun each => each sensor present
      · intro each other found
        cases present.symm.trans found
        exact each
    rw [fits]
    dsimp only [rest]
    cases response with
    | none => exact iff_of_true (not_faultsFirst (value_ne_fault ())) (by simp)
    | some response =>
        rw [Vita4611Device.rawReadingOf, faultsFirst_payloadByte]
        have stored : ¬FaultsFirst ((store (response.data.getD 0 0)).run environment device
            (position + 1)) := not_faultsFirst (value_ne_fault ())
        simp only [stored, imp_false, not_not, Option.map_some, Option.some.injEq, forall_eq']
        exact Iff.rfl

/-- The change indicator is read before the records. -/
def readIndicator (sdrInfo : Option Ipmb.SendRequestReply) :
    Program interface Vita4611Device Unit :=
  match sdrInfo with
  | some info => do
      let indicator ← payloadRange info.data 2 info.data.length
      Vita4611Device.refreshSdrs indicator
      Program.modify fun device =>
        { device with sensorPopulationChangeIndicatorCache := indicator }
  | none => Pure.pure ()

/-- The indicator starts behind the first two bytes. -/
theorem checkSdrInfo_inside :
    Consumer.checkSdrInfo.ReadsInside environment device position ↔
      Consumer.checkSdrInfo.Fits environment device position := by
  let request : Ipmb.SendRequest :=
    ⟨0, device.ipmiAddress, netfnSE, 0, ipmitoolCmdGetSdrInfo, []⟩
  let response := (readReply (environment position (.sendRequest request))).1
  let rest := (readIndicator response).run environment device (position + 1)
  let asked : Call interface Vita4611Device :=
    ⟨device, .sendRequest request, environment position (.sendRequest request)⟩
  have ran : Consumer.checkSdrInfo.program.run environment device position =
    ⟨rest.outcome, rest.state, asked :: rest.calls⟩ := rfl
  refine (@readsInside_iff _ environment device position .checkSdrInfo rest [asked] ran rfl).trans ?_
  change _ ↔ ∀ data, response.map Ipmb.SendRequestReply.data = some data → 2 ≤ data.length
  dsimp only [rest]
  cases response with
  | none => exact iff_of_true (not_faultsFirst (value_ne_fault ())) (by simp)
  | some info =>
      have refreshed (indicator : List UInt8) :
          ¬FaultsFirst ((Vita4611Device.refreshSdrs indicator >>= fun _ =>
            Program.modify fun device =>
              { device with sensorPopulationChangeIndicatorCache := indicator }).run environment
                device (position + 1)) := by
        change ¬FaultsFirst (((if indicator ≠ device.sensorPopulationChangeIndicatorCache then
          Vita4611Device.getAllSdrs else Pure.pure ()) >>= fun _ => _).run environment device
            (position + 1))
        split
        · exact not_faultsFirst_request rfl (by simp [requestOf])
        · exact not_faultsFirst (value_ne_fault ())
      simp only [readIndicator, faultsFirst_payloadRange, refreshed, imp_false, not_not, Option.map_some,
        Option.some.injEq, forall_eq', Nat.le_refl, and_true]

/-- The capabilities are read behind the flag. -/
def readVsoCapabilities (response : Option Ipmb.SendRequestReply) :
    Program interface Vita4611Device Unit :=
  match response with
  | some response => do
      Program.modify fun device => { device with isVita4611Device := true }
      let vsocaps ← Vita4611Device.VsoCaps.ofBytes response.data
      Program.modify fun device => { device with vsocaps := some vsocaps }
  | none => Program.modify fun device => { device with isVita4611Device := false }

/-- The capabilities are a structure of seven bytes. -/
theorem queryVsoCapabilities_inside :
    Consumer.queryVsoCapabilities.ReadsInside environment device position ↔
      Consumer.queryVsoCapabilities.Fits environment device position := by
  let request : Ipmb.SendRequest :=
    ⟨device.channel, 0x40, netfnVita4611, 0, vita4611GetVsoCapsCmd, [0x03]⟩
  let response := (readReply (environment position (.sendRequest request))).1
  let rest := (readVsoCapabilities response).run environment device (position + 1)
  let asked : Call interface Vita4611Device :=
    ⟨device, .sendRequest request, environment position (.sendRequest request)⟩
  have ran : Consumer.queryVsoCapabilities.program.run environment device position =
    ⟨rest.outcome, rest.state, asked :: rest.calls⟩ := rfl
  refine (@readsInside_iff _ environment device position .queryVsoCapabilities rest [asked] ran
    rfl).trans ?_
  change _ ↔ ∀ data, response.map Ipmb.SendRequestReply.data = some data → 7 ≤ data.length
  dsimp only [rest]
  cases response with
  | none => exact iff_of_true (not_faultsFirst (value_ne_fault ())) (by simp)
  | some response =>
      simp only [readVsoCapabilities, modify_faultsFirst, Vita4611Device.VsoCaps.ofBytes, bind_bind,
        faultsFirst_payloadRange, Option.map_some, Option.some.injEq, forall_eq', Nat.zero_le,
        true_and]
      constructor
      · intro quiet
        by_contra short
        exact quiet fun long => absurd long short
      · intro long faults
        exact not_faultsFirst (value_ne_fault ()) (faults long)

/-- The answers about a FRU are read in this order. -/
def readFruAnswers (fru : UInt8) (response sdrInfo sdrRepoInfo : Option Ipmb.SendRequestReply) :
    Program interface Vita4611Device Unit := do
  let own ← Vita4611Device.addMandatorySensors fru response
  if own then do
    Vita4611Device.updateFromInfo sdrRepoInfo fun numRecords device =>
      { device with deviceRecordTotal := numRecords }
    Vita4611Device.updateFromInfo sdrInfo fun flags device =>
      { device with dynamicSensors := flags >>> 7 }
    Vita4611Device.getAllSdrs
  else Pure.pure ()

/-- The request for the mandatory sensor numbers of a FRU. -/
def mandatoryRequest (addr fru : UInt8) : Ipmb.SendRequest :=
  ⟨0, addr, netfnVita4611, 0, vita4611GetMandatorySensorNumbersCmd, [0x03, fru]⟩

def sdrInfoRequest (addr : UInt8) : Ipmb.SendRequest :=
  ⟨0, addr, netfnSE, 0, ipmitoolCmdGetSdrInfo, []⟩

def sdrRepoInfoRequest (addr : UInt8) : Ipmb.SendRequest :=
  ⟨0, addr, netfnStorage, 0, ipmitoolCmdGetSdrInfo, []⟩

/-- All three requests are sent before the first answer is read. -/
theorem run_enumerateFruSensors (fru addr : UInt8) (device : Vita4611Device) (position : Nat) :
    let asked (position : Nat) (request : Ipmb.SendRequest) : Call interface Vita4611Device :=
      ⟨device, .sendRequest request, environment position (.sendRequest request)⟩
    let reply (position : Nat) (request : Ipmb.SendRequest) :=
      (readReply (environment position (.sendRequest request))).1
    let rest := (readFruAnswers fru (reply position (mandatoryRequest addr fru))
      (reply (position + 1) (sdrInfoRequest addr))
      (reply (position + 2) (sdrRepoInfoRequest addr))).run environment device (position + 1 + 1 + 1)
    (Vita4611Device.enumerateFruSensors fru addr).run environment device position =
      ⟨rest.outcome, rest.state, asked position (mandatoryRequest addr fru) ::
        asked (position + 1) (sdrInfoRequest addr) ::
          asked (position + 2) (sdrRepoInfoRequest addr) :: rest.calls⟩ := rfl

/-- The mandatory sensor numbers are read before the two counts, and an answer of another defining
body ends the enumeration. -/
theorem enumerateFruSensors_inside (fru addr : UInt8) :
    (Consumer.enumerateFruSensors fru addr).ReadsInside environment device position ↔
      (Consumer.enumerateFruSensors fru addr).Fits environment device position := by
  let response := (readReply (environment position (.sendRequest (mandatoryRequest addr fru)))).1
  let sdrInfo := (readReply (environment (position + 1) (.sendRequest (sdrInfoRequest addr)))).1
  let sdrRepoInfo :=
    (readReply (environment (position + 2) (.sendRequest (sdrRepoInfoRequest addr)))).1
  let enumerate (own : Bool) : Program interface Vita4611Device Unit :=
    if own then do
      Vita4611Device.updateFromInfo sdrRepoInfo fun numRecords device =>
        { device with deviceRecordTotal := numRecords }
      Vita4611Device.updateFromInfo sdrInfo fun flags device =>
        { device with dynamicSensors := flags >>> 7 }
      Vita4611Device.getAllSdrs
    else Pure.pure ()
  refine (@readsInside_iff _ environment device position (.enumerateFruSensors fru addr) _
    [_, _, _] (run_enumerateFruSensors fru addr device position) rfl).trans ?_
  change _ ↔ (∀ data, response.map Ipmb.SendRequestReply.data = some data →
      1 ≤ data.length ∧ (data.getD 0 0 = vita4611VsoIdentifier → 7 ≤ data.length)) ∧
    ((∀ data, response.map Ipmb.SendRequestReply.data = some data →
        data.getD 0 0 = vita4611VsoIdentifier) →
      (∀ data, sdrRepoInfo.map Ipmb.SendRequestReply.data = some data → 2 ≤ data.length) ∧
        ∀ data, sdrInfo.map Ipmb.SendRequestReply.data = some data → 2 ≤ data.length)
  have behind (device : Vita4611Device) (position : Nat) :
      FaultsFirst ((enumerate true).run environment device position) ↔
        ((∀ data, sdrRepoInfo.map Ipmb.SendRequestReply.data = some data → 2 ≤ data.length) →
          (∀ data, sdrInfo.map Ipmb.SendRequestReply.data = some data → 2 ≤ data.length) → False) := by
    apply updateFromInfo_faultsFirst
    intro device
    apply updateFromInfo_faultsFirst
    intro device
    exact iff_of_false (not_faultsFirst_request rfl (by simp [requestOf])) not_false
  have ended (device : Vita4611Device) (position : Nat) :
      ¬FaultsFirst ((enumerate false).run environment device position) :=
    not_faultsFirst (value_ne_fault ())
  refine (not_congr (addMandatorySensors_faultsFirst behind ended)).trans ?_
  rw [Classical.not_imp, not_and]
  apply and_congr_right
  intro _
  apply imp_congr_right
  intro _
  rw [Classical.not_imp, imp_false, not_not]

/-- A consumer reads inside its payloads exactly when they are long enough. -/
theorem readsInside_iff_fits (consumer : Consumer) (environment : Environment interface)
    (device : Vita4611Device) (position : Nat) :
    consumer.ReadsInside environment device position ↔
      consumer.Fits environment device position := by
  cases consumer with
  | handleFullSdr sdrheader sdrvals => exact handleFullSdr_inside sdrheader sdrvals
  | handleCompactSdr sdrheader sdrvals => exact handleCompactSdr_inside sdrheader sdrvals
  | enumerateFruSensors fru addr => exact enumerateFruSensors_inside fru addr
  | reserveSdrRepo => exact reserveSdrRepo_inside
  | getSensorReading index channel => exact getSensorReading_inside index channel
  | checkSdrInfo => exact checkSdrInfo_inside
  | queryVsoCapabilities => exact queryVsoCapabilities_inside

end Consumers

/-- Every request is answered without data. -/
def emptyAnswers : Environment interface := fun _ op =>
  match op with
  | .sendRequest arguments => .reply ⟨0, arguments.netfn, 0, arguments.cmd, 0, []⟩
  | op => (default : op.Answer)

/-- A reservation without data is read at its first byte. -/
theorem reserveSdrRepo_outside : ¬∀ (consumer : Consumer) (environment : Environment interface)
    (device : Vita4611Device) (position : Nat),
      @Consumer.ReadsInside silentLibm consumer environment device position := by
  intro always
  have few := always .reserveSdrRepo emptyAnswers default 0 .payloadIndex rfl
  exact absurd few (Nat.lt_irrefl 1)

end Chassis.Vita4611

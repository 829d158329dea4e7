import Chassis.Effect.Once
import Chassis.Proof.Manager.PayloadBounds
import Chassis.Proof.Manager.SdrReread

namespace Chassis.Vita4611
open Effect Program

/-- The FRU whose mandatory sensor numbers are requested. -/
def fruAsked (arguments : Ipmb.SendRequest) : Option UInt8 :=
  if arguments.netfn = netfnVita4611 ∧ arguments.cmd = vita4611GetMandatorySensorNumbersCmd then
    arguments.dataReceived[1]?
  else none

def askedFru (call : Call interface Vita4611Device) : Option UInt8 :=
  match call.op with
  | .sendRequest arguments => fruAsked arguments
  | _ => none

/-- The FRUs that a run asks for their mandatory sensor numbers. -/
def askedFrus (run : Run interface Vita4611Device Unit) : List UInt8 := run.calls.filterMap askedFru

/-- An answer of the defining body names a sensor at an index. -/
def NamesSensor (number : UInt8) (index : Nat) : Exchange interface → Prop
  | ⟨.sendRequest arguments, answer⟩ => fruAsked arguments ≠ none ∧
      ∃ response, (readReply answer).1 = some response ∧
        response.data.getD 0 0 = vita4611VsoIdentifier ∧ response.data.getD index 0 = number
  | _ => False

/-- A sensor of the device has the number and the role. -/
def Present (number : UInt8) (role : Vita4611FruSensorType) (device : Vita4611Device) : Prop :=
  ∃ sensor ∈ device.fruinfo.sensors, sensor.sensorNumber = number ∧ sensor.sensorType = role

/-- Get SDR requests are answered from a repository, or they fail. -/
def OffersFrom (repository : SdrRepository) (exchange : Exchange interface) : Prop :=
  Offers repository (fun _ => True) exchange.1 exchange.2

section Roles

variable {number : UInt8} {role : Vita4611FruSensorType} {repository : SdrRepository}

theorem present_iff {device : Vita4611Device} : Present number role device ↔
    ∃ attachment ∈ device.attachments, attachment.sensorNumber = number ∧
      attachment.sensorType = role := by
  simp [Present, Vita4611Device.attachments, SensorRecord.attachment]

/-- A record of another sensor leaves the attachments with the number alone. -/
theorem mem_attach {record : SdrRecord} {table : List Attachment} {attachment : Attachment}
    (member : attachment ∈ table)
    (other : record.isSensor → record.sensorNumber ≠ attachment.sensorNumber) :
    attachment ∈ record.attach table := by
  unfold SdrRecord.attach
  split_ifs with sensor discovered full
  · obtain ⟨index, inside, rfl⟩ := List.mem_iff_getElem.mp member
    have elsewhere : table.findIdx (fun attachment => attachment.sensorNumber == record.sensorNumber)
        ≠ index := by
      rintro rfl
      have found := @List.findIdx_getElem _ (fun attachment : Attachment =>
        attachment.sensorNumber == record.sensorNumber) table inside
      exact other sensor (eq_of_beq found).symm
    refine List.mem_of_getElem? (i := index) ?_
    rw [List.getElem?_modify_ne _ _ elsewhere, List.getElem?_eq_getElem inside]
  · exact member
  · exact List.mem_append_left _ member
  · exact member

theorem present_push {device : Vita4611Device} {record : SensorRecord}
    (present : Present number role device) : Present number role (device.pushSensor record) := by
  obtain ⟨sensor, member, same⟩ := present
  exact ⟨sensor, List.mem_append_left _ member, same⟩

/-- The repository has no record of a sensor with the number. -/
def Unnamed (number : UInt8) (repository : SdrRepository) : Prop :=
  ∀ record ∈ repository.records, record.isSensor → record.sensorNumber ≠ number

theorem payloadByte_present {data : List UInt8} {index : Nat} :
    Keeps (fun _ _ => True) (Present number role) (fun _ => True)
      (payloadByte data index : Program interface Vita4611Device UInt8) := by
  unfold payloadByte
  split
  · exact keeps_pure _
  · exact keeps_fault trivial

/-- The mandatory sensors are added behind the others. -/
theorem addMandatorySensors_present (fru : UInt8) (response : Option Ipmb.SendRequestReply) :
    Keeps (fun _ _ => True) (Present number role) (fun _ => True)
      (Vita4611Device.addMandatorySensors fru response) := by
  cases response with
  | none => exact keeps_pure true
  | some response =>
      apply keeps_bind payloadByte_present
      intro identifier
      apply keeps_ite (fun _ => keeps_pure false)
      intro _
      apply keeps_bind (keeps_ask fun _ _ => trivial)
      intro junk
      apply keeps_bind
      · exact keeps_modify fun _ present => present
      · intro _
        apply keeps_bind
        · apply keeps_forEach
          intro other
          exact keeps_bind payloadByte_present fun _ => keeps_modify fun _ => present_push
        · exact fun _ => keeps_pure true

theorem updateFromInfo_present (info : Option Ipmb.SendRequestReply)
    {update : UInt8 → Vita4611Device → Vita4611Device}
    (same : ∀ byte device, (update byte device).fruinfo = device.fruinfo) :
    Keeps (fun _ _ => True) (Present number role) (fun _ => True)
      (Vita4611Device.updateFromInfo info update) := by
  cases info with
  | none => exact keeps_pure ()
  | some info =>
      apply keeps_bind payloadByte_present
      intro byte
      apply keeps_modify
      intro device present
      unfold Present
      rwa [same]

variable [Libm] (unnamed : Unnamed number repository)
include unnamed

/-- Records of other sensors keep the sensor with its role. -/
theorem readSdrs_present (resId : UInt8 × UInt8) (indices : List UInt8) (retryCount : Int) :
    Retains (OffersFrom repository) (Present number role)
      (Vita4611Device.readSdrs resId indices retryCount) := by
  induction indices generalizing retryCount with
  | nil => exact fun _ initial => initial
  | cons index rest ih =>
      intro device initial
      simp only [Vita4611Device.readSdrs, rely_bind, rely_tryCatch, rely_pure]
      apply rely_mono (rely_readSdr (fun _ _ given => given) resId index device)
      · rintro _ after ⟨record, found, _, attached, _⟩
        apply ih retryCount
        obtain ⟨attachment, member, same, kept⟩ := present_iff.mp initial
        refine present_iff.mpr ⟨attachment, ?_, same, kept⟩
        rw [attached]
        apply mem_attach member
        intro sensor
        rw [same]
        exact unnamed record (List.mem_of_find?_eq_some found) sensor
      · rintro _ after ⟨_, rfl⟩
        simp only [if_true, rely_ite, rely_pure]
        split_ifs
        · exact initial
        · exact ih (retryCount + 1) after initial
      · exact fun _ _ _ => trivial

theorem getAllSdrs_present :
    Retains (OffersFrom repository) (Present number role) Vita4611Device.getAllSdrs := by
  intro device initial
  simp only [Vita4611Device.getAllSdrs, rely_bind]
  apply rely_reserveSdrRepo
  · intro resId
    apply rely_indeterminate
    intro junk
    exact readSdrs_present unnamed resId _ junk.retryCount device initial
  · exact fun _ => initial
  · exact fun _ => trivial

/-- Whatever is answered about a FRU keeps the sensor with its role. -/
theorem readFruAnswers_present (fru : UInt8)
    (response sdrInfo sdrRepoInfo : Option Ipmb.SendRequestReply) :
    Retains (OffersFrom repository) (Present number role)
      (readFruAnswers fru response sdrInfo sdrRepoInfo) := by
  apply retains_bind (retains_of_keeps (addMandatorySensors_present fru response))
  rintro (_ | _)
  · exact fun _ initial => initial
  · rw [if_pos rfl]
    apply retains_bind
    · exact retains_of_keeps (updateFromInfo_present sdrRepoInfo fun _ _ => rfl)
    · intro _
      apply retains_bind
      · exact retains_of_keeps (updateFromInfo_present sdrInfo fun _ _ => rfl)
      · exact fun _ => getAllSdrs_present unnamed

theorem enumerateFruSensors_present (fru addr : UInt8) :
    Retains (OffersFrom repository) (Present number role)
      (Vita4611Device.enumerateFruSensors fru addr) := by
  intro device initial answer _ answer' _ answer'' _
  exact readFruAnswers_present unnamed fru _ _ _ device initial

end Roles

section Naming

variable {role : Nat × Vita4611FruSensorType} {data : List UInt8} {device : Vita4611Device}

/-- Only the endings without a fault have the sensor. -/
def presents {Value : Type} (number : UInt8) (role : Vita4611FruSensorType) :
    Post interface Vita4611Device Value :=
  ⟨fun _ => Present number role, fun _ => Present number role, fun _ _ => True⟩

/-- Each role of the loop is added and kept. -/
theorem forEach_addMandatorySensor_adds {junk : SensorRecord}
    {roles : List (Nat × Vita4611FruSensorType)} (member : role ∈ roles) :
    (forEach (Vita4611Device.addMandatorySensor junk data) roles).pre (fun _ _ => True)
      (presents (data.getD role.1 0) role.2) device := by
  induction roles generalizing device with
  | nil => exact absurd member List.not_mem_nil
  | cons first rest ih =>
      rw [forEach_cons, pre_bind, Vita4611Device.addMandatorySensor, pre_bind, pre_payloadByte]
      split_ifs
      · rcases List.mem_cons.mp member with rfl | later
        · have added : Keeps (fun _ _ => True) (Present (data.getD role.1 0) role.2) (fun _ => True)
              (forEach (Vita4611Device.addMandatorySensor junk data) rest) := by
            apply keeps_forEach
            intro other
            exact keeps_bind payloadByte_present fun _ => keeps_modify fun _ => present_push
          dsimp only
          rw [pre_modify]
          refine pre_mono (added _ ?_) (fun _ _ call => call) (fun _ _ held => held)
            (fun _ _ held => held) (fun _ _ _ => trivial)
          exact ⟨_, List.mem_append_right _ (List.mem_singleton_self _), rfl, rfl⟩
        · exact ih later
      · trivial

variable [Libm] {repository : SdrRepository}

/-- The sensors that the defining body names are there at the end, when no later record names them. -/
theorem readFruAnswers_adds (unnamed : Unnamed (data.getD role.1 0) repository)
    (member : role ∈ Vita4611Device.mandatoryRoles) {fru : UInt8} {response : Ipmb.SendRequestReply}
    (named : response.data = data) (own : data.getD 0 0 = vita4611VsoIdentifier)
    (sdrInfo sdrRepoInfo : Option Ipmb.SendRequestReply) :
    (readFruAnswers fru (some response) sdrInfo sdrRepoInfo).rely
      (fun op answer => OffersFrom repository ⟨op, answer⟩)
      (presents (data.getD role.1 0) role.2) device := by
  have added : (Vita4611Device.addMandatorySensors fru (some response)).pre (fun _ _ => True)
      ⟨fun own after => own = true ∧ Present (data.getD role.1 0) role.2 after,
        fun _ => Present (data.getD role.1 0) role.2, fun _ _ => True⟩ device := by
    rw [Vita4611Device.addMandatorySensors, named, pre_bind, pre_payloadByte]
    split_ifs
    · dsimp only
      rw [if_neg (not_not_intro own)]
      refine ⟨trivial, fun junk => ?_⟩
      change Program.pre _ (forEach _ _ >>= fun _ => Pure.pure true) _ _
      rw [pre_bind]
      exact pre_mono (forEach_addMandatorySensor_adds member) (fun _ _ call => call)
        (fun _ _ held => ⟨rfl, held⟩) (fun _ _ held => held) (fun _ _ held => held)
    · trivial
  unfold readFruAnswers
  rw [rely_bind]
  refine rely_mono (rely_of_pre added) ?_ (fun _ _ held => held) (fun _ _ held => held)
  rintro _ after ⟨rfl, present⟩
  have kept := readFruAnswers_present unnamed fru none sdrInfo sdrRepoInfo after present
  exact kept

end Naming

section Discovery

variable [Libm] {repository : SdrRepository} {role : Nat × Vita4611FruSensorType}

omit [Libm] in
/-- The reading of records asks for no mandatory sensor numbers. -/
theorem records_ask_no_fru : RecordCalls fun op => ∀ arguments, op = .sendRequest arguments →
    fruAsked arguments = none where
  getSdr arguments netfn _ := by
    rintro _ ⟨⟩
    refine if_neg fun both => ?_
    exact absurd (netfn.symm.trans both.1) (by decide)
  indeterminate arguments same := by cases same

/-- Behind the request for its mandatory sensor numbers no FRU is asked for. -/
theorem readFruAnswers_asks (fru : UInt8)
    (response sdrInfo sdrRepoInfo : Option Ipmb.SendRequestReply) :
    CallsOnly (fun op => ∀ arguments, op = .sendRequest arguments → fruAsked arguments = none)
      (readFruAnswers fru response sdrInfo sdrRepoInfo) := by
  have silent {Value : Type} {program : Program interface Vita4611Device Value}
      (silent : SendsNothing program) := callsOnly_of_silent records_ask_no_fru silent
  apply keeps_bind (silent (addMandatorySensors_silent fru response))
  intro own
  apply keeps_ite
  · intro _
    apply keeps_bind (silent (updateFromInfo_silent sdrRepoInfo _))
    intro _
    apply keeps_bind (silent (updateFromInfo_silent sdrInfo _))
    intro _
    apply callsOnly_getAllSdrs records_ask_no_fru
    rintro arguments netfn _ _ ⟨⟩
    refine if_neg fun both => ?_
    exact absurd (netfn.symm.trans both.1) (by decide)
  · exact fun _ => keeps_pure ()

/-- An enumeration asks for one FRU. -/
theorem enumerateFruSensors_asks (fru addr : UInt8) (environment : Environment interface)
    (device : Vita4611Device) (position : Nat) :
    ((Vita4611Device.enumerateFruSensors fru addr).run environment device
      position).calls.filterMap askedFru = [fru] := by
  have ran := @run_enumerateFruSensors _ environment fru addr device position
  dsimp only at ran
  rw [ran]
  have quiet (response sdrInfo sdrRepoInfo : Option Ipmb.SendRequestReply) (position : Nat) :
      ((readFruAnswers fru response sdrInfo sdrRepoInfo).run environment device
        position).calls.filterMap askedFru = [] := by
    rw [List.filterMap_eq_nil_iff]
    rintro ⟨state, op, answer⟩ called
    have asks := ((readFruAnswers_asks fru response sdrInfo sdrRepoInfo).sound environment device
      position trivial).1 _ called
    unfold askedFru
    split
    next arguments same => exact asks arguments same
    next => rfl
  exact congrArg (List.cons fru) (quiet _ _ _ _)

/-- An answer that names a sensor secures the sensor and its role. -/
theorem enumerateFruSensors_secures {number : UInt8} (unnamed : Unnamed number repository)
    (member : role ∈ Vita4611Device.mandatoryRoles) (fru addr : UInt8) :
    Secures (NamesSensor number role.1) (OffersFrom repository) (Present number role.2)
      (Vita4611Device.enumerateFruSensors fru addr) := by
  intro environment device position
  have ran := @run_enumerateFruSensors _ environment fru addr device position
  let answered (position : Nat) (request : Ipmb.SendRequest) :=
    (readReply (environment position (.sendRequest request))).1
  let rest := (readFruAnswers fru (answered position (mandatoryRequest addr fru))
    (answered (position + 1) (sdrInfoRequest addr))
    (answered (position + 2) (sdrRepoInfoRequest addr))).run environment device (position + 1 + 1 + 1)
  have quiet : ∀ exchange ∈ rest.exchanges, ¬NamesSensor number role.1 exchange := by
    intro exchange member
    obtain ⟨⟨state, op, answer⟩, called, rfl⟩ := List.mem_map.mp member
    have asks := ((readFruAnswers_asks fru _ _ _).sound environment device _ trivial).1 _ called
    cases op with
    | sendRequest arguments => exact fun names => names.1 (asks arguments rfl)
    | _ => exact not_false
  dsimp only at ran
  rw [ran]
  intro run running before exchange later split named given
  rcases before with _ | ⟨first, before⟩
  · obtain ⟨rfl, rfl⟩ := List.cons.inj split
    obtain ⟨_, response, reply, own, number'⟩ := named
    have adds : (readFruAnswers fru (some response) (answered (position + 1) (sdrInfoRequest addr))
        (answered (position + 2) (sdrRepoInfoRequest addr))).rely
          (fun op answer => OffersFrom repository ⟨op, answer⟩) (presents number role.2) device := by
      rw [← number'] at unnamed ⊢
      exact readFruAnswers_adds unnamed member rfl own _ _
    rw [← reply] at adds
    have ended := rely_sound _ environment device (position + 1 + 1 + 1) adds fun entry called =>
      given entry.exchange (List.mem_cons_of_mem _ (List.mem_cons_of_mem _
        (List.mem_map_of_mem called)))
    change Post.holds _ rest.outcome rest.state at ended
    change ∀ reason, rest.outcome ≠ .fault reason at running
    rcases outcome : rest.outcome with _ | exception | reason
    · rwa [outcome] at ended
    · rwa [outcome] at ended
    · exact (running reason outcome).elim
  · let asked (position : Nat) (request : Ipmb.SendRequest) : Exchange interface :=
      ⟨.sendRequest request, environment position (.sendRequest request)⟩
    have tail : asked (position + 1) (sdrInfoRequest addr) ::
        asked (position + 2) (sdrRepoInfoRequest addr) :: rest.exchanges =
          before ++ exchange :: later := (List.cons.inj split).2
    have behind : exchange ∈ asked (position + 1) (sdrInfoRequest addr) ::
        asked (position + 2) (sdrRepoInfoRequest addr) :: rest.exchanges := by
      rw [tail]
      exact List.mem_append_right _ List.mem_cons_self
    rcases List.mem_cons.mp behind with rfl | behind
    · exact (named.1 rfl).elim
    · rcases List.mem_cons.mp behind with rfl | behind
      · exact (named.1 rfl).elim
      · exact (quiet exchange behind named).elim

/-- Every FRU up to the maximum identifier is asked exactly once. -/
def AsksEach (maxFruDeviceId : UInt8) (run : Run interface Vita4611Device Unit) : Prop :=
  ∀ fru ≤ maxFruDeviceId, (askedFrus run).count fru = 1

/-- Whatever sensor an answer names is there at the end with its role, when later records are answered
from a repository that does not name it. -/
def RolesKept (run : Run interface Vita4611Device Unit) : Prop :=
  (∀ reason, run.outcome ≠ .fault reason) → ∀ before exchange later,
    run.exchanges = before ++ exchange :: later →
    ∀ role ∈ Vita4611Device.mandatoryRoles, ∀ number, NamesSensor number role.1 exchange →
    ∀ repository, Unnamed number repository → (∀ other ∈ later, OffersFrom repository other) →
      Present number role.2 run.state

section Capabilities

variable {environment : Environment interface} {device : Vita4611Device} {position : Nat}
  {vsocaps : VsoCaps} (capabilities : device.vsocaps = some vsocaps)
include capabilities

/-- A device without further FRUs is asked for its only one. -/
theorem run_discoverFrus_single (single : vsocaps.maxFruDeviceId = 0) :
    Vita4611Device.discoverFrus.run environment device position =
      (Vita4611Device.enumerateFruSensors 0 device.ipmiAddress).run environment device position := by
  unfold Vita4611Device.discoverFrus
  rw [run_bind, run_read, andThen_value]
  simp only [capabilities, if_pos single]
  rfl

theorem run_discoverFrus_loop (several : vsocaps.maxFruDeviceId ≠ 0) :
    Vita4611Device.discoverFrus.run environment device position =
      (forEach (fun fru => Vita4611Device.enumerateFruSensors fru device.ipmiAddress)
        ((List.range vsocaps.maxFruDeviceId.toNat).map UInt8.ofNat)).run environment device
          position := by
  unfold Vita4611Device.discoverFrus
  rw [run_bind, run_read, andThen_value]
  simp only [capabilities, if_neg several]
  rfl

/-- The loop ends before the maximum identifier. -/
theorem askedFrus_loop (several : vsocaps.maxFruDeviceId ≠ 0) :
    askedFrus (Vita4611Device.discoverFrus.run environment device position) <+:
      (List.range vsocaps.maxFruDeviceId.toNat).map UInt8.ofNat := by
  rw [run_discoverFrus_loop capabilities several]
  have observed := (@forEach_observed _ _ _ _ askedFru id
    (fun fru => Vita4611Device.enumerateFruSensors fru device.ipmiAddress) environment
    (fun fru device' position => enumerateFruSensors_asks fru device.ipmiAddress environment device'
      position) ((List.range vsocaps.maxFruDeviceId.toNat).map UInt8.ofNat) device position).1
  rwa [List.map_id] at observed

theorem asksEach_iff :
    AsksEach vsocaps.maxFruDeviceId
        (Vita4611Device.discoverFrus.run environment device position) ↔
      vsocaps.maxFruDeviceId = 0 := by
  constructor
  · intro each
    by_contra several
    have last := each vsocaps.maxFruDeviceId (UInt8.le_refl _)
    have asked := (askedFrus_loop capabilities several).subset
      (List.count_pos_iff.mp (Nat.lt_of_lt_of_eq Nat.zero_lt_one last.symm))
    obtain ⟨index, below, same⟩ := List.mem_map.mp asked
    have number := congrArg UInt8.toNat same
    rw [List.mem_range] at below
    have bound := vsocaps.maxFruDeviceId.toNat_lt
    rw [UInt8.toNat_ofNat_of_lt' (by change _ < 256; omega)] at number
    omega
  · intro single fru below
    have zero : fru = 0 := by
      rw [single] at below
      exact UInt8.toNat_inj.mp (Nat.le_zero.mp (UInt8.le_iff_toNat_le.mp below))
    rw [run_discoverFrus_single capabilities single, zero]
    have asked := enumerateFruSensors_asks 0 device.ipmiAddress environment device position
    unfold askedFrus
    rw [asked]
    rfl

theorem rolesKept_discoverFrus :
    RolesKept (Vita4611Device.discoverFrus.run environment device position) := by
  intro running before exchange later split role member number named repository unnamed given
  have each (fru : UInt8) := enumerateFruSensors_secures unnamed member fru device.ipmiAddress
  by_cases single : vsocaps.maxFruDeviceId = 0
  · rw [run_discoverFrus_single capabilities single] at running split ⊢
    exact each 0 environment device position running before exchange later split named given
  · rw [run_discoverFrus_loop capabilities single] at running split ⊢
    have kept (fru : UInt8) : Retains (OffersFrom repository) (Present number role.2)
        (Vita4611Device.enumerateFruSensors fru device.ipmiAddress) :=
      enumerateFruSensors_present unnamed fru device.ipmiAddress
    exact secures_forEach each kept environment device position running before exchange later split
      named given

/-- The roles are always kept, but all FRUs are asked only when there is a single one. -/
theorem discovery_complete_iff :
    let run := Vita4611Device.discoverFrus.run environment device position
    (AsksEach vsocaps.maxFruDeviceId run ∧ RolesKept run ↔ vsocaps.maxFruDeviceId = 0) ∧
      RolesKept run := by
  intro run
  have kept : RolesKept run := rolesKept_discoverFrus capabilities
  exact ⟨(and_iff_left kept).trans (asksEach_iff capabilities), kept⟩

end Capabilities

end Discovery

section Modules

/-- A module with the given maximum FRU identifier. -/
def frusDevice (maxFruDeviceId : UInt8) : Vita4611Device :=
  { (default : Vita4611Device) with
    ipmiAddress := 0x82
    vsocaps := some ⟨3, 0, 0, 0, 0, maxFruDeviceId, 0⟩ }

theorem discovery_complete_single :
    AsksEach 0 ((@Vita4611Device.discoverFrus silentLibm).run temperatureModule (frusDevice 0) 0) :=
  ((@discovery_complete_iff silentLibm temperatureModule (frusDevice 0) 0
    ⟨3, 0, 0, 0, 0, 0, 0⟩ rfl).1.mpr rfl).1

/-- The second of two FRUs is never asked for. -/
theorem discovery_incomplete : ¬∀ (environment : Environment interface) (device : Vita4611Device)
    (position : Nat) (vsocaps : VsoCaps), device.vsocaps = some vsocaps →
      AsksEach vsocaps.maxFruDeviceId
        ((@Vita4611Device.discoverFrus silentLibm).run environment device position) := by
  intro always
  have second := always temperatureModule (frusDevice 1) 0 ⟨3, 0, 0, 0, 0, 1, 0⟩ rfl 1
    (UInt8.le_refl 1)
  exact absurd second (by decide +kernel)

end Modules

end Chassis.Vita4611

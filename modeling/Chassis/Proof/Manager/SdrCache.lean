import Chassis.Automaton.Run
import Chassis.Effect.Run
import Chassis.Proof.Manager.Outline
import Chassis.Proof.Manager.SdrRead

namespace Chassis.Vita4611
open Effect Program Automaton

section Cache

variable [Libm] {repository : SdrRepository}

/-- Only sensor records with the given identifiers may be missing. -/
def Settled (repository : SdrRepository) (rest : List UInt8) (device : Vita4611Device) : Prop :=
  ∀ record ∈ repository.records, record.isSensor → record.recordId.1 ∉ rest →
    ∃ sensor ∈ device.fruinfo.sensors, record.Shown sensor

/-- Every sensor record of a repository is among the sensors with its contents. -/
def ShowsAll (repository : SdrRepository) (device : Vita4611Device) : Prop :=
  ∀ record ∈ repository.records, record.isSensor →
    ∃ sensor ∈ device.fruinfo.sensors, record.Shown sensor

/-- The loop reaches every sensor record, and no two of them describe one sensor. -/
structure Fits (repository : SdrRepository) (total : UInt8) : Prop where
  reached : ∀ record ∈ repository.records, record.isSensor →
    record.recordId.2 = 0 ∧ record.recordId.1 < total
  distinct : ∀ first ∈ repository.records, ∀ second ∈ repository.records,
    first.isSensor → second.isSensor → first.sensorNumber = second.sensorNumber → first = second

omit [Libm] in
theorem find_eq_some {index : UInt8} {record other : SdrRecord}
    (found : repository.find (index, 0) = some record) (member : other ∈ repository.records)
    (same : other.recordId = (index, 0)) : other = record := by
  have matched := List.find?_some found
  have identifier : record.recordId = (index, 0) := eq_of_beq matched
  exact List.inj_on_of_nodup_map repository.distinct member (List.mem_of_find?_eq_some found)
    (same.trans identifier.symm)

/-- A record that was read is no longer missing. -/
theorem settled_takes {total index : UInt8} {rest : List UInt8} {record : SdrRecord}
    {before after : Vita4611Device} (fits : Fits repository total)
    (found : repository.find (index, 0) = some record) (takes : Takes record before after)
    (settled : Settled repository (index :: rest) before) : Settled repository rest after := by
  intro other member sensor read
  have stored := List.mem_of_find?_eq_some found
  by_cases own : other = record
  · subst own
    exact (takes.1 sensor).shown
  · have missed : other.recordId.1 ∉ index :: rest := by
      rw [List.mem_cons, not_or]
      refine ⟨?_, read⟩
      intro same
      exact own (find_eq_some found member (Prod.ext same (fits.reached other member sensor).1))
    obtain ⟨shown, present, shows'⟩ := settled other member sensor missed
    by_cases kind : record.isSensor
    · have number : shown.sensorNumber ≠ record.sensorNumber := by
        intro same
        exact own (fits.distinct other member record stored sensor kind
          (shows'.number.symm.trans same))
      exact ⟨shown, (takes.1 kind).others shown present number, shows'⟩
    · rw [takes.2 kind]
      exact ⟨shown, present, shows'⟩

/-- A read fails only after the last sensor record, and the later identifiers are larger. -/
theorem settled_past {index : UInt8} {rest left : List UInt8} {device : Vita4611Device}
    (past : repository.Past index) (larger : ∀ later ∈ rest, index < later)
    (settled : Settled repository (index :: rest) device) : Settled repository left device := by
  intro record member sensor _
  apply settled record member sensor
  have below := past record member sensor
  rw [List.mem_cons, not_or]
  constructor
  · rintro rfl
    exact UInt8.lt_irrefl _ below
  · intro later
    exact UInt8.lt_irrefl _ (UInt8.lt_trans below (larger _ later))

omit [Libm] in
theorem answers_offers (op : Op) (answer : op.Answer) (given : Answers repository op answer) :
    Offers repository repository.Past op answer := by
  cases op with
  | sendRequest arguments =>
      intro asks first second index offset count data
      have served := given asks
      rw [data] at served
      rcases served with ⟨bytes, found, pays⟩ | ⟨fails, past⟩
      · obtain ⟨record, present, rfl⟩ := Option.map_eq_some_iff.mp found
        exact .inl ⟨record, present, pays⟩
      · exact .inr ⟨fails, past⟩
  | _ => trivial

/-- The loop over the identifiers leaves no sensor record missing. -/
theorem rely_readSdrs {total : UInt8} (fits : Fits repository total) (resId : UInt8 × UInt8)
    (indices : List UInt8) (sorted : indices.Pairwise (· < ·)) (retryCount : Int)
    (device : Vita4611Device) (settled : Settled repository indices device) :
    (Vita4611Device.readSdrs resId indices retryCount).rely (Answers repository)
      ⟨fun _ after => Settled repository [] after, fun _ _ => False, fun _ _ => True⟩ device := by
  induction indices generalizing retryCount device with
  | nil => exact settled
  | cons index rest ih =>
      obtain ⟨larger, sorted⟩ := List.pairwise_cons.mp sorted
      simp only [Vita4611Device.readSdrs, rely_bind, rely_tryCatch, rely_pure]
      apply rely_mono (rely_readSdr answers_offers resId index device)
      · rintro _ after ⟨record, found, takes, _⟩
        exact ih sorted retryCount after (settled_takes fits found takes settled)
      · rintro _ after ⟨past, rfl⟩
        simp only [if_true, rely_ite, rely_pure]
        split_ifs
        · exact settled_past past larger settled
        · exact ih sorted (retryCount + 1) after (settled_past past larger settled)
      · exact fun _ _ _ => trivial

omit [Libm] in
theorem indices_sorted (total : UInt8) :
    ((List.range total.toNat).map UInt8.ofNat).Pairwise (· < ·) := by
  rw [List.pairwise_map]
  apply List.Pairwise.imp_of_mem _ List.pairwise_lt_range
  intro first second _ member before
  have bound := total.toNat_lt
  rw [List.mem_range] at member
  rw [UInt8.lt_iff_toNat_lt, UInt8.toNat_ofNat_of_lt' (by change _ < 256; omega),
    UInt8.toNat_ofNat_of_lt' (by change _ < 256; omega)]
  exact before

omit [Libm] in
theorem mem_indices {index total : UInt8} (below : index < total) :
    index ∈ (List.range total.toNat).map UInt8.ofNat := by
  rw [List.mem_map]
  exact ⟨index.toNat, List.mem_range.mpr below, UInt8.ofNat_toNat⟩

omit [Libm] in
/-- The reservation can fail, and it leaves the device as it was. -/
theorem rely_reserveSdrRepo {assumed : (op : Op) → op.Answer → Prop}
    (post : Post interface Vita4611Device (UInt8 × UInt8)) (device : Vita4611Device)
    (reserved : ∀ resId, post.value resId device)
    (failed : ∀ exception, post.thrown exception device)
    (harmless : ∀ reason, post.fault reason device) :
    Vita4611Device.reserveSdrRepo.rely assumed post device := by
  simp only [Vita4611Device.reserveSdrRepo, rely_bind, rely_read]
  apply rely_sendIpmbRequest
  intro response code
  cases response with
  | none => exact failed _
  | some response =>
      simp only [optionalValue, rely_pure]
      apply rely_payloadByte _ _ _ _ (fun _ => harmless)
      intro _
      apply rely_payloadByte _ _ _ _ (fun _ => harmless)
      intro _
      exact reserved _

theorem rely_getAllSdrs {device : Vita4611Device} (fits : Fits repository device.deviceRecordTotal) :
    Vita4611Device.getAllSdrs.rely (Answers repository)
      ⟨fun _ after => Settled repository [] after, fun _ after => after = device,
        fun _ _ => True⟩ device := by
  have settled : Settled repository
      ((List.range device.deviceRecordTotal.toNat).map UInt8.ofNat) device := by
    intro record member sensor missing
    exact (missing (mem_indices (fits.reached record member sensor).2)).elim
  simp only [Vita4611Device.getAllSdrs, rely_bind]
  apply rely_reserveSdrRepo
  · intro resId
    apply rely_indeterminate
    intro junk
    apply rely_mono
      (rely_readSdrs fits resId _ (indices_sorted _) junk.retryCount device settled)
    · exact fun _ _ shown => shown
    · exact fun _ _ thrown => thrown.elim
    · exact fun _ _ _ => trivial
  · exact fun _ => rfl
  · exact fun _ => trivial

/-- The indicator is requested first. -/
def Vita4611Device.infoRequest (device : Vita4611Device) : Ipmb.SendRequest :=
  ⟨0, device.ipmiAddress, netfnSE, 0, ipmitoolCmdGetSdrInfo, []⟩

/-- The repository is reserved next. -/
def Vita4611Device.reserveRequest (device : Vita4611Device) : Ipmb.SendRequest :=
  ⟨device.channel, device.ipmiAddress, netfnSE, 0, ipmitoolCmdReserveSdrRepo, []⟩

/-- A poll goes on to the records when it sees a new indicator and reserves the repository. -/
def SdrPoll.Rereads (poll : SdrPoll) (device : Vita4611Device) : Prop :=
  ¬ Fails (poll.environment 0 (.sendRequest device.infoRequest)) ∧
    poll.indicator 0 ≠ device.sensorPopulationChangeIndicatorCache ∧
    ¬ Fails (poll.environment 1 (.sendRequest device.reserveRequest))

/-- The records are answered as the repository of the new indicator holds them, and the loop of
the manager fits that repository. -/
structure SdrPoll.Undisturbed (contents : List UInt8 → SdrRepository) (poll : SdrPoll)
    (device : Vita4611Device) : Prop where
  answered : ∀ entry ∈ (poll.run device).calls,
    Answers (contents (poll.indicator 0)) entry.op entry.answer
  fits : Fits (contents (poll.indicator 0)) device.deviceRecordTotal

theorem poll_eq_some {device after : Vita4611Device} {poll : SdrPoll}
    (taken : device.poll poll = some after) :
    after = (poll.run device).state ∧ ∀ reason, (poll.run device).outcome ≠ .fault reason := by
  unfold Vita4611Device.poll at taken
  split at taken
  next => cases taken
  next ended =>
    cases taken
    exact ⟨rfl, ended⟩

/-- The program that an answered indicator leads to. -/
def storeIndicator (indicator : List UInt8) : Program interface Vita4611Device Unit := do
  Vita4611Device.refreshSdrs indicator
  Program.modify fun device => { device with sensorPopulationChangeIndicatorCache := indicator }

/-- The poll with the answer to its first request at hand. -/
def takeInfo (info : Option Ipmb.SendRequestReply) : Program interface Vita4611Device Unit :=
  match info with
  | some info => do
      let indicator ← payloadRange info.data 2 info.data.length
      storeIndicator indicator
  | none => Pure.pure ()

theorem run_poll (poll : SdrPoll) (device : Vita4611Device) :
    poll.run device =
      let answer := poll.environment 0 (.sendRequest device.infoRequest)
      let rest := (takeInfo (readReply answer).1).run poll.environment device 1
      { rest with calls := ⟨device, .sendRequest device.infoRequest, answer⟩ :: rest.calls } := rfl

/-- A failed first request leaves the device as it was. -/
theorem run_poll_fails {poll : SdrPoll} {device : Vita4611Device}
    (fails : Fails (poll.environment 0 (.sendRequest device.infoRequest))) :
    (poll.run device).state = device := by
  have nothing : (readReply (poll.environment 0 (.sendRequest device.infoRequest))).1 = none :=
    fails
  rw [run_poll]
  dsimp only
  rw [nothing]
  rfl

/-- The indicator is what an answer has after its first two bytes. -/
theorem run_poll_pays {poll : SdrPoll} {device : Vita4611Device} {count flags : UInt8}
    {indicator : List UInt8}
    (pays : Pays (poll.environment 0 (.sendRequest device.infoRequest))
      (count :: flags :: indicator)) :
    ∃ entry, poll.run device =
      { (storeIndicator indicator).run poll.environment device 1 with
        calls := entry :: ((storeIndicator indicator).run poll.environment device 1).calls } := by
  obtain ⟨info, reply, data⟩ := readReply_pays pays
  have range : (payloadRange info.data 2 info.data.length :
      Program interface Vita4611Device (List UInt8)) = Pure.pure indicator := by
    rw [data]
    simp [payloadRange]
  have rest : takeInfo (some info) = storeIndicator indicator := by
    unfold takeInfo
    dsimp only
    rw [range]
    rfl
  rw [run_poll]
  dsimp only
  rw [reply, rest]
  exact ⟨_, rfl⟩

/-- An unchanged indicator changes nothing. -/
theorem storeIndicator_same (environment : Environment interface) (device : Vita4611Device) :
    ((storeIndicator device.sensorPopulationChangeIndicatorCache).run environment device 1).state =
      device := by
  simp [storeIndicator, Vita4611Device.refreshSdrs, Run.andThen]

/-- A failed reservation ends the poll before the cache is written. -/
theorem storeIndicator_unreserved {environment : Environment interface} {device : Vita4611Device}
    {indicator : List UInt8} (new : indicator ≠ device.sensorPopulationChangeIndicatorCache)
    (fails : Fails (environment 1 (.sendRequest device.reserveRequest))) :
    ((storeIndicator indicator).run environment device 1).state = device := by
  have reserve : Vita4611Device.reserveSdrRepo.run environment device 1 =
      ⟨.thrown .badOptionalAccess, device,
        [⟨device, .sendRequest device.reserveRequest,
          environment 1 (.sendRequest device.reserveRequest)⟩]⟩ := by
    obtain ⟨code, nothing⟩ : ∃ code,
        readReply (environment 1 (.sendRequest device.reserveRequest)) = (none, code) :=
      ⟨_, Prod.ext fails rfl⟩
    have sent : (sendIpmbRequest device.channel device.ipmiAddress netfnSE 0
        ipmitoolCmdReserveSdrRepo []).run environment device 1 =
        ⟨.value (readReply (environment 1 (.sendRequest device.reserveRequest))), device,
          [⟨device, .sendRequest device.reserveRequest,
            environment 1 (.sendRequest device.reserveRequest)⟩]⟩ := rfl
    unfold Vita4611Device.reserveSdrRepo
    simp only [run_bind, run_read, Run.andThen, List.length_nil, Nat.add_zero, sent, nothing,
      optionalValue, run_throw, List.nil_append, List.append_nil]
  simp [storeIndicator, Vita4611Device.refreshSdrs, Run.andThen, new, Vita4611Device.getAllSdrs,
    reserve]

/-- A poll that reads the records of a fitting repository shows them all. -/
theorem rely_storeIndicator {device : Vita4611Device} {indicator : List UInt8}
    (fits : Fits repository device.deviceRecordTotal)
    (new : indicator ≠ device.sensorPopulationChangeIndicatorCache) :
    (storeIndicator indicator).rely (Answers repository)
      ⟨fun _ after => after.sensorPopulationChangeIndicatorCache = indicator ∧
          ShowsAll repository after,
        fun _ after => after = device, fun _ _ => True⟩ device := by
  simp only [storeIndicator, Vita4611Device.refreshSdrs, rely_bind, rely_read, rely_ite,
    rely_modify, if_pos new]
  apply rely_mono (rely_getAllSdrs fits)
  · intro _ after settled
    refine ⟨trivial, ?_⟩
    intro record member sensor
    exact settled record member sensor List.not_mem_nil
  · exact fun _ _ same => same
  · exact fun _ _ _ => trivial

/-- The cache is current when the sensors show the repository that the cached indicator names. -/
def Current (contents : List UInt8 → SdrRepository) (device : Vita4611Device) : Prop :=
  device.sensorPopulationChangeIndicatorCache.length = 4 →
    ShowsAll (contents device.sensorPopulationChangeIndicatorCache) device

theorem poll_current {contents : List UInt8 → SdrRepository} {device after : Vita4611Device}
    {poll : SdrPoll} (faithful : poll.Faithful contents)
    (undisturbed : poll.Rereads device → poll.Undisturbed contents device)
    (taken : device.poll poll = some after) (current : Current contents device) :
    Current contents after := by
  obtain ⟨rfl, running⟩ := poll_eq_some taken
  have served := faithful.serves 0 device.infoRequest rfl
  by_cases fails : Fails (poll.environment 0 (.sendRequest device.infoRequest))
  · rw [run_poll_fails fails]
    exact current
  obtain ⟨count, flags, pays⟩ := (served.resolve_left fails).1 rfl
  obtain ⟨entry, ran⟩ := run_poll_pays pays
  rw [ran] at running ⊢
  by_cases same : poll.indicator 0 = device.sensorPopulationChangeIndicatorCache
  · have kept := storeIndicator_same poll.environment device
    rw [← same] at kept
    dsimp only
    rw [kept]
    exact current
  by_cases unreserved : Fails (poll.environment 1 (.sendRequest device.reserveRequest))
  · dsimp only
    rw [storeIndicator_unreserved same unreserved]
    exact current
  have calm := undisturbed ⟨fails, same, unreserved⟩
  have answered := calm.answered
  rw [ran] at answered
  have ended := rely_sound _ poll.environment device 1 (rely_storeIndicator calm.fits same)
    fun entry member => answered entry (List.mem_cons_of_mem _ member)
  dsimp only at running ⊢
  revert ended running
  rcases (storeIndicator (poll.indicator 0)).run poll.environment device 1 with
    ⟨_ | _ | reason, after, calls⟩
  · rintro - ⟨cached, shown⟩ _
    rw [cached]
    exact shown
  · rintro - rfl
    exact current
  · intro running _
    exact (running reason rfl).elim

/-- The cache never hides a change as long as every new read of the records is undisturbed. -/
theorem sdrCache_current {contents : List UInt8 → SdrRepository} {start device : Vita4611Device}
    {indicator : List UInt8} (empty : start.sensorPopulationChangeIndicatorCache = [])
    (reach : Reach Vita4611Device.poll (fun device poll => poll.Faithful contents ∧
      (poll.Rereads device → poll.Undisturbed contents device)) start device)
    (dynamic : indicator.length = 4)
    (cached : device.sensorPopulationChangeIndicatorCache = indicator) :
    ShowsAll (contents indicator) device := by
  have current : Current contents device := by
    apply reach.invariant (Current contents)
    · intro length
      rw [empty] at length
      cases length
    · intro before poll after current met taken
      exact poll_current met.1 met.2 taken current
  subst cached
  exact current dynamic

end Cache

/-- A device that serves every request from one repository. -/
def SdrRepository.serve (repository : SdrRepository) (indicator : List UInt8)
    (arguments : Ipmb.SendRequest) : DBusReply :=
  let pay (data : List UInt8) : DBusReply := .reply ⟨0, arguments.netfn, 0, arguments.cmd, 0, data⟩
  if arguments.cmd = ipmitoolCmdGetSdrInfo then pay (0 :: 0x81 :: indicator)
  else if arguments.cmd = ipmitoolCmdReserveSdrRepo then pay [1, 0]
  else if arguments.cmd = ipmitoolCmdGetSdr then
    ((repository.getSdr arguments.dataReceived).map pay).getD .methodError
  else .methodError

/-- The indicator stays the same during the whole poll. -/
def steadyPoll (contents : List UInt8 → SdrRepository) (indicator : List UInt8) : SdrPoll where
  environment _ op :=
    match op with
    | .sendRequest arguments => (contents indicator).serve indicator arguments
    | op => (default : op.Answer)
  indicator _ := indicator

/-- A request for a record pays the bytes of the record or fails. -/
theorem serve_getSdr {repository : SdrRepository} {indicator : List UInt8}
    {arguments : Ipmb.SendRequest} (asks : arguments.cmd = ipmitoolCmdGetSdr) :
    (∃ data, repository.getSdr arguments.dataReceived = some data ∧
      Pays (repository.serve indicator arguments) data) ∨
      repository.getSdr arguments.dataReceived = none ∧
        Fails (repository.serve indicator arguments) := by
  have info : ipmitoolCmdGetSdr ≠ ipmitoolCmdGetSdrInfo := by decide
  have reserve : ipmitoolCmdGetSdr ≠ ipmitoolCmdReserveSdrRepo := by decide
  unfold SdrRepository.serve
  dsimp only
  rw [asks, if_neg info, if_neg reserve, if_pos rfl]
  cases repository.getSdr arguments.dataReceived with
  | none => exact .inr ⟨rfl, rfl⟩
  | some data => exact .inl ⟨data, rfl, _, rfl, rfl, rfl⟩

theorem serve_serves (repository : SdrRepository) (indicator : List UInt8)
    (arguments : Ipmb.SendRequest) :
    Serves indicator repository arguments (repository.serve indicator arguments) := by
  intro _
  by_cases asks : arguments.cmd = ipmitoolCmdGetSdr
  · obtain answered | ⟨_, fails⟩ := serve_getSdr asks
    · refine .inr ⟨?_, ?_, fun _ => answered⟩
      · intro info
        exact absurd (asks.symm.trans info) (by decide)
      · intro reserve
        exact absurd (asks.symm.trans reserve) (by decide)
    · exact .inl fails
  · refine .inr ⟨?_, ?_, fun own => (asks own).elim⟩
    · intro info
      refine ⟨0, 0x81, _, if_pos info, rfl, rfl⟩
    · intro reserve
      have info : arguments.cmd ≠ ipmitoolCmdGetSdrInfo := by
        rw [reserve]
        decide
      refine ⟨1, 0, _, (if_neg info).trans (if_pos reserve), rfl, rfl⟩

theorem steadyPoll_faithful (contents : List UInt8 → SdrRepository) {indicator : List UInt8}
    (length : indicator.length = 4) : (steadyPoll contents indicator).Faithful contents :=
  ⟨fun _ => length, fun _ arguments => serve_serves (contents indicator) indicator arguments⟩

/-- A compact record of the sensor with the given number and a name of one byte. -/
def compactRecord (recordId sensorNumber : UInt8) : SdrRecord where
  recordId := (recordId, 0)
  nextRecordId := (recordId + 1, 0)
  sdrVersion := 0x51
  recordType := 2
  body := [0x82, 0, sensorNumber] ++ List.replicate 23 0 ++ [0xC1, 0x41]
  short := by simp

/-- The second indicator comes with a second record. -/
def growing (indicator : List UInt8) : SdrRepository :=
  if indicator = [0, 0, 0, 2] then ⟨[compactRecord 0 5, compactRecord 1 6], by decide⟩
  else ⟨[compactRecord 0 5], by decide⟩

/-- One record was counted when the device was enumerated. -/
def countedOne : Vita4611Device :=
  { (default : Vita4611Device) with
    dynamicSensors := 1
    deviceRecordTotal := 1
    ipmiAddress := 0x82 }

theorem poll_value [Libm] {device : Vita4611Device} {poll : SdrPoll}
    (ended : (poll.run device).outcome = .value ()) :
    device.poll poll = some (poll.run device).state := by
  unfold Vita4611Device.poll
  rw [ended]

/-- A request for a record names a record that exists. -/
def asksPresent (repository : SdrRepository) : Op → Bool
  | .sendRequest arguments => arguments.cmd != ipmitoolCmdGetSdr ||
      (repository.getSdr arguments.dataReceived).isSome
  | _ => true

theorem steadyPoll_answered [Libm] {contents : List UInt8 → SdrRepository}
    {indicator : List UInt8} {device : Vita4611Device}
    (present : ((steadyPoll contents indicator).run device).calls.all
      (fun entry => asksPresent (contents indicator) entry.op) = true) :
    ∀ entry ∈ ((steadyPoll contents indicator).run device).calls,
      Answers (contents indicator) entry.op entry.answer := by
  intro entry member
  have exists' := List.all_eq_true.mp present entry member
  obtain ⟨index, given⟩ := calls_answered _ _ _ _ entry member
  rw [given]
  rcases entry with ⟨_, op, answer⟩
  cases op with
  | sendRequest arguments =>
      intro asks
      obtain answered | ⟨absent, _⟩ := @serve_getSdr (contents indicator) indicator arguments asks
      · exact .inl answered
      · simp [asksPresent, asks, absent] at exists'
  | _ => trivial

/-- The first poll reads the one record that was counted. -/
theorem sdrCache_current_countedOne :
    ∃ poll device, @Vita4611Device.poll silentLibm countedOne poll = some device ∧
      poll.Faithful growing ∧ poll.Rereads countedOne ∧
      @SdrPoll.Undisturbed silentLibm growing poll countedOne ∧
      device.sensorPopulationChangeIndicatorCache = [0, 0, 0, 1] ∧
      @ShowsAll silentLibm (growing [0, 0, 0, 1]) device := by
  let _ := silentLibm
  let poll := steadyPoll growing [0, 0, 0, 1]
  let device := (poll.run countedOne).state
  have taken : countedOne.poll poll = some device := poll_value (by decide +kernel)
  have faithful : poll.Faithful growing := steadyPoll_faithful growing rfl
  have rereads : poll.Rereads countedOne := by
    refine ⟨?_, by decide, ?_⟩
    · exact fun fails => nomatch fails
    · exact fun fails => nomatch fails
  have fits : Fits (growing [0, 0, 0, 1]) 1 := by
    constructor
    · intro record member _
      cases List.mem_singleton.mp member
      decide
    · intro first member second also _ _ _
      exact (List.mem_singleton.mp member).trans (List.mem_singleton.mp also).symm
  have undisturbed : poll.Undisturbed growing countedOne :=
    ⟨steadyPoll_answered (by decide +kernel), fits⟩
  have cached : device.sensorPopulationChangeIndicatorCache = [0, 0, 0, 1] := by decide +kernel
  exact ⟨poll, device, taken, faithful, rereads, undisturbed, cached, sdrCache_current rfl
    (.next .start ⟨faithful, fun _ => undisturbed⟩ taken) rfl cached⟩

/-- The second record is never read, and the cache says that nothing is left to read. -/
theorem sdrCache_hides_growth :
    ¬ ∀ (contents : List UInt8 → SdrRepository) (start device : Vita4611Device)
        (indicator : List UInt8), start.sensorPopulationChangeIndicatorCache = [] →
      Reach (@Vita4611Device.poll silentLibm) (fun _ poll => poll.Faithful contents) start device →
      indicator.length = 4 → device.sensorPopulationChangeIndicatorCache = indicator →
      @ShowsAll silentLibm (contents indicator) device := by
  let _ := silentLibm
  intro claim
  let first := ((steadyPoll growing [0, 0, 0, 1]).run countedOne).state
  let second := ((steadyPoll growing [0, 0, 0, 2]).run first).state
  have reach : Reach Vita4611Device.poll (fun _ poll => poll.Faithful growing) countedOne second :=
    .next (.next .start (steadyPoll_faithful growing rfl) (poll_value (by decide +kernel)))
      (steadyPoll_faithful growing rfl) (poll_value (by decide +kernel))
  have shown := claim growing countedOne second [0, 0, 0, 2] rfl reach rfl (by decide +kernel)
  obtain ⟨sensor, member, shows'⟩ := shown (compactRecord 1 6)
    (List.mem_cons_of_mem _ List.mem_cons_self) (.inr rfl)
  have numbers : second.fruinfo.sensors.map SensorRecord.sensorNumber = [5] := by decide +kernel
  have number : sensor.sensorNumber ∈ second.fruinfo.sensors.map SensorRecord.sensorNumber :=
    List.mem_map_of_mem member
  rw [numbers, shows'.number] at number
  exact absurd number (by decide)

end Chassis.Vita4611

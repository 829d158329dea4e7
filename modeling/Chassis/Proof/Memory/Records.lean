import Chassis.Proof.Memory.Device

namespace Chassis.Vita4611
open Effect Program

/-- A device tells only about itself, and after the start it tells nothing. -/
def Reading (numbered policed : Bool) (origin : Known) (addr : UInt8) :
    Known → Vita4611Device → Vita4611Device → Prop :=
  fun known first second => ∃ told, known = origin.put addr told ∧
    (origin.phase ≠ .starting → told = origin.told addr) ∧
    DeviceAlike numbered policed told addr first second

namespace Known

@[simp] theorem put_told (known : Known) (addr : UInt8) (told : Told) :
    (known.put addr told).told addr = told :=
  Function.update_self ..

@[simp] theorem put_put (known : Known) (addr : UInt8) (first second : Told) :
    (known.put addr first).put addr second = known.put addr second := by
  rw [put, put, put, Function.update_idem]

@[simp] theorem put_phase (known : Known) (addr : UInt8) (told : Told) :
    (known.put addr told).phase = known.phase := rfl

/-- An answer is heard during the start only. -/
def hear (known : Known) (told : Told) (arguments : Ipmb.SendRequest) (answer : DBusReply) : Told :=
  if known.phase = .starting then told.hear arguments answer else told

theorem observe_put (known : Known) (told : Told) (arguments : Ipmb.SendRequest)
    (answer : DBusReply) :
    (known.put arguments.addr told).observe (.sendRequest arguments) answer =
      known.put arguments.addr (known.hear told arguments answer) := by
  by_cases starts : known.phase = .starting
  · simp [observe, hear, starts]
  · simp [observe, hear, starts]

/-- Hearing a request of no interest tells nothing. -/
theorem hear_quiet {known : Known} {channel addr netfn lun cmd : UInt8} {data : List UInt8}
    (quiet : Quiet netfn cmd) (told : Told) (answer : DBusReply) :
    known.hear told ⟨channel, addr, netfn, lun, cmd, data⟩ answer = told := by
  unfold hear
  split
  · exact quiet _ _ _ rfl rfl
  · rfl

end Known

section Requests

variable {origin : Known} {addr : UInt8} {told : Told} {numbered policed : Bool}
  {device device' : Vita4611Device}

/-- A request on the device's own channel to its own address is told to it. -/
theorem twin_ownRequest {Value : Type} {ends : Ends Known Vita4611Device Value} {netfn cmd : UInt8}
    {data : List UInt8} {rest rest' : Option Ipmb.SendRequestReply × Option UInt8 →
      Program interface Vita4611Device Value}
    (alike : DeviceAlike numbered policed told addr device device') {heard : Told}
    (later : ∀ (channel : UInt8) (reply : DBusReply),
      (origin.put addr heard).Sound (.sendRequest ⟨channel, addr, netfn, 0, cmd, data⟩) reply →
      twin memoryWatch (rest (readReply reply)) (rest' (readReply reply)) ends
        (origin.put addr (origin.hear heard ⟨channel, addr, netfn, 0, cmd, data⟩ reply)) device
        device') :
    twin memoryWatch
      (read >>= fun device =>
        sendIpmbRequest device.channel device.ipmiAddress netfn 0 cmd data >>= rest)
      (read >>= fun device =>
        sendIpmbRequest device.channel device.ipmiAddress netfn 0 cmd data >>= rest')
      ends (origin.put addr heard) device device' := by
  apply twin_read
  rw [alike.channel, alike.address, alike.address']
  apply twin_bind
  apply twin_sendIpmbRequest
  intro reply sound
  have known := origin.observe_put heard ⟨device'.channel, addr, netfn, 0, cmd, data⟩ reply
  dsimp only at known
  rw [known]
  exact later _ reply sound

theorem DBusReply.paid_iff {answer : DBusReply} :
    answer.paid = true ↔
      ∃ response cc, readReply answer = (some response, cc) ∧ answer.data = response.data := by
  unfold paid data
  rcases readReply answer with ⟨_ | response, cc⟩
  · simp
  · simp

theorem quiet_reserve : Quiet netfnSE ipmitoolCmdReserveSdrRepo := by
  intro told arguments answer netfn cmd
  rw [Told.hear, netfn, cmd]
  rfl

/-- A reservation that is answered comes after the number of records is stored. -/
theorem reserveSdrRepo_twin (reads : origin.phase = .starting ∨ origin.phase = .polling)
    (alike : DeviceAlike numbered policed told addr device device') :
    twin memoryWatch Vita4611Device.reserveSdrRepo Vita4611Device.reserveSdrRepo
      ⟨fun known resId resId' first second => resId = resId' ∧ told.counted = true ∧
        known = origin.put addr told ∧ These device device' first second, lost⟩
      (origin.put addr told) device device' := by
  apply twin_ownRequest alike
  intro channel reply sound
  rw [Known.hear_quiet quiet_reserve]
  have counts := (sound.1 reads rfl).2 rfl
  rw [Known.put_told] at counts
  unfold DBusReply.data at counts
  generalize readReply reply = answer at counts ⊢
  rcases answer with ⟨_ | response, cc⟩
  · exact twin_throw trivial
  · change twin memoryWatch
      (payloadByte response.data 0 >>= fun first => payloadByte response.data 1 >>= fun second =>
        Pure.pure (first, second))
      (payloadByte response.data 0 >>= fun first => payloadByte response.data 1 >>= fun second =>
        Pure.pure (first, second)) _ _ _ _
    rcases bytes : response.data with _ | ⟨first, _ | ⟨second, rest⟩⟩
    · exact twin_fault _
    · exact twin_fault _
    · have long : 2 ≤ response.data.length := by simp [bytes]
      exact twin_pure ⟨rfl, counts long, rfl, rfl, rfl⟩

/-- A header starts a new record. -/
theorem getSdrHeader_twin (reads : origin.phase = .starting ∨ origin.phase = .polling)
    (alike : DeviceAlike numbered policed told addr device device')
    {thrown : Known → Vita4611Device → Vita4611Device → Prop} (resId : UInt8 × UInt8)
    (sensorNumber : UInt8) :
    twin memoryWatch (Vita4611Device.getSdrHeader resId sensorNumber)
      (Vita4611Device.getSdrHeader resId sensorNumber)
      ⟨fun known sdrheader sdrheader' first second => sdrheader = sdrheader' ∧
        (known = origin.put addr (if origin.phase = .starting then
          { told with sdrheader := sdrheader, sdrvals := [] } else told)) ∧
        These device device' first second, thrown⟩
      (origin.put addr told) device device' := by
  apply twin_ownRequest alike
  intro channel reply sound
  obtain ⟨response, cc, found, data⟩ := DBusReply.paid_iff.mp ((sound.1 reads rfl).1 rfl)
  rw [found]
  refine twin_pure ⟨rfl, ?_, rfl, rfl⟩
  rw [← data]
  rfl

section Sections

variable {request data : List UInt8} (later : request.getD 4 0 ≠ 0)
include later

/-- A later section goes behind the sections before it. -/
theorem readSdr_later : (told.readSdr request data).sdrheader = told.sdrheader ∧
    (told.readSdr request data).sdrvals = told.sdrvals ++ data.drop 2 := by
  rw [Told.readSdr, if_neg later]
  exact ⟨rfl, rfl⟩

/-- At most the number in a full record is new. -/
theorem readSdr_adds : told.Adds (told.readSdr request data) fun sensorNum =>
    told.sdrheader.getD 5 0 = 1 ∧ sensorNum = (told.sdrvals ++ data.drop 2).getD 2 0 := by
  rw [Told.readSdr, if_neg later]
  refine ⟨rfl, rfl, fun sensorNum member => ?_⟩
  dsimp only at member
  split at member
  next last =>
    rcases List.mem_cons.mp member with rfl | older
    · exact .inr ⟨last.2, rfl⟩
    · exact .inl older
  next => exact .inl member

/-- A section of full length ends no record. -/
theorem readSdr_described (full : request.getD 5 0 = 0x16) :
    (told.readSdr request data).described = told.described := by
  rw [Told.readSdr, if_neg later]
  exact if_neg fun last => last.1 full

end Sections

/-- A section that is read is heard at the start only. -/
structure Heard (origin : Known) (heard next : Told) (request data : List UInt8) : Prop where
  silent : origin.phase ≠ .starting → next = heard
  read : origin.phase = .starting → next = heard.readSdr request data

namespace Heard

variable {heard next : Told} {request data sdrheader responseCumulative : List UInt8}
  (hearing : Heard origin heard next request data) (later : request.getD 4 0 ≠ 0)
  (hears : origin.phase = .starting →
    heard.sdrheader = sdrheader ∧ heard.sdrvals = responseCumulative)
include hearing later

include hears in
theorem adds : heard.Adds next fun sensorNum =>
    sdrheader.getD 5 0 = 1 ∧ sensorNum = (responseCumulative ++ data.drop 2).getD 2 0 := by
  by_cases starts : origin.phase = .starting
  · obtain ⟨rfl, rfl⟩ := hears starts
    rw [hearing.read starts]
    exact readSdr_adds later
  · rw [hearing.silent starts]
    exact ⟨rfl, rfl, fun _ member => .inl member⟩

include hears in
theorem cumulates (starts : origin.phase = .starting) : next.sdrheader = sdrheader ∧
    next.sdrvals = responseCumulative ++ data.drop 2 := by
  obtain ⟨rfl, rfl⟩ := hears starts
  rw [hearing.read starts]
  exact readSdr_later later

theorem described (full : request.getD 5 0 = 0x16) : next.described = heard.described := by
  by_cases starts : origin.phase = .starting
  · rw [hearing.read starts]
    exact readSdr_described later full
  · rw [hearing.silent starts]

end Heard

/-- The number in a record that was read is new at most when the record is a full one. -/
theorem getSdrSections_twin (reads : origin.phase = .starting ∨ origin.phase = .polling)
    (alike : DeviceAlike numbered policed told addr device device')
    {thrown : Known → Vita4611Device → Vita4611Device → Prop} (resId : UInt8 × UInt8)
    (sensorNumber : UInt8) (length fuel : Nat) (section' total sectionTotal : UInt8)
    (sdrheader responseCumulative : List UInt8) (odd : sectionTotal.toNat % 2 = 1) {heard : Told}
    (hears : origin.phase = .starting →
      heard.sdrheader = sdrheader ∧ heard.sdrvals = responseCumulative) :
    twin memoryWatch
      (Vita4611Device.getSdrSections resId sensorNumber length fuel section' total sectionTotal
        responseCumulative)
      (Vita4611Device.getSdrSections resId sensorNumber length fuel section' total sectionTotal
        responseCumulative)
      ⟨fun known sdrvals sdrvals' first second => sdrvals = sdrvals' ∧
        (∃ more, known = origin.put addr more ∧ (origin.phase ≠ .starting → more = heard) ∧
          heard.Adds more fun sensorNum =>
            sdrheader.getD 5 0 = 1 ∧ sensorNum = sdrvals.getD 2 0) ∧
        These device device' first second, thrown⟩
      (origin.put addr heard) device device' := by
  induction fuel generalizing section' total sectionTotal responseCumulative heard with
  | zero =>
      exact twin_pure ⟨rfl, ⟨heard, rfl, fun _ => rfl, rfl, rfl, fun _ member => .inl member⟩, rfl,
        rfl⟩
  | succ fuel ih =>
      apply twin_ownRequest alike
      intro channel reply sound
      obtain ⟨response, cc, found, data⟩ := DBusReply.paid_iff.mp ((sound.1 reads rfl).1 rfl)
      rw [found]
      dsimp only
      generalize (if total.toNat + section'.toNat > length then UInt8.ofNat length - total
        else section') = part
      let request : List UInt8 := [resId.1, resId.2, sensorNumber, 0, sectionTotal, part]
      have later : request.getD 4 0 ≠ 0 := by
        intro zero
        change sectionTotal = 0 at zero
        rw [zero] at odd
        exact absurd odd (by decide)
      let next := origin.hear heard ⟨channel, addr, netfnSE, 0, ipmitoolCmdGetSdr, request⟩ reply
      have hearing : Heard origin heard next request response.data :=
        ⟨fun past => if_neg past, fun starts =>
          (if_pos starts).trans (congrArg (heard.readSdr request) data)⟩
      refine twin_ite (fun full => ?_) fun _ => ?_
      · have odd' : (sectionTotal + part).toNat % 2 = 1 := by
          rw [full, UInt8.toNat_add]
          change (sectionTotal.toNat + 22) % 256 % 2 = 1
          omega
        refine twin_mono (ih part (total + part) (sectionTotal + part) _ odd'
          (hearing.cumulates later hears)) ?_ fun _ _ _ ended => ended
        rintro _ sdrvals _ first second ⟨rfl, ⟨more, rfl, silent, adds⟩, these⟩
        have before := hearing.adds later hears
        refine ⟨rfl, ⟨more, rfl, fun past => (silent past).trans (hearing.silent past),
          adds.counted.trans before.counted, adds.dynamic.trans before.dynamic, ?_⟩, these⟩
        rw [← hearing.described later full]
        exact adds.described
      · exact twin_pure ⟨rfl, ⟨next, rfl, hearing.silent, hearing.adds later hears⟩, rfl, rfl⟩

end Requests

section Records

variable {origin : Known} {addr : UInt8} {told more : Told} {numbered policed : Bool}
  {device device' : Vita4611Device} {thrown : Known → Vita4611Device → Vita4611Device → Prop}

/-- A full record sets every field of its sensor. -/
theorem handleFullSdr_twin [Libm] (sdrheader : List UInt8) {sdrvals : List UInt8}
    (alike : DeviceAlike numbered policed told addr device device')
    (adds : told.Adds more (· = sdrvals.getD 2 0)) (known : Known) :
    twin memoryWatch (Vita4611Device.handleFullSdr sdrheader sdrvals)
      (Vita4611Device.handleFullSdr sdrheader sdrvals)
      ⟨fun now _ _ first second => now = known ∧
        DeviceAlike numbered policed more addr first second, thrown⟩ known device device' := by
  have start : Stay known (These device device') known device device' := ⟨rfl, rfl, rfl⟩
  refine (payloadByte_lockstep _ _).bind start ?_
  rintro _ idLength _ _ _ rfl same
  refine (payloadRange_lockstep _ _ _).bind same ?_
  rintro _ sdrName _ _ _ rfl same
  refine indeterminate_lockstep.bind same ?_
  rintro _ junk junk' device device' _ ⟨rfl, rfl, rfl⟩
  apply twin_modify
  refine ⟨rfl, ?_⟩
  dsimp only
  rw [← alike.discovered]
  split
  next discovered => exact alike.replaceSensor adds discovered
  next missing => exact alike.addSensor adds (Bool.not_eq_true _ ▸ missing)

/-- A compact record leaves the factors of its sensor alone. -/
theorem handleCompactSdr_twin (sdrheader sdrvals : List UInt8)
    (alike : DeviceAlike numbered policed told addr device device') (known : Known) :
    twin memoryWatch (Vita4611Device.handleCompactSdr sdrheader sdrvals)
      (Vita4611Device.handleCompactSdr sdrheader sdrvals)
      ⟨fun now _ _ first second => now = known ∧
        DeviceAlike numbered policed told addr first second, thrown⟩ known device device' := by
  have start : Stay known (These device device') known device device' := ⟨rfl, rfl, rfl⟩
  refine (payloadByte_lockstep _ _).bind start ?_
  rintro _ idLength _ _ _ rfl same
  refine (payloadRange_lockstep _ _ _).bind same ?_
  rintro _ sdrName _ _ _ rfl same
  refine indeterminate_lockstep.bind same ?_
  rintro _ junk junk' device device' _ ⟨rfl, rfl, rfl⟩
  apply twin_modify
  refine ⟨rfl, ?_⟩
  dsimp only
  rw [← alike.discovered]
  split
  · apply alike.updateSensor
    · exact fun _ number => number
    · exact fun sensor other pair => ⟨pair.number, rfl, rfl, pair.published, fun set => by
        rw [pair.whole set]⟩
  · apply alike.pushSensor
    exact ⟨rfl, rfl, rfl, rfl, fun set => absurd set Bool.false_ne_true⟩

variable [Libm]

/-- Reading one record keeps what the device told. -/
theorem readSdr_lockstep (reads : origin.phase = .starting ∨ origin.phase = .polling)
    (resId : UInt8 × UInt8) (index : UInt8) :
    Lockstep memoryWatch (Reading numbered policed origin addr) thrown Eq
      (Vita4611Device.readSdr resId index) (Vita4611Device.readSdr resId index) := by
  rintro _ device device' ⟨told, rfl, silent, alike⟩
  apply twin_bind
  refine twin_mono (getSdrHeader_twin reads alike resId index) ?_ fun _ _ _ ended => ended
  rintro _ sdrheader _ device device' ⟨rfl, rfl, rfl, rfl⟩
  let heard : Told := if origin.phase = .starting then
    { told with sdrheader := sdrheader, sdrvals := [] } else told
  have alike : DeviceAlike numbered policed heard addr device device' := by
    dsimp only [heard]
    split
    · exact { alike with }
    · exact alike
  have silent (past : origin.phase ≠ .starting) : heard = origin.told addr :=
    (if_neg past).trans (silent past)
  have hears (starts : origin.phase = .starting) :
      heard.sdrheader = sdrheader ∧ heard.sdrvals = [] := by
    dsimp only [heard]
    rw [if_pos starts]
    exact ⟨rfl, rfl⟩
  refine twin_ite (fun _ => twin_pure ⟨rfl, heard, rfl, silent, alike⟩) fun _ => ?_
  apply twin_bind
  refine twin_mono (getSdrSections_twin reads alike resId index _ _ _ _ _ sdrheader _ (by decide)
    hears) ?_ fun _ _ _ ended => ended
  rintro _ sdrvals _ device device' ⟨rfl, ⟨more, rfl, silent', adds⟩, rfl, rfl⟩
  have past (past : origin.phase ≠ .starting) : more = origin.told addr :=
    (silent' past).trans (silent past)
  have same (other : sdrheader.getD 5 0 ≠ 1) :
      DeviceAlike numbered policed more addr device device' :=
    alike.weaken
      (fun sensorNum member => (adds.described sensorNum member).resolve_right
        fun fresh => other fresh.1)
      (adds.counted ▸ id) (adds.dynamic ▸ id)
  apply twin_tryCatch
  refine twin_ite (fun _ => ?_) fun other => twin_ite (fun _ => ?_) fun _ => ?_
  · refine twin_mono (handleFullSdr_twin sdrheader alike ⟨adds.counted, adds.dynamic, fun _ member =>
      (adds.described _ member).imp_right And.right⟩ _) ?_ fun _ _ _ ended => ended
    rintro _ _ _ _ _ ⟨rfl, alike⟩
    exact ⟨rfl, more, rfl, past, alike⟩
  · refine twin_mono (handleCompactSdr_twin sdrheader sdrvals (same other) _) ?_
      fun _ _ _ ended => ended
    rintro _ _ _ _ _ ⟨rfl, alike⟩
    exact ⟨rfl, more, rfl, past, alike⟩
  · exact twin_pure ⟨rfl, more, rfl, past, same other⟩

/-- The count of retries is not looked at as long as no record fails. -/
theorem readSdrs_lockstep (reads : origin.phase = .starting ∨ origin.phase = .polling)
    (resId : UInt8 × UInt8) (indices : List UInt8) (retryCount retryCount' : Int) :
    Lockstep memoryWatch (Reading numbered policed origin addr) thrown Eq
      (Vita4611Device.readSdrs resId indices retryCount)
      (Vita4611Device.readSdrs resId indices retryCount') := by
  induction indices with
  | nil => exact lockstep_pure rfl
  | cons index rest ih =>
      have done : Lockstep memoryWatch (Reading numbered policed origin addr) thrown
          (fun failed failed' : Bool => failed = false ∧ failed' = false)
          (Program.tryCatch (do Vita4611Device.readSdr resId index; Pure.pure false)
            (fun _ => Pure.pure true))
          (Program.tryCatch (do Vita4611Device.readSdr resId index; Pure.pure false)
            (fun _ => Pure.pure true)) := by
        apply lockstep_tryCatch fun _ _ _ => False
        · apply lockstep_bind (readSdr_lockstep reads resId index)
          exact fun _ _ _ => lockstep_pure ⟨rfl, rfl⟩
        · exact fun _ _ _ _ never => never.elim
      apply lockstep_bind done
      rintro _ _ ⟨rfl, rfl⟩
      exact ih

/-- The records are read for the stored number of records. -/
theorem getAllSdrs_lockstep (reads : origin.phase = .starting ∨ origin.phase = .polling) :
    Lockstep memoryWatch (Reading numbered policed origin addr) lost Eq Vita4611Device.getAllSdrs
      Vita4611Device.getAllSdrs := by
  rintro _ device device' ⟨told, rfl, silent, alike⟩
  apply twin_bind
  refine twin_mono (reserveSdrRepo_twin reads alike) ?_ fun _ _ _ _ => trivial
  rintro _ resId _ device device' ⟨rfl, counted, rfl, rfl, rfl⟩
  have start : Stay (origin.put addr told) (These device device') (origin.put addr told) device
    device' := ⟨rfl, rfl, rfl⟩
  refine indeterminate_lockstep.bind start ?_
  rintro _ junk junk' device device' _ ⟨rfl, rfl, rfl⟩
  apply twin_read
  rw [alike.counted counted]
  exact readSdrs_lockstep reads _ _ _ _ _ _ _ ⟨told, rfl, silent, alike⟩

/-- A changed indicator has the records read again in both runs. -/
theorem checkSdrInfo_lockstep (polls : origin.phase = .polling) :
    Lockstep memoryWatch (Reading numbered policed origin addr) lost Eq Vita4611Device.checkSdrInfo
      Vita4611Device.checkSdrInfo := by
  rintro _ device device' ⟨told, rfl, silent, alike⟩
  have quiet (starts : (origin.put addr told).phase = .starting) :
      Quiet netfnSE ipmitoolCmdGetSdrInfo :=
    absurd (polls.symm.trans starts) (by decide)
  apply twin_read
  have start : Stay (origin.put addr told) (These device device') (origin.put addr told) device
    device' := ⟨rfl, rfl, rfl⟩
  refine (sendIpmbRequest_lockstep quiet (alike.address.trans alike.address'.symm) rfl).bind start ?_
  rintro _ ⟨_ | info, cc⟩ _ _ _ ⟨rfl, _⟩ same
  · obtain ⟨rfl, rfl, rfl⟩ := same
    exact twin_pure ⟨rfl, told, rfl, silent, alike⟩
  · refine (payloadRange_lockstep _ _ _).bind same ?_
    rintro _ indicator _ device device' rfl ⟨rfl, rfl, rfl⟩
    apply twin_bind
    apply twin_read
    rw [alike.cache]
    have stored : ∀ known first second, Reading numbered policed origin addr known first second →
        twin memoryWatch
          (Program.modify fun device =>
            { device with sensorPopulationChangeIndicatorCache := indicator })
          (Program.modify fun device =>
            { device with sensorPopulationChangeIndicatorCache := indicator })
          ⟨fun known value value' first second => value = value' ∧
            Reading numbered policed origin addr known first second, lost⟩ known first second := by
      rintro _ first second ⟨told, rfl, silent, alike⟩
      exact twin_modify ⟨rfl, told, rfl, silent, { alike with cache := rfl }⟩
    refine twin_ite (fun _ => ?_) fun _ => ?_
    · refine twin_mono (getAllSdrs_lockstep (.inr polls) _ _ _ ⟨told, rfl, silent, alike⟩) ?_
        fun _ _ _ _ => trivial
      exact fun known _ _ first second ended => stored known first second ended.2
    · exact twin_pure (stored _ _ _ ⟨told, rfl, silent, alike⟩)

end Records

end Chassis.Vita4611

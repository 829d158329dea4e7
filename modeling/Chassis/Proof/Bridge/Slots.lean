import Chassis.Proof.Bridge.Table
import Chassis.Automaton.Run

namespace Chassis.Ipmb
open Automaton

variable {count : Nat}

/-- The coroutine of the call is still inside `requestAdd`. -/
def Call.suspended (record : Call count) : Bool :=
  match record.status with
  | .suspended _ => true
  | .returned _ => false

/-- The call returned because its request could not be encoded. -/
def Call.stranded (record : Call count) : Bool :=
  decide (record.status = .returned (.status .error) ∧ 257 < record.arguments.dataReceived.length)

/-- Suspended calls and stranded calls hold a slot. -/
def Call.holds (record : Call count) : Bool := record.suspended || record.stranded

theorem Call.suspended_of_status {record : Call count} {suspension : Suspension}
    (status : record.status = .suspended suspension) : record.suspended = true := by
  simp only [Call.suspended, status]

theorem Call.holds_of_status {record : Call count} {suspension : Suspension}
    (status : record.status = .suspended suspension) : record.holds = true := by
  simp only [Call.holds, Call.suspended_of_status status, Bool.true_or]

/-- The longest request that fits in a frame has 257 bytes of data. -/
theorem ipmbToi2cConstruct_eq_none (request : IpmbRequest) :
    request.ipmbToi2cConstruct = none ↔ 257 < request.data.length := by
  unfold IpmbRequest.ipmbToi2cConstruct
  dsimp only
  split_ifs with long
  · simp only [true_iff]
    simp only [ipmbRequestDataHeaderLength, ipmbConnectionHeaderLength, ipmbChecksumSize,
      ipmbMaxFrameLength, ipmbPktLenSize, ipmbResponseDataHeaderLength, ipmbMaxDataSize] at long
    omega
  · simp only [false_iff, Nat.not_lt]
    simp only [ipmbRequestDataHeaderLength, ipmbConnectionHeaderLength, ipmbChecksumSize,
      ipmbMaxFrameLength, ipmbPktLenSize, ipmbResponseDataHeaderLength, ipmbMaxDataSize] at long
    omega

/-- The slots of the table are exactly those of the calls that hold one. -/
structure Table.Sound (table : Table count) : Prop where
  fresh : ∀ call, table.nextCall ≤ call → table.calls call = none
  owned : ∀ index slot call, table.slots index slot = some call →
    ∃ record, table.calls call = some record ∧ record.channel = index ∧
      slotOf (table.requests call).seq = slot ∧ record.holds = true
  held : ∀ call record, table.calls call = some record → record.holds = true →
    table.slots record.channel (slotOf (table.requests call).seq) = some call
  short : ∀ call record, table.calls call = some record → record.suspended = true →
    record.arguments.dataReceived.length ≤ 257
  answered : ∀ call, (table.requests call).state = .matched →
    (table.requests call).matchedResponse.isSome

namespace Table.Sound

variable {table : Table count} (sound : table.Sound) {call : Nat} {record : Call count}

include sound

/-- A call that has a record was numbered before. -/
theorem lt_nextCall (present : table.calls call = some record) : call < table.nextCall := by
  by_contra late
  rw [sound.fresh call (Nat.not_lt.mp late)] at present
  cases present

/-- The record of an earlier call leaves the numbers that come next unused. -/
theorem fresh_update {next : Nat} (earlier : call < next) (least : table.nextCall ≤ next)
    (other : Nat) (late : next ≤ other) :
    Function.update table.calls call (some record) other = none := by
  have distinct : other ≠ call := by omega
  rw [Function.update_of_ne distinct]
  exact sound.fresh other (Nat.le_trans least late)

/-- A coroutine that stays suspended keeps its slot. -/
theorem suspend (present : table.calls call = some record) (suspended : record.suspended = true)
    (suspension : Suspension) :
    (table.setCall call { record with status := .suspended suspension }).Sound where
  fresh := sound.fresh_update (sound.lt_nextCall present) (Nat.le_refl _)
  owned index slot other taken := by
    obtain ⟨owner, recorded, channel, place, holds⟩ := sound.owned index slot other taken
    by_cases same : other = call
    · subst same
      cases present.symm.trans recorded
      exact ⟨_, setCall_eq_some.mpr (.inl ⟨rfl, rfl⟩), channel, place, rfl⟩
    · exact ⟨owner, setCall_eq_some.mpr (.inr ⟨same, recorded⟩), channel, place, holds⟩
  held other owner recorded holds := by
    rcases setCall_eq_some.mp recorded with ⟨rfl, rfl⟩ | ⟨_, recorded⟩
    · exact sound.held other record present (by simp only [Call.holds, suspended, Bool.true_or])
    · exact sound.held other owner recorded holds
  short other owner recorded waits := by
    rcases setCall_eq_some.mp recorded with ⟨rfl, rfl⟩ | ⟨_, recorded⟩
    · exact sound.short other record present suspended
    · exact sound.short other owner recorded waits
  answered := sound.answered

/-- The table does not depend on the frames written so far. -/
theorem write (present : table.calls call = some record) (suspended : record.suspended = true)
    (attempt i2cRetryCnt : Nat) : (table.write call record attempt i2cRetryCnt).Sound :=
  let kept := sound.suspend present suspended (.writing attempt i2cRetryCnt)
  ⟨kept.fresh, kept.owned, kept.held, kept.short, kept.answered⟩

/-- A response may arrive for any call. -/
theorem keep (call : Nat) (response : IpmbResponse) : (table.keep call response).Sound where
  fresh := sound.fresh
  owned index slot other taken := by
    obtain ⟨owner, recorded, channel, place, holds⟩ := sound.owned index slot other taken
    exact ⟨owner, recorded, channel, by rwa [keep_seq], holds⟩
  held other owner recorded holds := by
    rw [keep_seq]
    exact sound.held other owner recorded holds
  short := sound.short
  answered other matched := by
    rw [keep_apply] at matched ⊢
    split_ifs at matched ⊢
    · rfl
    · exact sound.answered other matched

theorem reject (arguments : SendRequest) (index : Fin count) :
    (table.reject arguments index).Sound where
  fresh := sound.fresh_update (Nat.lt_succ_self _) (Nat.le_succ _)
  owned channel slot other taken := by
    obtain ⟨owner, recorded, rest⟩ := sound.owned channel slot other taken
    exact ⟨owner, setCall_eq_some.mpr (.inr ⟨(sound.lt_nextCall recorded).ne, recorded⟩), rest⟩
  held other owner recorded holds := by
    rcases setCall_eq_some.mp recorded with ⟨rfl, rfl⟩ | ⟨_, recorded⟩
    · simp [Call.holds, Call.suspended, Call.stranded] at holds
    · exact sound.held other owner recorded holds
  short other owner recorded waits := by
    rcases setCall_eq_some.mp recorded with ⟨rfl, rfl⟩ | ⟨_, recorded⟩
    · cases waits
    · exact sound.short other owner recorded waits
  answered := sound.answered

/-- A new call takes a free slot. -/
theorem enter {arguments : SendRequest} {index : Fin count} {seq : UInt8} (rqSA : UInt8)
    (free : table.slots index (slotOf seq) = none) (channel : record.channel = index)
    (holds : record.holds = true)
    (short : record.suspended = true → record.arguments.dataReceived.length ≤ 257) :
    ((table.enter arguments index seq rqSA).setCall table.nextCall record).Sound where
  fresh := sound.fresh_update (Nat.lt_succ_self _) (Nat.le_succ _)
  owned place slot other taken := by
    rw [setCall_slots, enter_slots] at taken
    split_ifs at taken with here
    · cases taken
      refine ⟨record, setCall_eq_some.mpr (.inl ⟨rfl, rfl⟩), channel.trans here.1.symm, ?_, holds⟩
      rw [setCall_requests, enter_new]
      exact here.2.symm
    · obtain ⟨owner, recorded, channel, place, holds⟩ := sound.owned place slot other taken
      have older := (sound.lt_nextCall recorded).ne
      refine ⟨owner, setCall_eq_some.mpr (.inr ⟨older, recorded⟩), channel, ?_, holds⟩
      rwa [setCall_requests, enter_old _ _ _ _ _ older]
  held other owner recorded holds := by
    rw [setCall_slots, setCall_requests, enter_slots]
    rcases setCall_eq_some.mp recorded with ⟨rfl, rfl⟩ | ⟨older, recorded⟩
    · rw [enter_new]
      exact if_pos ⟨channel, rfl⟩
    · have held := sound.held other owner recorded holds
      rw [enter_old _ _ _ _ _ older, if_neg]
      · exact held
      · rintro ⟨same, number⟩
        rw [same, number, free] at held
        cases held
  short other owner recorded waits := by
    rcases setCall_eq_some.mp recorded with ⟨rfl, rfl⟩ | ⟨_, recorded⟩
    · exact short waits
    · exact sound.short other owner recorded waits
  answered other matched := by
    rw [setCall_requests] at matched ⊢
    by_cases same : other = table.nextCall
    · subst same
      rw [enter_new] at matched
      cases matched
    · rw [enter_old _ _ _ _ _ same] at matched ⊢
      exact sound.answered other matched

/-- A coroutine that returns after its first write gives its slot back. -/
theorem finish (present : table.calls call = some record) (suspended : record.suspended = true)
    (outcome : RequestOutcome) :
    ((table.release call record).setCall call { record with status := .returned outcome }).Sound where
  fresh := sound.fresh_update (sound.lt_nextCall present) (Nat.le_refl _)
  owned index slot other taken := by
    rw [setCall_slots, release_slots] at taken
    split_ifs at taken with here
    obtain ⟨owner, recorded, channel, place, holds⟩ := sound.owned index slot other taken
    have distinct : other ≠ call := by
      rintro rfl
      cases present.symm.trans recorded
      exact here ⟨channel.symm, place.symm⟩
    refine ⟨owner, setCall_eq_some.mpr (.inr ⟨distinct, recorded⟩), channel, ?_, holds⟩
    rwa [setCall_requests, release_seq]
  held other owner recorded holds := by
    rw [setCall_slots, setCall_requests, release_slots, release_seq]
    rcases setCall_eq_some.mp recorded with ⟨rfl, rfl⟩ | ⟨distinct, recorded⟩
    · have := sound.short other record present suspended
      simp only [Call.holds, Call.suspended, Call.stranded, Bool.false_or, decide_eq_true_eq]
        at holds
      omega
    · have held := sound.held other owner recorded holds
      have released := sound.held call record present
        (by simp only [Call.holds, suspended, Bool.true_or])
      rw [if_neg]
      · exact held
      · rintro ⟨same, number⟩
        rw [same, number, released] at held
        exact distinct (Option.some.inj held).symm
  short other owner recorded waits := by
    rcases setCall_eq_some.mp recorded with ⟨rfl, rfl⟩ | ⟨_, recorded⟩
    · cases waits
    · exact sound.short other owner recorded waits
  answered other matched := by
    rw [setCall_requests, release_apply] at matched ⊢
    split_ifs at matched ⊢
    exact sound.answered other matched

/-- Every step keeps the table sound. -/
theorem step {event : Event count} {next : Table count} (step : table.Step event next) :
    next.Sound := by
  cases step with
  | idle => exact sound
  | reject arguments index served full => exact sound.reject arguments index
  | strand arguments index seq rqSA served free bounded long =>
      refine sound.enter rqSA free rfl ?_ nofun
      have long : 257 < arguments.dataReceived.length := (ipmbToi2cConstruct_eq_none _).mp long
      simp only [Call.holds, Call.stranded, true_and, long, decide_true, Bool.or_true]
  | accept arguments index seq rqSA buffer served free bounded encoded =>
      have fits : arguments.dataReceived.length ≤ 257 := Nat.not_lt.mp fun long => by
        rw [(ipmbToi2cConstruct_eq_none (table.request arguments index seq rqSA)).mpr long] at encoded
        cases encoded
      have entered : ((table.enter arguments index seq rqSA).setCall table.nextCall
          ⟨arguments, index, buffer, .suspended (.writing 0 0)⟩).Sound :=
        sound.enter rqSA free rfl rfl fun _ => fits
      exact ⟨entered.fresh, entered.owned, entered.held, entered.short, entered.answered⟩
  | write _ call record suspension attempt i2cRetryCnt present suspended =>
      exact sound.write present (Call.suspended_of_status suspended) attempt i2cRetryCnt
  | wait _ call record before after present suspended =>
      exact sound.suspend present (Call.suspended_of_status suspended) after
  | finish _ call record suspension outcome present suspended settled =>
      exact sound.finish present (Call.suspended_of_status suspended) outcome
  | abort _ call record matched absent =>
      have answered := sound.answered call matched
      rw [absent] at answered
      cases answered
  | hear index bytes response call heard held agrees => exact sound.keep call response
  | wake index bytes response call record attempt heard held agrees present waiting =>
      exact (sound.keep call response).suspend present (Call.suspended_of_status waiting) _

/-- A call that has returned keeps its record. -/
theorem returned {event : Event count} {next : Table count} (step : table.Step event next)
    {outcome : RequestOutcome} (present : table.calls call = some record)
    (returned : record.status = .returned outcome) : next.calls call = some record := by
  have older := (sound.lt_nextCall present).ne
  have other {moved : Nat} {busy : Call count} {suspension : Suspension}
      (recorded : table.calls moved = some busy) (suspended : busy.status = .suspended suspension) :
      call ≠ moved := by
    rintro rfl
    cases present.symm.trans recorded
    cases returned.symm.trans suspended
  cases step with
  | idle | abort | hear => exact present
  | reject | strand | accept => exact setCall_eq_some.mpr (.inr ⟨older, present⟩)
  | write _ _ _ _ _ _ recorded suspended =>
      exact setCall_eq_some.mpr (.inr ⟨other recorded suspended, present⟩)
  | wait _ _ _ _ _ recorded suspended =>
      exact setCall_eq_some.mpr (.inr ⟨other recorded suspended, present⟩)
  | finish _ _ _ _ _ recorded suspended =>
      exact setCall_eq_some.mpr (.inr ⟨other recorded suspended, present⟩)
  | wake _ _ _ _ _ _ _ _ _ recorded waiting =>
      exact setCall_eq_some.mpr (.inr ⟨other recorded waiting, present⟩)

end Table.Sound

theorem initial_sound (channels : Fin count → IpmbChannel) :
    (Bridge.initial channels).table.Sound where
  fresh _ _ := rfl
  owned _ _ _ := nofun
  held _ _ := nofun
  short _ _ := nofun
  answered _ := nofun

/-- Every reachable bridge has a sound table. -/
theorem reachable_sound {channels : Fin count → IpmbChannel} {bridge : Bridge count}
    (reachable : Reachable Bridge.step (.initial channels) bridge) : bridge.table.Sound :=
  reachable.invariant (fun bridge => bridge.table.Sound) (initial_sound channels)
    fun _ _ _ sound _ taken => sound.step (step_table taken)

end Chassis.Ipmb

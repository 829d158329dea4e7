import Chassis.Proof.Bridge.Slots

namespace Chassis.Ipmb
open Automaton

variable {count : Nat}

section Encoding

/-- The number of a request survives its encoding. -/
theorem ipmbSeqGet_seqLunSet {seq : UInt8} (bounded : seq.toNat < 64) (lun : UInt8) :
    ipmbSeqGet (ipmbSeqLunSet seq lun) = seq := by
  have low : lun.toNat &&& 3 < 2 ^ 2 := Nat.and_lt_two_pow lun.toNat (by decide)
  have high : seq.toNat * 4 % 256 = 2 ^ 2 * seq.toNat := by omega
  apply UInt8.toNat.inj
  simp only [ipmbSeqGet, ipmbSeqLunSet, ipmbLunMask, UInt8.toNat_shiftRight, UInt8.toNat_or,
    UInt8.toNat_shiftLeft, UInt8.toNat_and, UInt8.reduceToNat, Nat.shiftLeft_eq,
    Nat.shiftRight_eq_div_pow, Nat.reduceMod, Nat.reducePow, high]
  rw [← Nat.two_pow_add_eq_or_of_lt low]
  omega

/-- A frame is sent to the address of its request. -/
theorem destination_of_encoded {request : IpmbRequest} {buffer : List UInt8}
    (encoded : request.ipmbToi2cConstruct = some buffer) :
    destination buffer = request.address ∧
      byteAt buffer 5 = ipmbSeqLunSet request.seq request.rqLun := by
  unfold IpmbRequest.ipmbToi2cConstruct at encoded
  dsimp only at encoded
  split_ifs at encoded
  cases encoded
  exact ⟨rfl, rfl⟩

/-- A frame has at least a header. -/
theorem buffer_isEmpty {request : IpmbRequest} {buffer : List UInt8}
    (encoded : request.ipmbToi2cConstruct = some buffer) : buffer.isEmpty = false := by
  unfold IpmbRequest.ipmbToi2cConstruct at encoded
  dsimp only at encoded
  split_ifs at encoded
  cases encoded
  rfl

/-- A decoded number has six bits. -/
theorem heardResponse_seq {bytes : Option (List UInt8)} {response : IpmbResponse}
    (heard : heardResponse bytes = some response) : response.seq.toNat < 64 := by
  unfold heardResponse at heard
  obtain ⟨received, _, heard⟩ := Option.bind_eq_some_iff.mp heard
  split_ifs at heard
  unfold IpmbResponse.i2cToIpmbConstruct at heard
  dsimp only at heard
  obtain ⟨data, _, rfl⟩ := Option.map_eq_some_iff.mp heard
  have bound := (byteAt received.1 4).toNat_lt
  simp only [ipmbSeqGet, UInt8.toNat_shiftRight, UInt8.reduceToNat, Nat.reduceMod,
    Nat.shiftRight_eq_div_pow, Nat.reducePow]
  omega

theorem slotOf_inj {first second : UInt8} (bounded : first.toNat < 64)
    (bounded' : second.toNat < 64) (same : slotOf first = slotOf second) : first = second := by
  have values : first.toNat % 64 = second.toNat % 64 := congrArg Fin.val same
  rw [Nat.mod_eq_of_lt bounded, Nat.mod_eq_of_lt bounded'] at values
  exact UInt8.toNat.inj values

end Encoding

/-- An admitted call has encoded its request. -/
def Call.admitted (record : Call count) : Bool := !record.buffer.isEmpty

/-- The request carries the arguments of its call and is encoded in the buffer of the call. -/
structure Carries (request : IpmbRequest) (record : Call count) : Prop where
  encoded : request.ipmbToi2cConstruct = some record.buffer
  bounded : request.seq.toNat < 64
  netFn : request.netFn = record.arguments.netfn
  rqLun : request.rqLun = record.arguments.lun
  rsLun : request.rsLun = ipmbRsLun
  cmd : request.cmd = record.arguments.cmd

/-- The frames of a call are its buffer on its channel, and there is at least one. -/
structure Table.Tells (table : Table count) (call : Nat) (record : Call count) : Prop where
  framed : ∀ frame ∈ table.framesOf call,
    frame.channel = record.channel ∧ frame.buffer = record.buffer
  written : table.framesOf call ≠ []
  carried : Carries (table.requests call).bare record

/-- Every admitted call has written its own request, and no other call has written a frame. -/
structure Table.Framed (table : Table count) : Prop where
  silent : ∀ call, table.calls call = none → table.framesOf call = []
  quiet : ∀ call record, table.calls call = some record → record.admitted = false →
    table.framesOf call = []
  told : ∀ call record, table.calls call = some record → record.admitted = true →
    table.Tells call record
  active : ∀ call record, table.calls call = some record →
    (record.suspended = true ∨ ∃ response, record.status = .returned (.matched response)) →
    record.admitted = true

/-- A call that writes its buffer again still tells the same. -/
theorem Table.Tells.extend {table next : Table count} {call : Nat} {record : Call count}
    (told : table.Tells call record) (status : CallStatus)
    (bare : (next.requests call).bare = (table.requests call).bare)
    (frames : next.framesOf call = table.framesOf call ∨ next.framesOf call =
      table.framesOf call ++ [⟨record.channel, some call, record.buffer⟩]) :
    next.Tells call { record with status := status } := by
  have carried : Carries (next.requests call).bare { record with status := status } := by
    rw [bare]
    exact ⟨told.carried.encoded, told.carried.bounded, told.carried.netFn, told.carried.rqLun,
      told.carried.rsLun, told.carried.cmd⟩
  rcases frames with frames | frames
  · refine ⟨?_, ?_, carried⟩
    · rw [frames]
      exact told.framed
    · rw [frames]
      exact told.written
  · refine ⟨?_, ?_, carried⟩
    · intro frame member
      rw [frames, List.mem_append, List.mem_singleton] at member
      rcases member with member | rfl
      · exact told.framed frame member
      · exact ⟨rfl, rfl⟩
    · rw [frames]
      exact List.append_ne_nil_of_right_ne_nil _ (List.cons_ne_nil _ _)

/-- A step changes at most the status of an older call and the marks of its request. -/
theorem Table.Step.kept {table next : Table count} {event : Event count}
    (step : table.Step event next) {call : Nat} {record : Call count}
    (older : call ≠ table.nextCall) (present : next.calls call = some record) :
    ∃ old, table.calls call = some old ∧ record = { old with status := record.status } ∧
      (next.requests call).bare = (table.requests call).bare := by
  cases step.fate present with
  | untouched old bare => exact ⟨record, old, rfl, bare⟩
  | rejected arguments index new => exact absurd new older
  | stranded new => exact absurd new older
  | admitted new => exact absurd new older
  | moved old suspended bare => exact ⟨_, old, rfl, bare⟩
  | answered arrived heard held agrees old woken bare => exact ⟨_, old, rfl, bare⟩
  | finished old suspended settled bare => exact ⟨_, old, rfl, bare⟩

theorem Table.Step.silent {table next : Table count} {event : Event count}
    (step : table.Step event next) {call : Nat} (absent : next.calls call = none) :
    table.calls call = none ∧ next.framesOf call = table.framesOf call := by
  have distinct {base : Table count} {moved : Nat} {record : Call count}
      (absent : (base.setCall moved record).calls call = none) : call ≠ moved := by
    rintro rfl
    cases (Function.update_self _ _ _).symm.trans absent
  have before {base : Table count} {moved : Nat} {record : Call count}
      (absent : (base.setCall moved record).calls call = none) : base.calls call = none :=
    (Function.update_of_ne (distinct absent) _ _).symm.trans absent
  cases step with
  | idle => exact ⟨absent, rfl⟩
  | reject => exact ⟨before absent, rfl⟩
  | strand => exact ⟨before absent, rfl⟩
  | accept => exact ⟨before absent, write_framesOf_of_ne _ _ _ (distinct absent) _ _⟩
  | write => exact ⟨before absent, write_framesOf_of_ne _ _ _ (distinct absent) _ _⟩
  | wait => exact ⟨before absent, rfl⟩
  | finish => exact ⟨before absent, rfl⟩
  | abort => exact ⟨absent, rfl⟩
  | hear => exact ⟨absent, rfl⟩
  | wake => exact ⟨before absent, rfl⟩

/-- Every step keeps the frames with their calls. -/
theorem Table.Framed.step {table next : Table count} {event : Event count}
    (framed : table.Framed) (sound : table.Sound) (step : table.Step event next) :
    next.Framed where
  silent call absent := by
    have before := step.silent absent
    rw [before.2]
    exact framed.silent call before.1
  quiet call record present refused := by
    have unwritten : table.framesOf table.nextCall = [] :=
      framed.silent _ (sound.fresh _ (Nat.le_refl _))
    cases step.fate present with
    | untouched old bare response frames => rw [frames, framed.quiet call record old refused]
    | rejected arguments index new frames => rw [frames, new, unwritten]
    | stranded new asked served free long frames => rw [frames, new, unwritten]
    | admitted new asked served free bounded encoded request frames =>
        rw [Call.admitted, buffer_isEmpty encoded] at refused
        cases refused
    | moved old suspended bare response frames =>
        have active := framed.active call _ old (.inl (Call.suspended_of_status suspended))
        cases active.symm.trans refused
    | answered arrived heard held agrees old woken bare kept frames =>
        rw [frames, framed.quiet call _ old refused]
    | finished old suspended settled bare frames => rw [frames, framed.quiet call _ old refused]
  told call record present admitted := by
    cases step.fate present with
    | untouched old bare response frames =>
        exact (framed.told call record old admitted).extend record.status bare (.inl frames)
    | rejected => cases admitted
    | stranded => cases admitted
    | @admitted arguments index seq rqSA buffer new asked served free bounded encoded request frames =>
        rw [new, framed.silent _ (sound.fresh _ (Nat.le_refl _)), List.nil_append, ← new] at frames
        refine ⟨?_, ?_, ?_⟩
        · intro frame member
          rw [frames, List.mem_singleton] at member
          rw [member]
          exact ⟨rfl, rfl⟩
        · rw [frames]
          exact List.cons_ne_nil _ _
        · rw [request]
          exact ⟨encoded, bounded, rfl, rfl, rfl, rfl⟩
    | moved old suspended bare response frames =>
        exact (framed.told call _ old admitted).extend _ bare frames
    | answered arrived heard held agrees old woken bare kept frames =>
        exact (framed.told call _ old admitted).extend _ bare (.inl frames)
    | finished old suspended settled bare frames =>
        exact (framed.told call _ old admitted).extend _ bare (.inl frames)
  active call record present busy := by
    cases step.fate present with
    | untouched old => exact framed.active call record old busy
    | rejected => simp [Call.suspended] at busy
    | stranded => simp [Call.suspended] at busy
    | admitted new asked served free bounded encoded => rw [Call.admitted, buffer_isEmpty encoded]; rfl
    | moved old suspended =>
        have before := framed.active call _ old (.inl (Call.suspended_of_status suspended))
        exact before
    | answered arrived heard held agrees old woken =>
        rcases woken with rfl | ⟨before, after, suspended, rfl⟩
        · exact framed.active call _ old busy
        · have before := framed.active call _ old (.inl (Call.suspended_of_status suspended))
          exact before
    | finished old suspended =>
        have before := framed.active call _ old (.inl (Call.suspended_of_status suspended))
        exact before

theorem initial_framed (channels : Fin count → IpmbChannel) :
    (Bridge.initial channels).table.Framed where
  silent _ _ := rfl
  quiet _ _ := nofun
  told _ _ := nofun
  active _ _ := nofun

theorem reachable_framed {channels : Fin count → IpmbChannel} {bridge : Bridge count}
    (reachable : Reachable Bridge.step (.initial channels) bridge) : bridge.table.Framed :=
  (reachable.invariant (fun bridge => bridge.table.Sound ∧ bridge.table.Framed)
    ⟨initial_sound channels, initial_framed channels⟩
    fun _ _ _ kept _ taken => ⟨kept.1.step (step_table taken),
      kept.2.step kept.1 (step_table taken)⟩).2

theorem mem_framesOf {bridge : Bridge count} {call : Nat} {frame : Sent count} :
    frame ∈ bridge.table.framesOf call ↔ frame ∈ bridge.sent ∧ frame.call = some call := by
  simp only [Table.framesOf, Bridge.table, List.mem_filter, beq_iff_eq]
  constructor
  · exact fun member => ⟨member.1.1, member.2⟩
  · exact fun member => ⟨⟨member.1, by rw [member.2]; rfl⟩, member.2⟩

end Chassis.Ipmb

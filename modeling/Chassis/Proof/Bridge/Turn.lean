import Chassis.Proof.Bridge.Attribution

namespace Chassis.Ipmb
open Automaton

variable {count : Nat}

/-- The event completes the operation that the coroutine of the call is suspended in. -/
def Event.completes (event : Event count) (call : Nat) : Bool :=
  match event with
  | .writeDone other _ => other == call
  | .timerDone other _ => other == call
  | .resume other => other == call
  | _ => false

/-- A coroutine that resumes for the last time returns an error, its response or a timeout. -/
def Settles (request : IpmbRequest) (attempt : Nat) (ec : WaitResult) (outcome : RequestOutcome) :
    Prop :=
  ec = .failed ∧ outcome = .status .error ∨
    ec ≠ .failed ∧ request.state = .matched ∧
      (∃ response, request.matchedResponse = some response ∧ outcome = .matched response) ∨
    ec ≠ .failed ∧ request.state ≠ .matched ∧ ipmbNumberOfTries ≤ attempt + 1 ∧
      outcome = .status .timeout

/-- These are all the ways in which an event can move a call that has a record. -/
inductive Turn (bridge : Bridge count) (event : Event count) (after : Bridge count) (call : Nat)
    (record : Call count) : Prop where
  | stays (foreign : event.completes call = false)
      (unheard : ∀ response, ¬bridge.table.Hears event call response)
      (present : after.calls call = some record) (same : after.heap call = bridge.heap call)
  | marked (response : IpmbResponse) (status : CallStatus)
      (hears : bridge.table.Hears event call response)
      (woken : status = record.status ∨ ∃ attempt, record.status = .suspended (.waiting attempt) ∧
        status = .suspended (.resuming attempt .aborted))
      (present : after.calls call = some { record with status := status })
      (kept : after.heap call =
        { bridge.heap call with state := .matched, matchedResponse := some response })
  | rewrote (attempt i2cRetryCnt : Nat) (own : event = .writeDone call true)
      (before : record.status = .suspended (.writing attempt i2cRetryCnt))
      (left : i2cRetryCnt + 1 < ipmbI2cNumberOfRetries)
      (present : after.calls call =
        some { record with status := .suspended (.writing attempt (i2cRetryCnt + 1)) })
      (same : after.heap call = bridge.heap call)
  | wrote (attempt i2cRetryCnt : Nat) (ec : Bool) (own : event = .writeDone call ec)
      (before : record.status = .suspended (.writing attempt i2cRetryCnt))
      (present : after.calls call = some { record with status := .suspended (.waiting attempt) })
      (same : after.heap call = bridge.heap call)
  | ended (attempt : Nat) (failed : Bool) (own : event = .timerDone call failed)
      (before : record.status = .suspended (.waiting attempt))
      (present : after.calls call = some { record with
        status := .suspended (.resuming attempt (if failed then .failed else .expired)) })
      (same : after.heap call = bridge.heap call)
  | retried (attempt : Nat) (ec : WaitResult) (own : event = .resume call)
      (before : record.status = .suspended (.resuming attempt ec))
      (unmatched : (bridge.heap call).state ≠ .matched) (left : attempt + 1 < ipmbNumberOfTries)
      (present : after.calls call =
        some { record with status := .suspended (.writing (attempt + 1) 0) })
      (same : after.heap call = bridge.heap call)
  | returned (attempt : Nat) (ec : WaitResult) (outcome : RequestOutcome)
      (own : event = .resume call) (before : record.status = .suspended (.resuming attempt ec))
      (settled : Settles (bridge.heap call) attempt ec outcome)
      (present : after.calls call = some { record with status := .returned outcome })

section Others

variable (bridge : Bridge count) {call moved : Nat} (record : Call count)

/-- A new call leaves the older calls and their requests alone. -/
theorem sendRequest_older (older : call ≠ bridge.nextCall) (arguments : SendRequest) :
    (bridge.ipmbHandleRequest arguments).calls call = bridge.calls call ∧
      (bridge.ipmbHandleRequest arguments).heap call = bridge.heap call := by
  cases served : bridge.getChannel arguments.reqChannel with
  | none =>
      unfold Bridge.ipmbHandleRequest
      rw [served]
      exact ⟨rfl, rfl⟩
  | some index =>
      change (bridge.ipmbHandleRequest arguments).table.calls call = _ ∧
        (bridge.ipmbHandleRequest arguments).table.requests call = _
      rw [ipmbHandleRequest_table bridge served]
      cases bridge.nextSeq index with
      | none => exact ⟨Function.update_of_ne older _ _, rfl⟩
      | some seq =>
          have kept := Table.enter_old bridge.table arguments index seq
            (bridge.requester arguments index) older
          dsimp only
          split
          · exact ⟨Function.update_of_ne older _ _, kept⟩
          · exact ⟨Function.update_of_ne older _ _, kept⟩

theorem afterWrite_other (distinct : call ≠ moved) (attempt i2cRetryCnt : Nat) (ec : Bool) :
    (bridge.afterWrite moved record attempt i2cRetryCnt ec).calls call = bridge.calls call ∧
      (bridge.afterWrite moved record attempt i2cRetryCnt ec).heap call = bridge.heap call := by
  unfold Bridge.afterWrite
  split_ifs
  · exact ⟨Function.update_of_ne distinct _ _, rfl⟩
  · exact ⟨Function.update_of_ne distinct _ _, rfl⟩

theorem afterWait_other (distinct : call ≠ moved) (attempt : Nat) (ec : WaitResult) :
    (bridge.afterWait moved record attempt ec).calls call = bridge.calls call ∧
      (bridge.afterWait moved record attempt ec).heap call = bridge.heap call := by
  have released : (bridge.makeRequestInvalid record.channel moved).heap call = bridge.heap call :=
    Function.update_of_ne distinct _ _
  unfold Bridge.afterWait
  split_ifs
  · exact ⟨Function.update_of_ne distinct _ _, released⟩
  · split
    · exact ⟨Function.update_of_ne distinct _ _, released⟩
    · exact ⟨rfl, released⟩
  · unfold Bridge.nextTry
    split_ifs
    · exact ⟨Function.update_of_ne distinct _ _, rfl⟩
    · exact ⟨Function.update_of_ne distinct _ _, released⟩

theorem cancelTimer_other (distinct : call ≠ moved) :
    (bridge.cancelTimer moved).calls call = bridge.calls call ∧
      (bridge.cancelTimer moved).heap call = bridge.heap call := by
  unfold Bridge.cancelTimer
  split
  · split
    · exact ⟨Function.update_of_ne distinct _ _, rfl⟩
    · exact ⟨rfl, rfl⟩
  · exact ⟨rfl, rfl⟩

/-- Only a frame that is heard as a response reaches the table. -/
theorem processI2cEvent_unheard (index : Fin count)
    {bytes : Option (List UInt8)} (unheard : heardResponse bytes = none) :
    (bridge.processI2cEvent index bytes).table = bridge.table := by
  have processed := processI2cEvent_processed bridge index bytes
  generalize bridge.processI2cEvent index bytes = after at processed ⊢
  cases processed with
  | dropped rejected => rfl
  | response received isResponse decoded =>
      rw [heardResponse, received, Option.bind_some, if_pos isResponse, decoded] at unheard
      cases unheard
  | @torn frame r received isResponse undecoded => exact announce_table bridge index frame r
  | request received isRequest => rw [requestReceived_table, announce_table]

end Others

section Moves

variable {bridge after : Bridge count} {event : Event count} {call : Nat} {record : Call count}

/-- A response that a call does not hear leaves the call alone. -/
theorem responseMatch_turn (announced : Bridge count) (same : announced.table = bridge.table)
    (index : Fin count) {bytes : Option (List UInt8)} {response : IpmbResponse}
    (heard : heardResponse bytes = some response) (present : bridge.calls call = some record) :
    Turn bridge (.i2cEvent index bytes) (announced.responseMatch index response) call record := by
  have calls : announced.calls = bridge.calls := congrArg Table.calls same
  have heap : announced.heap = bridge.heap := congrArg Table.requests same
  have slots : (announced.channels index).outstandingRequests =
      (bridge.channels index).outstandingRequests := congrFun (congrArg Table.slots same) index
  have unheard (disagrees : (bridge.channels index).outstandingRequests (slotOf response.seq) =
      some call → ¬Bridge.matchesRequest (bridge.heap call) response = true) (other : IpmbResponse) :
      ¬bridge.table.Hears (.i2cEvent index bytes) call other := by
    rintro ⟨_, _, ⟨⟩, heard', held', agrees'⟩
    cases heard.symm.trans heard'
    exact disagrees held' agrees'
  unfold Bridge.responseMatch
  rw [slots, heap]
  split
  · next owner held =>
    dsimp only
    split_ifs with agrees
    · by_cases own : owner = call
      · subst own
        have hears : bridge.table.Hears (.i2cEvent index bytes) owner response :=
          ⟨index, bytes, rfl, heard, held, agrees⟩
        unfold Bridge.cancelTimer
        simp only [calls, present]
        split
        · next attempt waiting =>
          exact .marked response _ hears (.inr ⟨attempt, waiting, rfl⟩)
            (Function.update_self _ _ _) (Function.update_self _ _ _)
        · exact .marked response record.status hears (.inl rfl) (calls ▸ present)
            (Function.update_self _ _ _)
      · have distinct : call ≠ owner := fun same => own same.symm
        have kept := cancelTimer_other announced distinct
        refine .stays rfl ?_ (kept.1.trans (calls ▸ present))
          ((Function.update_of_ne distinct _ _).trans (kept.2.trans (congrFun heap call)))
        exact unheard fun held' _ => own (Option.some.inj (held.symm.trans held'))
    · refine .stays rfl ?_ (calls ▸ present) (congrFun heap call)
      apply unheard
      intro held' agrees'
      cases held.symm.trans held'
      exact agrees agrees'
  · next free =>
    refine .stays rfl ?_ (calls ▸ present) (congrFun heap call)
    apply unheard
    intro held' _
    cases free.symm.trans held'

/-- A completed write is repeated after an error or followed by the wait. -/
theorem afterWrite_turn {attempt i2cRetryCnt : Nat}
    (writing : record.status = .suspended (.writing attempt i2cRetryCnt)) (ec : Bool) :
    Turn bridge (.writeDone call ec) (bridge.afterWrite call record attempt i2cRetryCnt ec) call
      record := by
  unfold Bridge.afterWrite
  split_ifs with again
  · rw [Bool.and_eq_true, decide_eq_true_eq] at again
    rw [again.1]
    exact .rewrote attempt i2cRetryCnt rfl writing again.2 (Function.update_self _ _ _) rfl
  · exact .wrote attempt i2cRetryCnt ec rfl writing (Function.update_self _ _ _) rfl

/-- A coroutine that resumes returns or starts its next try. -/
theorem afterWait_turn (answered : (bridge.heap call).state = .matched →
      (bridge.heap call).matchedResponse.isSome) {attempt : Nat} {ec : WaitResult}
    (resuming : record.status = .suspended (.resuming attempt ec)) :
    Turn bridge (.resume call) (bridge.afterWait call record attempt ec) call record := by
  unfold Bridge.afterWait
  split_ifs with failed matched
  · exact .returned attempt ec _ rfl resuming (.inl ⟨failed, rfl⟩) (Function.update_self _ _ _)
  · obtain ⟨response, stored⟩ := Option.isSome_iff_exists.mp (answered matched)
    rw [stored]
    exact .returned attempt ec _ rfl resuming
      (.inr (.inl ⟨failed, matched, response, stored, rfl⟩)) (Function.update_self _ _ _)
  · unfold Bridge.nextTry
    split_ifs with left
    · exact .retried attempt ec rfl resuming matched left (Function.update_self _ _ _) rfl
    · exact .returned attempt ec _ rfl resuming
        (.inr (.inr ⟨failed, matched, Nat.not_lt.mp left, rfl⟩)) (Function.update_self _ _ _)

/-- Every step moves a call in one of these ways. -/
theorem step_turn (sound : bridge.table.Sound) (present : bridge.calls call = some record)
    (taken : bridge.step event = some after) : Turn bridge event after call record := by
  have idle {later : Bridge count} (foreign : event.completes call = false)
      (unheard : ∀ response, ¬bridge.table.Hears event call response)
      (same : later.table = bridge.table) : Turn bridge event later call record :=
    .stays foreign unheard ((congrFun (congrArg Table.calls same) call).trans present)
      (congrFun (congrArg Table.requests same) call)
  cases (step_taken taken).2 with
  | sendRequest arguments =>
      have kept := sendRequest_older bridge (sound.lt_nextCall present).ne arguments
      exact .stays rfl (fun _ => nofun) (kept.1.trans present) kept.2
  | @writeDone moved busy attempt i2cRetryCnt ec recorded writing =>
      by_cases own : moved = call
      · subst own
        cases present.symm.trans recorded
        exact afterWrite_turn writing ec
      · have kept := afterWrite_other bridge busy (Ne.symm own) attempt i2cRetryCnt ec
        exact .stays (beq_false_of_ne own) (fun _ => nofun) (kept.1.trans present) kept.2
  | @timerDone moved busy attempt failed recorded waiting =>
      by_cases own : moved = call
      · subst own
        cases present.symm.trans recorded
        exact .ended attempt failed rfl waiting (Function.update_self _ _ _) rfl
      · exact .stays (beq_false_of_ne own) (fun _ => nofun)
          ((Function.update_of_ne (Ne.symm own) _ _).trans present) rfl
  | @resume moved busy attempt ec recorded resuming =>
      by_cases own : moved = call
      · subst own
        cases present.symm.trans recorded
        exact afterWait_turn (sound.answered moved) resuming
      · have kept := afterWait_other bridge busy (Ne.symm own) attempt ec
        exact .stays (beq_false_of_ne own) (fun _ => nofun) (kept.1.trans present) kept.2
  | i2cEvent index bytes =>
      cases heard : heardResponse bytes with
      | none =>
          refine idle rfl ?_ (processI2cEvent_unheard bridge index heard)
          rintro response ⟨_, _, ⟨⟩, heard', _⟩
          cases heard.symm.trans heard'
      | some response =>
          obtain ⟨frame, r, handled⟩ := processI2cEvent_of_heard bridge index heard
          rw [handled]
          exact responseMatch_turn _ (announce_table bridge index frame r) index heard present
  | executeReply reply queued => exact idle rfl (fun _ => nofun) (executeReply_table _ _ _ _)
  | outgoingDone ec queued => exact idle rfl (fun _ => nofun) (outgoingDone_table _ _ _ _)
  | updateBmcSlaveAddr => exact idle rfl (fun _ => nofun) (updateBmcSlaveAddr_table _ _ _ _ _)
  | sendBroadcast => exact idle rfl (fun _ => nofun) (sendBroadcast_table _ _ _ _ _ _)

/-- A suspended call returns only when its own coroutine resumes. -/
theorem Turn.settles {finished : Call count} {suspension : Suspension} {outcome : RequestOutcome}
    (turn : Turn bridge event after call record)
    (suspended : record.status = .suspended suspension)
    (done : after.calls call = some finished) (returned : finished.status = .returned outcome) :
    event = .resume call ∧ ∃ attempt ec, record.status = .suspended (.resuming attempt ec) ∧
      Settles (bridge.heap call) attempt ec outcome := by
  have status {later : Call count} (present : after.calls call = some later) :
      later.status = .returned outcome := by
    rw [Option.some.inj (present.symm.trans done), returned]
  cases turn with
  | stays foreign unheard present same => cases suspended.symm.trans (status present)
  | marked response woke hears woken present kept =>
      rcases woken with rfl | ⟨attempt, waiting, rfl⟩
      · cases suspended.symm.trans (status present)
      · cases status present
  | rewrote attempt i2cRetryCnt own before left present same => cases status present
  | wrote attempt i2cRetryCnt ec own before present same => cases status present
  | ended attempt failed own before present same => cases status present
  | retried attempt ec own before unmatched left present same => cases status present
  | returned attempt ec result own before settled present =>
      cases status present
      exact ⟨own, attempt, ec, before, settled⟩

end Moves

end Chassis.Ipmb

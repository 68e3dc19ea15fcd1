import Daliserver.Usb.Answers
import Daliserver.Usb.Outstanding
import Daliserver.Usb.Owners

/-! Every request that was accepted is reported in time, as long as transfers complete. -/

namespace Daliserver

open Machine

variable {α : Type}

/-- The report ends the active transaction. -/
def Report.ends : Report → Bool
  | .finished .. => true
  | _ => false

/--
The completion of a transfer serves the requests.

All that does not is a receive that brings no answer to the active request: the bus may keep the
device busy with its own traffic for as long as it likes.
-/
def serves (dali : UsbDali α) : UsbEvent α → Bool
  | .complete completion _ =>
    match dali.context.inflight.find? (·.id = completion.transfer) with
    | none => false
    | some transfer =>
      match transfer.endpoint with
      -- A send that ends has sent its request, or has failed it.
      | .output => true
      | .input => dali.transaction.isNone || (transferReport dali transfer completion).ends
  | _ => false

/-- How many of the first requests have not been reported yet. -/
def unreported (goal : Nat) (dali : UsbDali α) : Nat :=
  goal - (reportedRequests dali.trace).length

/--
How many completions the first requests may have to wait for.

A request that waits takes two, one to be sent and one to be answered, and the first of them takes
another one if the device has to stop listening.
-/
def distance (goal : Nat) (dali : UsbDali α) : Nat :=
  if unreported goal dali = 0 then 0
  else match dali.transaction, dali.sendTransfer with
    -- The device may be listening, which has to end first.
    | none, _ => 2 * unreported goal dali + 1
    -- The first request is half way once it was sent.
    | some _, some _ => 2 * unreported goal dali
    | some _, none => 2 * unreported goal dali - 1

/-- The distance depends on what was reported, and on whether the device is sending. -/
theorem distance_congr {before after : UsbDali α} (goal : Nat)
    (reported : reportedRequests after.trace = reportedRequests before.trace)
    (active : after.transaction.isSome = before.transaction.isSome)
    (send : after.sendTransfer = before.sendTransfer) :
    distance goal after = distance goal before := by
  -- Whether there is a transaction matters, but not which one.
  rw [distance, distance, unreported, unreported, reported, send]
  cases first : after.transaction <;> cases second : before.transaction <;>
    simp only [first, second, Option.isSome_none, Option.isSome_some, reduceCtorEq] at active ⊢
  cases before.sendTransfer <;> rfl

/-- Accepted requests are counted by the numbers they are given. -/
theorem Ledger.length_accepted {dali : UsbDali α} (ledger : Ledger dali) :
    (acceptedRequests dali.trace).length = dali.transactions := by
  have lengths := congrArg List.length ledger.named
  simpa using lengths

/-- What is left to do for a device that starts its next transfer. -/
theorem Quiet.distance_next {dali : UsbDali α} (quiet : Quiet dali) (ledger : Ledger dali)
    {goal : Nat} (accepted : goal ≤ dali.transactions) (submit : Int) :
    distance goal (usbdaliNext submit dali) ≤
      2 * unreported goal dali - if dali.transaction.isSome then 1 else 0 := by
  -- A device that is quiet either listens or sends the first request that waits.
  by_cases listen : dali.transaction ≠ none ∨ dali.queue = []
  · rw [usbdaliNext_receives submit dali quiet.send quiet.recv listen]
    have same : unreported goal (receiving submit dali) = unreported goal dali := by
      simp [unreported, receiving]
    cases active : dali.transaction with
    | some transaction =>
      have still : (receiving submit dali).transaction = some transaction := active
      have unsent : (receiving submit dali).sendTransfer = none := quiet.send
      simp only [distance, same, still, unsent, Option.isSome_some, if_true]
      split <;> omega
    | none =>
      -- With an empty queue and nothing active, all requests have been reported.
      have empty : dali.queue = [] := listen.resolve_left (not_not.mpr active)
      have history := congrArg List.length ledger.history
      simp only [Fifo.history, fifoOf, active, empty, ledger.length_accepted, Option.map_none,
        Option.toList_none, List.append_nil, List.map_nil] at history
      have reached : unreported goal dali = 0 := by
        unfold unreported
        omega
      simp [distance, same, reached]
  · -- The head of the queue is sent, and nothing has been reported yet.
    push Not at listen
    obtain ⟨transaction, rest, waiting⟩ := List.exists_cons_of_ne_nil listen.2
    rw [usbdaliNext_sends submit dali quiet.send quiet.recv listen.1 waiting]
    have same : unreported goal (sending submit transaction rest dali) = unreported goal dali := by
      simp [unreported, sending]
    have active : (sending submit transaction rest dali).transaction =
        some { transaction with seqNum := dali.seqNum } := rfl
    have sent : (sending submit transaction rest dali).sendTransfer =
        some dali.context.allocated := rfl
    simp only [distance, same, active, sent, listen.1, Option.isSome_none, Bool.false_eq_true,
      if_false]
    split <;> omega

/-- Every request that was accepted has been reported, is active, or waits. -/
theorem Ledger.length_pending {dali : UsbDali α} (ledger : Ledger dali) :
    dali.transactions = (reportedRequests dali.trace).length + (pendingRequests dali).length := by
  -- The history has one entry for each request, in one of three places.
  have history := congrArg List.length ledger.history
  rw [ledger.length_accepted] at history
  simp only [Fifo.history, fifoOf, List.length_append, List.length_map] at history
  cases active : dali.transaction <;> simp [active, pendingRequests] at history ⊢ <;> omega

/-- At no distance, nothing is left to be reported. -/
theorem unreported_of_distance {dali : UsbDali α} {goal : Nat} (none : distance goal dali = 0) :
    unreported goal dali = 0 := by
  unfold distance at none
  split at none
  · assumption
  · split at none <;> omega

/-- Each request that is pending takes at most two completions, and one more is enough for all. -/
theorem distance_le_pending {dali : UsbDali α} (ledger : Ledger dali) :
    distance dali.transactions dali ≤ 2 * (pendingRequests dali).length + 1 := by
  -- In front of the last report, everything that was accepted is pending or reported.
  have left : unreported dali.transactions dali = (pendingRequests dali).length := by
    unfold unreported
    rw [ledger.length_pending, Nat.add_sub_cancel_left]
  rw [distance, left]
  split
  · omega
  · split <;> omega

/-- A timeout serves the requests, whatever the transfer was for. -/
theorem serves_timedOut {dali : UsbDali α} {transfer : Transfer} {rest : List Transfer}
    (held : dali.context.inflight = transfer :: rest) :
    serves dali (.complete ⟨transfer.id, .timedOut, [], 0⟩ []) = true := by
  -- A send that times out fails its request, and so does a receive if there is one.
  have first : dali.context.inflight.find? (·.id = transfer.id) = some transfer := by
    simp [held]
  simp only [serves, first, transferReport]
  cases transfer.endpoint with
  | output => rfl
  | input => cases dali.transaction <;> rfl

section Cancel

variable [DecidableEq α]

/-- A report counts exactly if it ends the active transaction. -/
theorem afterReport_counts (args : List (Option α)) (report : Report) (dali : UsbDali α) :
    (reportedRequests (afterReport args report dali).trace).length =
        (reportedRequests dali.trace).length +
          (if report.ends && dali.transaction.isSome then 1 else 0) ∧
      (afterReport args report dali).transaction.isSome =
        (dali.transaction.isSome && !report.ends) := by
  -- Only a finished report touches the transaction, and it counts if there was one.
  cases report with
  | silent => simp [afterReport, Report.ends]
  | broadcast error frame status =>
    simp [afterReport, Report.ends, cancelAll_eq, UsbDali.log]
  | finished error frame response status =>
    cases active : dali.transaction <;>
      simp [afterReport, Report.ends, active, cancelAll_eq, UsbDali.log]

/-- A completed transfer lowers the distance if it serves the requests, and never raises it. -/
theorem UsbSound.distance_completed {dali : UsbDali α} (sound : UsbSound dali) {goal : Nat}
    (accepted : goal ≤ dali.transactions) {transfer : Transfer} {completion : Completion}
    (held : dali.context.inflight.find? (·.id = completion.transfer) = some transfer)
    (args : List (Option α)) :
    distance goal (completed args transfer completion dali) ≤
      distance goal dali - if serves dali (.complete completion args) then 1 else 0 := by
  have member := List.mem_of_find?_eq_some held
  have recorded := sound.coherent.recorded transfer member
  -- The callback leaves a device on which nothing is outstanding.
  have quiet := sound.coherent.quiet member completion args
  have retired : Ledger (retire transfer dali) :=
    sound.ledger.congr rfl rfl rfl rfl rfl rfl rfl rfl rfl
  have ledger : Ledger (clearSlot transfer.endpoint
      (afterReport args (transferReport dali transfer completion) (retire transfer dali))) := by
    have reported := retired.report args (transferReport dali transfer completion)
    cases transfer.endpoint <;> exact reported.congr rfl rfl rfl rfl rfl rfl rfl rfl rfl
  have frame := afterReport_frame args (transferReport dali transfer completion)
    (retire transfer dali)
  obtain ⟨counted, active⟩ := afterReport_counts args (transferReport dali transfer completion)
    (retire transfer dali)
  have room : goal ≤ (clearSlot transfer.endpoint (afterReport args
      (transferReport dali transfer completion) (retire transfer dali))).transactions := by
    have same := frame.transactions
    cases transfer.endpoint <;> exact Nat.le_trans accepted (Nat.le_of_eq same.symm)
  obtain ⟨trace, -, slot⟩ := clearSlot_rest transfer.endpoint
    (afterReport args (transferReport dali transfer completion) (retire transfer dali))
  -- The next transfer brings the device as close as it says.
  have next := quiet.distance_next ledger room completion.submit
  rw [unreported, trace, counted, slot, active] at next
  refine Nat.le_trans next ?_
  have same : (retire transfer dali).transaction = dali.transaction := rfl
  have log : (retire transfer dali).trace = dali.trace := rfl
  simp only [serves, held, same, log, distance, unreported]
  cases direction : transfer.endpoint with
  | output =>
    -- Only an active request is being sent.
    simp only [slotOf, direction] at recorded
    obtain ⟨transaction, present⟩ : ∃ transaction, dali.transaction = some transaction := by
      rcases sound.coherent.slots with ⟨_, quiet⟩ | ⟨_, _, active⟩
      · simp [quiet] at recorded
      · exact Option.ne_none_iff_exists'.mp active
    simp only [recorded, present, Option.isSome_some, if_true]
    cases (transferReport dali transfer completion).ends <;> simp <;> split <;> omega
  | input =>
    simp only [slotOf, direction] at recorded
    -- While a receive is outstanding, nothing is being sent.
    have unsent : dali.sendTransfer = none := by
      rcases sound.coherent.slots with ⟨_, quiet⟩ | ⟨idle, _, _⟩
      · exact quiet
      · simp [idle] at recorded
    cases present : dali.transaction with
    | none =>
      -- Without an active request, the end of a receive makes room for the next one.
      simp only [Option.isSome_none, Option.isNone_none, Bool.and_false, Bool.false_and,
        Bool.true_or, Bool.false_eq_true, if_false, if_true, Nat.add_zero]
      by_cases reached : goal - (reportedRequests dali.trace).length = 0
      · simp [reached]
      · simp only [reached, if_false]
        omega
    | some transaction =>
      simp only [unsent, Option.isSome_some, Option.isNone_some, Bool.and_true, Bool.true_and,
        Bool.false_or]
      cases (transferReport dali transfer completion).ends <;> simp <;> split <;> omega

/-- One event lowers the distance if it serves the requests, and never raises it. -/
theorem UsbSound.distance_step {dali : UsbDali α} (sound : UsbSound dali) {goal : Nat}
    (accepted : goal ≤ dali.transactions) (event : UsbEvent α) :
    distance goal (usbStep dali event) ≤
      distance goal dali - if serves dali event then 1 else 0 := by
  -- Requests and cancellations start nothing while a transfer is outstanding.
  cases event with
  | queue frame cbarg memory submit =>
    simp only [usbStep, usbdaliQueue_eq, serves, Bool.false_eq_true, if_false, Nat.sub_zero]
    apply Nat.le_of_eq
    split
    · -- A slot is occupied, so nothing is started, and the new request goes to the end.
      rcases usbdaliNext_of_occupied submit (enqueued frame cbarg dali) sound.coherent.occupied with
        same | ⟨transfer, _, stops⟩
      · rw [same]
        exact distance_congr goal (by simp [enqueued]) rfl rfl
      · rw [stops]
        exact distance_congr goal
          (by simp [libusbCancelTransfer, enqueued, reportedRequests]) rfl rfl
    · exact distance_congr goal (by simp) rfl rfl
  | cancel arg =>
    simp only [usbStep, usbdaliCancel_eq, cancelAll_eq, serves]
    exact Nat.le_of_eq (distance_congr goal rfl (by simp) rfl)
  | complete completion args =>
    cases held : dali.context.inflight.find? (·.id = completion.transfer) with
    | none =>
      have same : usbStep dali (.complete completion args) = dali := by
        simp [usbStep, libusbComplete, held]
      simp [same, serves, held]
    | some transfer =>
      rw [sound.usbStep_held held args]
      exact sound.distance_completed accepted held args

/-- A device in order stays in order. -/
theorem UsbSound.run_sound {dali : UsbDali α} (sound : UsbSound dali)
    (events : List (UsbEvent α)) : UsbSound (run usbStep dali events) := by
  refine run_invariant (fun state event good => ?_) sound events
  exact UsbSound.step good event

/-- What was done stays on record. -/
theorem UsbSound.run_trace {dali : UsbDali α} (sound : UsbSound dali) (events : List (UsbEvent α)) :
    dali.trace <+: (run usbStep dali events).trace := by
  -- Each step appends to the trace.
  induction events generalizing dali with
  | nil => exact List.prefix_refl _
  | cons event rest ih =>
    obtain ⟨effects, grown, _⟩ := sound.step_effects event
    have first : dali.trace <+: (usbStep dali event).trace := ⟨effects, grown.symm⟩
    exact first.trans (ih (sound.step event))

/-- Accepted requests stay accepted, so their number only grows. -/
theorem UsbSound.run_transactions {dali : UsbDali α} (sound : UsbSound dali)
    (events : List (UsbEvent α)) :
    dali.transactions ≤ (run usbStep dali events).transactions := by
  -- The trace only grows, and accepted requests are counted on it.
  rw [← sound.ledger.length_accepted, ← (sound.run_sound events).ledger.length_accepted]
  exact ((sound.run_trace events).filterMap _).length_le

/-- Enough completions that serve the requests leave none of those accepted so far unreported. -/
theorem UsbSound.reported_of_served {dali : UsbDali α} (sound : UsbSound dali)
    {later : List (UsbEvent α)}
    (enough : 2 * (pendingRequests dali).length + 1 ≤ stepsCount usbStep serves dali later) :
    acceptedRequests dali.trace <+: reportedRequests (run usbStep dali later).trace := by
  have after := sound.run_sound later
  -- The requests accepted by now are those whose number is below the next one to be given out.
  have kept : ∀ (state : UsbDali α) event,
      UsbSound state ∧ dali.transactions ≤ state.transactions →
      UsbSound (usbStep state event) ∧ dali.transactions ≤ (usbStep state event).transactions := by
    rintro state event ⟨good, room⟩
    exact ⟨good.step event, Nat.le_trans room (good.run_transactions [event])⟩
  -- Every completion that serves takes one off the distance, which is finite.
  have spent := run_rank kept (fun _ event good => good.1.distance_step good.2 event)
    ⟨sound, Nat.le_refl _⟩ later
  have near := distance_le_pending sound.ledger
  have reached : unreported dali.transactions (run usbStep dali later) = 0 :=
    unreported_of_distance (by omega)
  -- Both are front parts of what is accepted in the end, so the longer one covers the other.
  have front : acceptedRequests dali.trace <+: acceptedRequests (run usbStep dali later).trace :=
    (sound.run_trace later).filterMap _
  have reported : reportedRequests (run usbStep dali later).trace <+:
      acceptedRequests (run usbStep dali later).trace := by
    rw [after.ledger.history, Fifo.history, List.append_assoc]
    exact List.prefix_append _ _
  apply List.prefix_of_prefix_length_le front reported
  rw [sound.ledger.length_accepted]
  unfold unreported at reached
  omega

/--
Every request is reported in time.

Whatever is queued, cancelled or overheard meanwhile, two completions for each request that is
pending, and one more, are enough for all of them to be reported, in the order of their acceptance.
-/
theorem requests_reported_in_time (submit : Int) (past later : List (UsbEvent α))
    (enough : 2 * (pendingRequests (run usbStep (usbStart submit) past)).length + 1 ≤
      stepsCount usbStep serves (run usbStep (usbStart submit) past) later) :
    acceptedRequests (run usbStep (usbStart submit) past).trace <+:
      reportedRequests (run usbStep (usbStart submit) (past ++ later)).trace := by
  rw [run_append]
  exact (usbSound_run submit past).reported_of_served enough

/-- A request that finds the device listening is reported when its answer has arrived. -/
theorem requests_reported_in_time_answered :
    let past : List (UsbEvent Nat) := [.queue (daliframeNew 0x01 0x05) (some 7) true 0]
    let later : List (UsbEvent Nat) := [.complete ⟨0, .cancelled, [], 0⟩ [],
      .complete ⟨1, .completed, [], 0⟩ [],
      .complete ⟨2, .completed, [0x12, 0x71, 0, 0, 0, 0, 0, 0x8a, 1], 0⟩ []]
    2 * (pendingRequests (run usbStep (usbStart 0) past)).length + 1 ≤
        stepsCount usbStep serves (run usbStep (usbStart 0) past) later ∧
      acceptedRequests (run usbStep (usbStart 0) past).trace = [(0, daliframeNew 0x01 0x05)] ∧
      acceptedRequests (run usbStep (usbStart 0) past).trace <+:
        reportedRequests (run usbStep (usbStart 0) (past ++ later)).trace := by
  intro past later
  have enough : 2 * (pendingRequests (run usbStep (usbStart 0) past)).length + 1 ≤
      stepsCount usbStep serves (run usbStep (usbStart 0) past) later := by decide
  exact ⟨enough, by decide, requests_reported_in_time 0 past later enough⟩

/-- Lets every transfer in turn time out, for a number of times. -/
def timeouts : Nat → UsbDali α → List (UsbEvent α)
  | 0, _ => []
  | times + 1, dali =>
    match dali.context.inflight with
    | [] => []
    | transfer :: _ =>
      let event := .complete ⟨transfer.id, .timedOut, [], 0⟩ []
      event :: timeouts times (usbStep dali event)

/-- While a transfer is in flight, every timeout of it serves the requests. -/
theorem UsbSound.count_timeouts {dali : UsbDali α} (sound : UsbSound dali) (held : Held dali)
    (times : Nat) :
    stepsCount usbStep serves dali (timeouts times dali) = times := by
  induction times generalizing dali with
  | zero => rfl
  | succ times ih =>
    obtain ⟨transfer, rest, flight⟩ := List.exists_cons_of_ne_nil held
    simp only [timeouts, flight, stepsCount, serves_timedOut flight, if_true]
    -- The callback submits the next transfer, which may then time out in its turn.
    have again : Held (usbStep dali (.complete ⟨transfer.id, .timedOut, [], 0⟩ [])) := by
      rw [sound.held_step held]
      exact fun _ => rfl
    rw [ih (sound.step _) again]
    omega

/--
Timeouts alone bring every request to its report.

While submissions succeed the device is never stuck: even an adapter that answers nothing cannot
keep a request from being reported.
-/
theorem timeouts_report_all (past : List (UsbEvent α))
    (submits : ∀ event ∈ past, event.submit = 0) :
    let dali := run usbStep (usbStart 0) past
    acceptedRequests dali.trace <+:
      reportedRequests (run usbStep dali
        (timeouts (2 * (pendingRequests dali).length + 1) dali)).trace := by
  -- With submissions that succeed, there is always a transfer that can time out.
  intro dali
  have sound : UsbSound dali := usbSound_run 0 past
  have held : Held dali := held_run submits
  apply sound.reported_of_served
  exact Nat.le_of_eq (sound.count_timeouts held _).symm

/-- Two requests that find the device listening are reported after five timeouts. -/
theorem timeouts_report_all_two :
    let past : List (UsbEvent Nat) := [.queue (daliframeNew 0x01 0x05) (some 7) true 0,
      .queue (daliframeNew 0x03 0x00) (some 8) true 0]
    (∀ event ∈ past, event.submit = 0) ∧
      acceptedRequests (run usbStep (usbStart 0) past).trace =
        [(0, daliframeNew 0x01 0x05), (1, daliframeNew 0x03 0x00)] ∧
      acceptedRequests (run usbStep (usbStart 0) past).trace <+:
        reportedRequests (run usbStep (run usbStep (usbStart 0) past)
          (timeouts (2 * (pendingRequests (run usbStep (usbStart 0) past)).length + 1)
            (run usbStep (usbStart 0) past))).trace := by
  intro past
  have submits : ∀ event ∈ past, event.submit = 0 := by decide
  exact ⟨submits, by decide, timeouts_report_all past submits⟩

end Cancel

end Daliserver

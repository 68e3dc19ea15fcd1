import Mathlib.Data.List.Induction
import Daliserver.Usb.Answers
import Daliserver.Usb.Owners

/-! The disappearance of a client changes nothing but the argument handed to its callbacks. -/

namespace Daliserver

open Machine

variable {α : Type}

/-- Replaces the argument of a transaction, and nothing else of it. -/
def UsbDaliTransaction.withArg (change : Nat → Option α → Option α)
    (transaction : UsbDaliTransaction α) : UsbDaliTransaction α :=
  { transaction with arg := change transaction.id transaction.arg }

/-- Replaces the argument handed to a callback. -/
def UsbEffect.withArg (change : Nat → Option α → Option α) : UsbEffect α → UsbEffect α
  | .reqCallback transaction error frame response status =>
    .reqCallback (transaction.withArg change) error frame response status
  -- The record of an acceptance keeps the argument that was passed to `usbdali_queue`.
  | effect => effect

/-- Replaces the arguments of the pending requests, and those handed to callbacks so far. -/
def UsbDali.withArgs (now past : Nat → Option α → Option α) (dali : UsbDali α) : UsbDali α :=
  { dali with
    transaction := dali.transaction.map (·.withArg now)
    queue := dali.queue.map (·.withArg now)
    trace := dali.trace.map (·.withArg past) }

/-- No decision depends on an argument. -/
theorem withArgs_next (now past : Nat → Option α → Option α) (submit : Int) (dali : UsbDali α) :
    (usbdaliNext submit dali).withArgs now past = usbdaliNext submit (dali.withArgs now past) := by
  -- The slots and the presence of requests decide, and these are the same on both sides.
  cases send : dali.sendTransfer with
  | some transfer =>
    rw [usbdaliNext_of_sending submit dali (by simp [send]),
      usbdaliNext_of_sending submit _ (by simp [UsbDali.withArgs, send])]
  | none =>
    have quiet : (dali.withArgs now past).sendTransfer = none := send
    cases recv : dali.recvTransfer with
    | some transfer =>
      have listening : (dali.withArgs now past).recvTransfer = some transfer := recv
      rw [usbdaliNext_of_listening submit dali send recv,
        usbdaliNext_of_listening submit _ quiet listening]
      simp only [UsbDali.withArgs, Option.map_eq_none_iff, ne_eq, List.map_eq_nil_iff]
      split <;> simp [libusbCancelTransfer, UsbDali.log, UsbEffect.withArg]
    | none =>
      have idle : (dali.withArgs now past).recvTransfer = none := recv
      by_cases nothing : dali.transaction ≠ none ∨ dali.queue = []
      · rw [usbdaliNext_receives submit dali send recv nothing,
          usbdaliNext_receives submit _ quiet idle (by simpa [UsbDali.withArgs] using nothing)]
        simp [UsbDali.withArgs, receiving, receiveTransfer, UsbEffect.withArg, Function.comp_def,
          UsbDaliTransaction.withArg]
      · -- The packet that is sent is made from the request alone.
        push Not at nothing
        obtain ⟨transaction, rest, waiting⟩ := List.exists_cons_of_ne_nil nothing.2
        have waits : (dali.withArgs now past).queue =
            transaction.withArg now :: rest.map (·.withArg now) := by
          simp [UsbDali.withArgs, waiting]
        rw [usbdaliNext_sends submit dali send recv nothing.1 waiting,
          usbdaliNext_sends submit _ quiet idle (by simp [UsbDali.withArgs, nothing.1]) waits]
        simp only [UsbDali.withArgs, sending, List.map_append, List.map_cons, List.map_nil]
        rfl

/-- Clearing a slot does not concern the arguments. -/
theorem withArgs_clearSlot (now past : Nat → Option α → Option α) (endpoint : Endpoint)
    (dali : UsbDali α) :
    (clearSlot endpoint dali).withArgs now past = clearSlot endpoint (dali.withArgs now past) := by
  cases endpoint <;> rfl

/-- Forgets the arguments of some requests. -/
noncomputable def forgets (lost : Nat → Prop) (id : Nat) (arg : Option α) : Option α :=
  open Classical in if lost id then none else arg

/-- The device in which some requests have no argument, and never had one. -/
noncomputable def UsbDali.forget (lost : Nat → Prop) (dali : UsbDali α) : UsbDali α :=
  dali.withArgs (forgets lost) (forgets lost)

/-- Whether an answer is for the active transaction does not depend on its argument. -/
theorem transferReport_forget (lost : Nat → Prop) (dali : UsbDali α) (transfer : Transfer)
    (completion : Completion) :
    transferReport (dali.forget lost) transfer completion =
      transferReport dali transfer completion := by
  -- Of the active transaction, only its presence and its sequence number are looked at.
  unfold transferReport
  cases transfer.endpoint with
  | output => rfl
  | input =>
    cases active : dali.transaction with
    | none => simp [UsbDali.forget, UsbDali.withArgs, active]
    | some transaction =>
      simp [UsbDali.forget, UsbDali.withArgs, active, receiveReport, packetReport,
        UsbDaliTransaction.withArg]

/-- What `usbdali_queue` returns. -/
def queueResult (dali : UsbDali α) : UsbEvent α → Option UsbDaliError
  | .queue frame cbarg memory submit => some (usbdaliQueue memory submit frame cbarg dali).2
  | _ => none

/-- Whether a request is accepted does not depend on who has been forgotten. -/
theorem queueResult_forget (lost : Nat → Prop) (dali : UsbDali α) (event : UsbEvent α) :
    queueResult (dali.forget lost) event = queueResult dali event := by
  -- The length of the queue decides, and forgetting shortens nothing.
  cases event with
  | queue frame cbarg memory submit =>
    have length : (dali.forget lost).queue.length = dali.queue.length := List.length_map ..
    have size : (dali.forget lost).queueSize = dali.queueSize := rfl
    simp only [queueResult, usbdaliQueue_eq, length, size]
    split <;> rfl
  | cancel arg => rfl
  | complete completion args => rfl

/-- What was accepted is on record with the argument it had then. -/
theorem accepted_withArg {change : Nat → Option α → Option α} {trace : List (UsbEffect α)}
    {transaction : UsbDaliTransaction α} :
    .accepted transaction ∈ trace.map (·.withArg change) ↔ .accepted transaction ∈ trace := by
  -- No other effect turns into an acceptance.
  rw [List.mem_map]
  constructor
  · rintro ⟨effect, member, same⟩
    cases effect <;> simp_all [UsbEffect.withArg]
  · exact fun member => ⟨_, member, rfl⟩

/-- Which requests were reported does not depend on the arguments. -/
theorem reportedRequests_withArg (change : Nat → Option α → Option α)
    (trace : List (UsbEffect α)) :
    reportedRequests (trace.map (·.withArg change)) = reportedRequests trace := by
  rw [reportedRequests, List.filterMap_map]
  refine List.filterMap_congr fun effect _ => ?_
  cases effect <;> rfl

/-- Which packets were sent does not depend on the arguments. -/
theorem submittedPackets_withArg (change : Nat → Option α → Option α)
    (trace : List (UsbEffect α)) :
    submittedPackets (trace.map (·.withArg change)) = submittedPackets trace := by
  rw [submittedPackets, List.filterMap_map]
  refine List.filterMap_congr fun effect _ => ?_
  cases effect <;> rfl

/-- The same callbacks are invoked, with other arguments. -/
theorem callbacks_withArg (change : Nat → Option α → Option α) (trace : List (UsbEffect α)) :
    callbacks (trace.map (·.withArg change)) = (callbacks trace).map (·.withArg change) := by
  rw [callbacks, List.filter_map]
  congr 1
  refine List.filter_congr fun effect _ => ?_
  cases effect <;> rfl

/-- Every request still has the argument with which it was accepted. -/
structure Addressed (dali : UsbDali α) : Prop where
  -- A request is accepted without a sequence number and gets one when it is sent.
  pending : ∀ transaction ∈ pendingRequests dali,
    .accepted { transaction with seqNum := 0 } ∈ dali.trace
  handed : ∀ transaction error frame response status,
    .reqCallback transaction error frame response status ∈ dali.trace →
      .accepted { transaction with seqNum := 0 } ∈ dali.trace

/-- A change is harmless if it reports what was pending, and adds what it accepts. -/
theorem Addressed.extend {before after : UsbDali α} (addressed : Addressed before)
    {effects : List (UsbEffect α)} (trace : after.trace = before.trace ++ effects)
    (handed : ∀ transaction error frame response status,
      .reqCallback transaction error frame response status ∈ effects →
        transaction ∈ pendingRequests before)
    (pending : ∀ transaction ∈ pendingRequests after,
      .accepted { transaction with seqNum := 0 } ∈ effects ∨
        ∃ seqNum, { transaction with seqNum := seqNum } ∈ pendingRequests before) :
    Addressed after := by
  constructor
  · -- A pending request was just accepted, or it was pending before under some number.
    intro transaction member
    rw [trace, List.mem_append]
    rcases pending transaction member with new | ⟨seqNum, old⟩
    · exact .inr new
    · exact .inl (addressed.pending { transaction with seqNum := seqNum } old)
  · intro transaction error frame response status member
    rw [trace, List.mem_append] at member ⊢
    rcases member with old | new
    · exact .inl (addressed.handed _ _ _ _ _ old)
    · exact .inl (addressed.pending _ (handed _ _ _ _ _ new))

/-- Deciding what to do next numbers a request at most. -/
theorem Addressed.next {dali : UsbDali α} (addressed : Addressed dali) (submit : Int) :
    Addressed (usbdaliNext submit dali) := by
  -- Only a send touches a request: it takes the first one from the queue and numbers it.
  rcases usbdaliNext_cases submit dali with same | ⟨transfer, _, stops⟩ | listens |
    ⟨transaction, rest, free, waiting, sends⟩
  · rwa [same]
  · rw [stops]
    exact addressed.extend rfl (by simp) fun transaction member => .inr ⟨_, member⟩
  · rw [listens]
    exact addressed.extend rfl (by simp) fun transaction member => .inr ⟨_, member⟩
  · rw [sends]
    refine addressed.extend rfl (by simp) fun other member => .inr ?_
    simp only [pendingRequests, sending, Option.toList_some, List.cons_append, List.nil_append,
      List.mem_cons] at member
    simp only [pendingRequests, free, waiting, Option.toList_none, List.nil_append, List.mem_cons]
    rcases member with rfl | queued
    · exact ⟨transaction.seqNum, .inl rfl⟩
    · exact ⟨other.seqNum, .inr queued⟩

/-- A request was accepted for a client, and its callback has not been invoked yet. -/
def Awaited (trace : List (UsbEffect α)) (id : Nat) (client : α) : Prop :=
  (∃ seqNum request, .accepted ⟨id, seqNum, request, some client⟩ ∈ trace) ∧
    id ∉ (reportedRequests trace).map Prod.fst

/-- What is selected only once is selected from only one entry. -/
theorem eq_of_nodup_filterMap {β γ : Type} {select : β → Option γ} {entries : List β}
    (distinct : (entries.filterMap select).Nodup) {first second : β} (one : first ∈ entries)
    (other : second ∈ entries) {kept : γ} (keeps : select first = some kept)
    (keeps' : select second = some kept) : first = second := by
  -- Both entries are at the head, both behind it, or the value is selected twice.
  induction entries with
  | nil => cases one
  | cons entry rest ih =>
    have later : ∀ {entry}, entry ∈ rest → select entry = some kept →
        kept ∈ rest.filterMap select :=
      fun member same => List.mem_filterMap.mpr ⟨_, member, same⟩
    rcases List.mem_cons.mp one with rfl | one'
    · rcases List.mem_cons.mp other with rfl | other'
      · rfl
      · rw [List.filterMap_cons_some keeps] at distinct
        exact absurd (later other' keeps') (List.nodup_cons.mp distinct).1
    · rcases List.mem_cons.mp other with rfl | other'
      · rw [List.filterMap_cons_some keeps'] at distinct
        exact absurd (later one' keeps) (List.nodup_cons.mp distinct).1
      · refine ih ?_ one' other'
        cases chosen : select entry with
        | none => rwa [List.filterMap_cons_none chosen] at distinct
        | some value =>
          rw [List.filterMap_cons_some chosen] at distinct
          exact (List.nodup_cons.mp distinct).2

/-- Whether a request is awaited does not depend on the arguments handed out. -/
theorem awaited_forget {lost : Nat → Prop} {dali : UsbDali α} {id : Nat} {client : α} :
    Awaited (dali.forget lost).trace id client ↔ Awaited dali.trace id client := by
  simp only [Awaited, UsbDali.forget, UsbDali.withArgs, accepted_withArg,
    reportedRequests_withArg]

/-- A request that was reported is not awaited any more. -/
theorem not_awaited_of_handed {trace : List (UsbEffect α)} {transaction : UsbDaliTransaction α}
    {error : UsbDaliError} {frame : DaliFrame} {response status : Nat}
    (handed : .reqCallback transaction error frame response status ∈ trace) (client : α) :
    ¬ Awaited trace transaction.id client := by
  -- The callback is the report.
  rintro ⟨-, unreported⟩
  apply unreported
  exact List.mem_map.mpr ⟨transaction.key, List.mem_filterMap.mpr ⟨_, handed, rfl⟩, rfl⟩

/-- No two requests were accepted under the same number. -/
theorem Ledger.accepted_inj {dali : UsbDali α} (ledger : Ledger dali)
    {first second : UsbDaliTransaction α} (one : .accepted first ∈ dali.trace)
    (other : .accepted second ∈ dali.trace) (same : first.id = second.id) : first = second := by
  -- Acceptances are numbered in order, so that each number stands for one entry of the trace.
  have distinct := ledger.named ▸ (List.nodup_range : (List.range dali.transactions).Nodup)
  rw [acceptedRequests, List.map_filterMap] at distinct
  have found := eq_of_nodup_filterMap distinct one other rfl (congrArg some same.symm)
  exact UsbEffect.accepted.inj found

/-- A pending request is awaited by the client it has as its argument. -/
theorem Addressed.awaited_iff {dali : UsbDali α} (addressed : Addressed dali)
    (ledger : Ledger dali) {transaction : UsbDaliTransaction α}
    (pending : transaction ∈ pendingRequests dali) (client : α) :
    Awaited dali.trace transaction.id client ↔ transaction.arg = some client := by
  -- There is one acceptance under this number, and it names the argument.
  have accepted := addressed.pending transaction pending
  constructor
  · rintro ⟨⟨seqNum, request, member⟩, -⟩
    have same := ledger.accepted_inj accepted member rfl
    exact congrArg UsbDaliTransaction.arg same
  · intro arg
    refine ⟨⟨0, transaction.request, ?_⟩, ?_⟩
    · rw [← arg]
      exact accepted
    · rw [← ledger.freed]
      exact ledger.pending_alive pending

/-- A device that was just opened has nobody to forget. -/
theorem addressed_usbStart (submit : Int) : Addressed (usbStart submit : UsbDali α) := by
  -- Opening starts a receive and installs the callbacks.
  have blank : Addressed (usbdaliNew : UsbDali α) := by
    constructor <;> simp [pendingRequests, usbdaliNew]
  have opened := blank.next submit
  exact ⟨opened.pending, opened.handed⟩

/-- The event with all calls of `usbdali_cancel` left out, if anything remains of it. -/
def UsbEvent.calm : UsbEvent α → Option (UsbEvent α)
  | .queue frame cbarg memory submit => some (.queue frame cbarg memory submit)
  | .cancel _ => none
  | .complete completion _ => some (.complete completion [])

/-- The events with all calls of `usbdali_cancel` left out. -/
def undisturbed (events : List (UsbEvent α)) : List (UsbEvent α) := events.filterMap UsbEvent.calm

/-- One more event is left as it is, reduced, or left out. -/
theorem undisturbed_concat (events : List (UsbEvent α)) (event : UsbEvent α) :
    undisturbed (events ++ [event]) = undisturbed events ++ event.calm.toList :=
  filterMap_concat _ _ _

section Cancel

variable [DecidableEq α]

/-- Cancelling arguments replaces them by NULL. -/
def cleared (args : List (Option α)) (_ : Nat) (arg : Option α) : Option α :=
  if arg ∈ args then none else arg

/-- Clearing arguments one after the other is a single test. -/
theorem clearArgs_eq (args : List (Option α)) (transaction : UsbDaliTransaction α) :
    clearArgs args transaction = transaction.withArg (cleared args) := by
  -- Once an argument is cleared, no later cancellation matches it.
  unfold clearArgs
  induction args generalizing transaction with
  | nil => simp [UsbDaliTransaction.withArg, cleared]
  | cons arg rest ih =>
    rw [List.foldl_cons, ih]
    cases arg with
    | none =>
      cases own : transaction.arg <;> simp [UsbDaliTransaction.withArg, cleared, own]
    | some client =>
      by_cases mine : transaction.arg = some client
      · simp [UsbDaliTransaction.withArg, cleared, clearArg, mine]
      · simp [UsbDaliTransaction.withArg, cleared, clearArg, mine]

/-- Cancelling changes the arguments of the pending requests, and not those handed out. -/
theorem cancelAll_withArgs (args : List (Option α)) (dali : UsbDali α) :
    cancelAll args dali = dali.withArgs (cleared args) fun _ arg => arg := by
  -- The trace is not written by a cancellation, which is the identity on its arguments.
  have handed : (fun effect : UsbEffect α => effect.withArg fun _ arg => arg) = id := by
    funext effect
    cases effect <;> rfl
  rw [cancelAll_eq, UsbDali.withArgs, handed, List.map_id]
  simp only [funext (clearArgs_eq args)]

/-- Cancelling before a decision is cancelling after it. -/
theorem cancelAll_next (args : List (Option α)) (submit : Int) (endpoint : Endpoint)
    (dali : UsbDali α) :
    usbdaliNext submit (clearSlot endpoint (cancelAll args dali)) =
      cancelAll args (usbdaliNext submit (clearSlot endpoint dali)) := by
  rw [cancelAll_withArgs, cancelAll_withArgs, ← withArgs_clearSlot, ← withArgs_next]

/-- The arguments with which `usbdali_cancel` is called in an event. -/
def UsbEvent.cancels (dali : UsbDali α) : UsbEvent α → List (Option α)
  | .queue .. => []
  | .cancel arg => [arg]
  -- Only a completion that makes a callback gives the program a chance to cancel.
  | .complete completion args =>
    if callbacks (usbStep dali (.complete completion [])).trace = callbacks dali.trace then []
    else args

/-- The device after an event without its calls of `usbdali_cancel`. -/
def calmStep (dali : UsbDali α) (event : UsbEvent α) : UsbDali α :=
  run usbStep dali event.calm.toList

/-- A completion makes its callback first, and what is cancelled then is cancelled last. -/
theorem completed_cancels (args : List (Option α)) (transfer : Transfer) (completion : Completion)
    (dali : UsbDali α) :
    completed args transfer completion dali =
      cancelAll (if callbacks (completed [] transfer completion dali).trace = callbacks dali.trace
        then [] else args) (completed [] transfer completion dali) := by
  -- Neither the scheduling nor the slot adds a callback to those of the report.
  have made : callbacks (completed [] transfer completion dali).trace =
      callbacks (afterReport [] (transferReport dali transfer completion)
        (retire transfer dali)).trace := by
    obtain ⟨⟨effects, added, quiet⟩, -⟩ := usbdaliNext_quiet completion.submit
      (clearSlot transfer.endpoint
        (afterReport [] (transferReport dali transfer completion) (retire transfer dali)))
    rw [completed, added, (clearSlot_rest _ _).1, callbacks_append, quiet, List.append_nil]
  rw [made]
  unfold completed
  cases transferReport dali transfer completion with
  | silent =>
    have same : callbacks (retire transfer dali).trace = callbacks dali.trace := rfl
    simp only [afterReport, same, if_true]
    rfl
  | broadcast error frame status =>
    have more : callbacks (afterReport [] (.broadcast error frame status)
        (retire transfer dali)).trace ≠ callbacks dali.trace := by
      simp only [afterReport, cancelAll_eq, log_trace, callbacks_append]
      simp [callbacks, retire]
    rw [if_neg more, ← cancelAll_next]
    rfl
  | finished error frame response status =>
    cases active : (retire transfer dali).transaction with
    | none =>
      have same : callbacks (afterReport [] (.finished error frame response status)
          (retire transfer dali)).trace = callbacks dali.trace := by
        simp only [afterReport, active, log_trace, callbacks_append]
        simp [callbacks, retire]
      simp only [same, if_true]
      simp only [afterReport, active]
      rfl
    | some transaction =>
      -- The slot is emptied behind the callback, so that only the queue is left to be cancelled.
      have more : callbacks (afterReport [] (.finished error frame response status)
          (retire transfer dali)).trace ≠ callbacks dali.trace := by
        simp only [afterReport, active, cancelAll_eq, log_trace, callbacks_append]
        simp [callbacks, retire]
      rw [if_neg more, ← cancelAll_next]
      have nobody : clearArgs ([] : List (Option α)) = id := rfl
      simp only [afterReport, active, cancelAll_eq, nobody, List.map_id, Option.map_none]

/-- An event is the one without cancellations, followed by the cancellations. -/
theorem usbStep_cancels {dali : UsbDali α} (sound : UsbSound dali) (event : UsbEvent α) :
    usbStep dali event = cancelAll (event.cancels dali) (calmStep dali event) := by
  -- Only a completion mixes cancellations with other work.
  cases event with
  | queue frame cbarg memory submit => rfl
  | cancel arg => rfl
  | complete completion args =>
    simp only [UsbEvent.cancels, calmStep, UsbEvent.calm, Option.toList_some, run_cons, run_nil]
    cases held : dali.context.inflight.find? (·.id = completion.transfer) with
    | none =>
      have same : ∀ args, usbStep dali (.complete completion args) = dali := by
        simp [usbStep, libusbComplete, held]
      simp [same, cancelAll]
    | some transfer =>
      rw [sound.usbStep_held held args, sound.usbStep_held held []]
      exact completed_cancels args transfer completion dali

/-- A report reaches every client, or what has been left in its place. -/
theorem afterReport_forget (lost : Nat → Prop) (report : Report) (dali : UsbDali α) :
    (afterReport [] report dali).forget lost = afterReport [] report (dali.forget lost) := by
  -- The argument that is handed out is forgotten in the slot on one side, in the trace on the other.
  cases report with
  | silent => rfl
  | broadcast error frame status =>
    simp [afterReport, UsbDali.forget, UsbDali.withArgs, cancelAll, UsbDali.log,
      UsbEffect.withArg]
  | finished error frame response status =>
    cases active : dali.transaction with
    | none => simp [afterReport, UsbDali.forget, UsbDali.withArgs, active, UsbDali.log,
        UsbEffect.withArg]
    | some transaction =>
      simp [afterReport, UsbDali.forget, UsbDali.withArgs, active, cancelAll, UsbDali.log,
        UsbEffect.withArg, UsbDaliTransaction.withArg]

/-- A completion does the same, whoever has been forgotten before. -/
theorem completed_forget (lost : Nat → Prop) (transfer : Transfer) (completion : Completion)
    (dali : UsbDali α) :
    (completed [] transfer completion dali).forget lost =
      completed [] transfer completion (dali.forget lost) := by
  have retired : (retire transfer dali).forget lost = retire transfer (dali.forget lost) := rfl
  have reported := afterReport_forget lost (transferReport dali transfer completion)
    (retire transfer dali)
  unfold completed
  rw [transferReport_forget, ← retired, ← reported]
  exact (withArgs_next ..).trans (congrArg _ (withArgs_clearSlot ..))

/-- An event without cancellations does the same, whoever has been forgotten before. -/
theorem calmStep_forget {lost : Nat → Prop} {dali : UsbDali α} (sound : UsbSound dali)
    (forgotten : UsbSound (dali.forget lost)) (fresh : ¬ lost dali.transactions)
    (event : UsbEvent α) :
    calmStep (dali.forget lost) event = (calmStep dali event).forget lost := by
  -- A new request takes a number that nobody has forgotten yet.
  cases event with
  | cancel arg => rfl
  | queue frame cbarg memory submit =>
    have length : (dali.forget lost).queue.length = dali.queue.length := List.length_map ..
    have size : (dali.forget lost).queueSize = dali.queueSize := rfl
    show (usbdaliQueue memory submit frame cbarg (dali.forget lost)).1 =
      (usbdaliQueue memory submit frame cbarg dali).1.forget lost
    rw [usbdaliQueue_eq, usbdaliQueue_eq, length, size]
    split
    · have joined : enqueued frame cbarg (dali.forget lost) =
          (enqueued frame cbarg dali).forget lost := by
        simp [enqueued, UsbDali.forget, UsbDali.withArgs, newTransaction, UsbEffect.withArg,
          UsbDaliTransaction.withArg, forgets, fresh]
      rw [joined]
      exact (withArgs_next ..).symm
    · simp [UsbDali.forget, UsbDali.withArgs, UsbDali.log, UsbEffect.withArg]
  | complete completion args =>
    show usbStep (dali.forget lost) (.complete completion []) =
      (usbStep dali (.complete completion [])).forget lost
    cases held : dali.context.inflight.find? (·.id = completion.transfer) with
    | none =>
      have held' : (dali.forget lost).context.inflight.find? (·.id = completion.transfer) = none :=
        held
      simp [usbStep, libusbComplete, held, held']
    | some transfer =>
      have held' : (dali.forget lost).context.inflight.find? (·.id = completion.transfer) =
          some transfer := held
      rw [sound.usbStep_held held, forgotten.usbStep_held held', completed_forget]

/-- A report hands out the argument of the active request. -/
theorem Addressed.report {dali : UsbDali α} (addressed : Addressed dali) (report : Report) :
    Addressed (afterReport [] report dali) := by
  -- What is handed out was in the slot until then.
  cases report with
  | silent => exact addressed
  | broadcast error frame status =>
    exact addressed.extend rfl (by simp) fun transaction member => .inr ⟨_, member⟩
  | finished error frame response status =>
    cases active : dali.transaction with
    | none =>
      simp only [afterReport, active]
      exact addressed.extend rfl (by simp) fun transaction member => .inr ⟨_, member⟩
    | some transaction =>
      simp only [afterReport, active]
      refine addressed.extend rfl ?_ fun other member => .inr ⟨other.seqNum, ?_⟩
      · intro other error' frame' response' status' member
        simp only [List.mem_singleton, UsbEffect.reqCallback.injEq] at member
        simp [pendingRequests, active, member.1]
      · exact List.mem_append_right _ member

/-- Without cancellations, every request keeps its argument. -/
theorem Addressed.calmStep {dali : UsbDali α} (addressed : Addressed dali) (sound : UsbSound dali)
    (event : UsbEvent α) : Addressed (calmStep dali event) := by
  -- Queueing adds a request together with its acceptance, and a completion reports one.
  cases event with
  | cancel arg => exact addressed
  | queue frame cbarg memory submit =>
    show Addressed (usbdaliQueue memory submit frame cbarg dali).1
    rw [usbdaliQueue_eq]
    split
    · refine Addressed.next (addressed.extend rfl (by simp) fun other member => ?_) submit
      simp only [pendingRequests, enqueued, ← List.append_assoc, List.mem_append,
        List.mem_singleton] at member
      rcases member with old | rfl
      · exact .inr ⟨other.seqNum, List.mem_append.mpr old⟩
      · exact .inl (by simp [newTransaction])
    · exact addressed.extend rfl (by simp) fun transaction member => .inr ⟨_, member⟩
  | complete completion args =>
    show Addressed (usbStep dali (.complete completion []))
    rcases sound.complete completion [] with ⟨_, same⟩ | ⟨transfer, _, _, done⟩
    · rwa [same]
    · rw [done]
      apply Addressed.next
      have retired : Addressed (retire transfer dali) := ⟨addressed.pending, addressed.handed⟩
      have reported := retired.report (transferReport dali transfer completion)
      cases transfer.endpoint <;> exact ⟨reported.pending, reported.handed⟩

/--
The client of a request was cancelled between the acceptance of the request and its report.

A client that is cancelled by a callback is cancelled after this callback was invoked.
-/
def CancelledMeanwhile (submit : Int) (events : List (UsbEvent α)) (id : Nat) : Prop :=
  ∃ past event rest client, events = past ++ event :: rest ∧
    some client ∈ event.cancels (run usbStep (usbStart submit) past) ∧
    Awaited (run usbStep (usbStart submit) (past ++ [event])).trace id client

/-- One more event cancels the requests that are awaited by one of its clients. -/
theorem cancelledMeanwhile_concat (submit : Int) (events : List (UsbEvent α)) (event : UsbEvent α)
    (id : Nat) :
    CancelledMeanwhile submit (events ++ [event]) id ↔ CancelledMeanwhile submit events id ∨
      ∃ client, some client ∈ event.cancels (run usbStep (usbStart submit) events) ∧
        Awaited (run usbStep (usbStart submit) (events ++ [event])).trace id client := by
  constructor
  · -- Either the cancellation is the last event, or it was there before.
    rintro ⟨past, cause, rest, client, split, cancelled, awaited⟩
    rcases split_concat split with ⟨rfl, rfl, rfl⟩ | ⟨middle, rfl, rfl⟩
    · exact .inr ⟨client, cancelled, awaited⟩
    · exact .inl ⟨past, cause, middle, client, rfl, cancelled, awaited⟩
  · rintro (⟨past, cause, rest, client, rfl, cancelled, awaited⟩ | ⟨client, cancelled, awaited⟩)
    · exact ⟨past, cause, rest ++ [event], client, by simp, cancelled, awaited⟩
    · exact ⟨events, event, [], client, rfl, cancelled, awaited⟩

/-- Cancelling arguments of a device that has forgotten some makes it forget more. -/
theorem cancelAll_forget {lost more : Nat → Prop} {args : List (Option α)} {dali : UsbDali α}
    (now : ∀ transaction ∈ pendingRequests dali, more transaction.id ↔
      lost transaction.id ∨ ∃ client, some client ∈ args ∧ transaction.arg = some client)
    (past : ∀ transaction error frame response status,
      .reqCallback transaction error frame response status ∈ dali.trace →
        (more transaction.id ↔ lost transaction.id)) :
    cancelAll args (dali.forget lost) = dali.forget more := by
  -- Pending requests lose their argument to either, and the trace loses nothing to the second.
  have each : ∀ transaction ∈ pendingRequests dali,
      (transaction.withArg (forgets lost)).withArg (cleared args) =
        transaction.withArg (forgets more) := by
    intro transaction member
    have known := now transaction member
    have same : cleared args transaction.id (forgets lost transaction.id transaction.arg) =
        forgets more transaction.id transaction.arg := by
      generalize transaction.arg = arg at known
      simp only [forgets, cleared]
      by_cases before : lost transaction.id
      · simp [before, known.mpr (.inl before)]
      · cases arg with
        | none => simp
        | some client =>
          simp only [before, false_or, Option.some.injEq, exists_eq_right'] at known
          simp [before, known]
    simp only [UsbDaliTransaction.withArg, same]
  -- What was handed out before is the same for both.
  have handed : ∀ effect ∈ dali.trace,
      effect.withArg (forgets lost) = effect.withArg (forgets more) := by
    intro effect member
    cases effect with
    | reqCallback transaction error frame response status =>
      have known := past _ _ _ _ _ member
      have same : forgets lost transaction.id transaction.arg =
          forgets more transaction.id transaction.arg := by
        by_cases before : lost transaction.id <;> simp [forgets, known, before]
      simp only [UsbEffect.withArg, UsbDaliTransaction.withArg, same]
    | _ => rfl
  rw [cancelAll_eq]
  simp only [funext (clearArgs_eq args), UsbDali.forget, UsbDali.withArgs, Option.map_map,
    List.map_map]
  congr 1
  · refine Option.map_congr fun transaction active => each transaction ?_
    exact List.mem_append_left _ (Option.mem_toList.mpr active)
  · exact List.map_congr_left fun transaction queued =>
      each transaction (List.mem_append_right _ queued)
  · exact List.map_congr_left handed

/-- What was accepted stays on record. -/
theorem UsbSound.keeps_accepted {dali : UsbDali α} (sound : UsbSound dali)
    {transaction : UsbDaliTransaction α} (accepted : .accepted transaction ∈ dali.trace)
    (events : List (UsbEvent α)) :
    .accepted transaction ∈ (run usbStep dali events).trace := by
  -- The trace only grows.
  induction events generalizing dali with
  | nil => exact accepted
  | cons event rest ih =>
    obtain ⟨effects, longer, -⟩ := sound.step_effects event
    refine ih (sound.step event) ?_
    rw [longer]
    exact List.mem_append_left _ accepted

/-- Only a request that was accepted can be cancelled. -/
theorem CancelledMeanwhile.accepted {submit : Int} {events : List (UsbEvent α)} {id : Nat}
    (cancelled : CancelledMeanwhile submit events id) :
    id < (run usbStep (usbStart submit : UsbDali α) events).transactions := by
  -- Its acceptance is on record since before the cancellation, under a number given out by then.
  obtain ⟨past, event, rest, client, rfl, -, ⟨seqNum, request, member⟩, -⟩ := cancelled
  have whole : past ++ event :: rest = (past ++ [event]) ++ rest := by simp
  have kept := (usbSound_run submit (past ++ [event])).keeps_accepted member rest
  rw [← run_append, ← whole] at kept
  have named := (usbSound_run submit (past ++ event :: rest)).ledger.named
  rw [← List.mem_range, ← named]
  exact List.mem_map.mpr ⟨(id, request), List.mem_filterMap.mpr ⟨_, kept, rfl⟩, rfl⟩

/-- One more event makes the device forget the clients that it cancels. -/
theorem run_forgets_concat {submit : Int} {events : List (UsbEvent α)} {calm : UsbDali α}
    (sound : UsbSound calm) (addressed : Addressed calm)
    (before : run usbStep (usbStart submit) events =
      calm.forget (CancelledMeanwhile submit events)) (event : UsbEvent α)
    (nextSound : UsbSound (calmStep calm event)) :
    run usbStep (usbStart submit) (events ++ [event]) =
      (calmStep calm event).forget (CancelledMeanwhile submit (events ++ [event])) := by
  -- The next number has not been given out, so nothing about it can have been cancelled.
  have fresh : ¬ CancelledMeanwhile submit events calm.transactions := by
    intro early
    have below := early.accepted
    rw [before] at below
    exact Nat.lt_irrefl _ below
  have same : calmStep (run usbStep (usbStart submit) events) event =
      (calmStep calm event).forget (CancelledMeanwhile submit events) := by
    rw [before]
    exact calmStep_forget sound (before ▸ usbSound_run submit events) fresh event
  have step : run usbStep (usbStart submit) (events ++ [event]) =
      cancelAll (event.cancels (run usbStep (usbStart submit) events))
        ((calmStep calm event).forget (CancelledMeanwhile submit events)) := by
    rw [run_append, run_cons, run_nil, usbStep_cancels (usbSound_run submit events), same]
  -- Cancelling leaves the trace alone, so the same requests are awaited without it.
  have awaited : ∀ id client,
      Awaited (run usbStep (usbStart submit) (events ++ [event])).trace id client ↔
        Awaited (calmStep calm event).trace id client := by
    intro id client
    rw [step, cancelAll_eq]
    exact awaited_forget
  rw [step]
  apply cancelAll_forget
  · -- A pending request is awaited by its own client.
    intro transaction pending
    rw [cancelledMeanwhile_concat]
    simp only [awaited, (addressed.calmStep sound event).awaited_iff nextSound.ledger pending]
  · -- A request that was reported is out of reach.
    intro transaction error frame response status handed
    rw [cancelledMeanwhile_concat]
    simp only [awaited, not_awaited_of_handed handed, and_false, exists_false, or_false]

/-- Where no client is cancelled, none is forgotten. -/
theorem forget_cancelledMeanwhile_nil (submit : Int) (dali : UsbDali α) :
    dali.forget (CancelledMeanwhile submit ([] : List (UsbEvent α))) = dali := by
  have nobody : forgets (CancelledMeanwhile submit ([] : List (UsbEvent α))) =
      fun _ (arg : Option α) => arg := by
    funext id arg
    have never : ¬ CancelledMeanwhile submit ([] : List (UsbEvent α)) id := by
      rintro ⟨past, event, rest, client, split, -⟩
      simp at split
    simp [forgets, never]
  -- Cancelling nobody is the same as forgetting nobody.
  have cleared_nil : cleared ([] : List (Option α)) = fun _ arg => arg := by
    funext id arg
    simp [cleared]
  rw [UsbDali.forget, nobody]
  nth_rewrite 1 [← cleared_nil]
  exact (cancelAll_withArgs [] dali).symm

/-- A run forgets the clients that are cancelled meanwhile, and is undisturbed otherwise. -/
theorem run_forgets (submit : Int) (events : List (UsbEvent α)) :
    Addressed (run usbStep (usbStart submit) (undisturbed events)) ∧
      run usbStep (usbStart submit) events =
        (run usbStep (usbStart submit) (undisturbed events)).forget
          (CancelledMeanwhile submit events) := by
  -- The runs are compared event by event, from their common start.
  induction events using List.reverseRecOn with
  | nil => exact ⟨addressed_usbStart submit, (forget_cancelledMeanwhile_nil submit _).symm⟩
  | append_singleton events event ih =>
    obtain ⟨addressed, before⟩ := ih
    have sound := usbSound_run submit (undisturbed events)
    have calm : run usbStep (usbStart submit) (undisturbed (events ++ [event])) =
        calmStep (run usbStep (usbStart submit) (undisturbed events)) event := by
      rw [undisturbed_concat, run_append]
      rfl
    have nextSound := usbSound_run submit (undisturbed (events ++ [event]))
    rw [calm] at nextSound ⊢
    exact ⟨addressed.calmStep sound event,
      run_forgets_concat sound addressed before event nextSound⟩

/-- The same requests are accepted without the cancellations. -/
theorem queueResults_undisturbed (submit : Int) (events : List (UsbEvent α)) :
    outputs usbStep queueResult (usbStart submit) events =
      outputs usbStep queueResult (usbStart submit) (undisturbed events) := by
  -- Each answer is given in states that differ in arguments only.
  induction events using List.reverseRecOn with
  | nil => rfl
  | append_singleton events event ih =>
    have last : outputs usbStep queueResult (run usbStep (usbStart submit) events) [event] =
        outputs usbStep queueResult (run usbStep (usbStart submit) (undisturbed events))
          event.calm.toList := by
      rw [(run_forgets submit events).2]
      cases event with
      | queue frame cbarg memory code =>
        simp only [outputs, UsbEvent.calm, Option.toList_some, queueResult_forget]
      | cancel arg => rfl
      | complete completion args => rfl
    rw [undisturbed_concat, outputs_append, outputs_append, ih, last]

open Classical in
/--
The disappearance of a client is invisible to the bus and to the other clients.

Without any call of `usbdali_cancel`, the same packets are sent, the same requests are accepted, and
the same callbacks are made.
The argument handed to a callback is the one with which the request was accepted, unless it was
cancelled while the request was pending, and then it is NULL.
-/
theorem disappearance_invisible (submit : Int) (events : List (UsbEvent α)) :
    let dali := run usbStep (usbStart submit) events
    let calm := run usbStep (usbStart submit) (undisturbed events)
    submittedPackets dali.trace = submittedPackets calm.trace ∧
      outputs usbStep queueResult (usbStart submit) events =
        outputs usbStep queueResult (usbStart submit) (undisturbed events) ∧
      callbacks dali.trace = (callbacks calm.trace).map
        (·.withArg fun id arg => if CancelledMeanwhile submit events id then none else arg) ∧
      (∀ transaction error frame response status,
        .reqCallback transaction error frame response status ∈ calm.trace →
          .accepted { transaction with seqNum := 0 } ∈ calm.trace) ∧
      ∀ transaction, .accepted transaction ∈ dali.trace ↔ .accepted transaction ∈ calm.trace := by
  intro dali calm
  -- All of it can be read off the trace, which differs in the arguments handed out.
  obtain ⟨addressed, forgotten⟩ := run_forgets submit events
  have trace : dali.trace =
      calm.trace.map (·.withArg (forgets (CancelledMeanwhile submit events))) :=
    congrArg UsbDali.trace forgotten
  refine ⟨?_, queueResults_undisturbed submit events, ?_, addressed.handed, fun transaction => ?_⟩
  · rw [trace, submittedPackets_withArg]
  · rw [trace, callbacks_withArg]
    rfl
  · rw [trace, accepted_withArg]

end Cancel

end Daliserver

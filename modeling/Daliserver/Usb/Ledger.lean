import Mathlib.Data.List.Nodup
import Daliserver.Machine.Fifo
import Daliserver.Usb.Session

/-! The USB layer is a first-come-first-served queue: the books it keeps on every request. -/

namespace Daliserver

open Machine

variable {α : Type}

/-- What identifies a request from its acceptance to its report. -/
def UsbDaliTransaction.key (transaction : UsbDaliTransaction α) : Nat × DaliFrame :=
  (transaction.id, transaction.request)

/-- The request an effect accepts. -/
@[simp] def UsbEffect.acceptedRequest : UsbEffect α → Option (Nat × DaliFrame)
  | .accepted transaction => some transaction.key
  | _ => none

/-- The request an effect reports. -/
@[simp] def UsbEffect.reportedRequest : UsbEffect α → Option (Nat × DaliFrame)
  | .reqCallback transaction _ _ _ _ => some transaction.key
  | _ => none

/-- The packet an effect submits to the OUT endpoint, with the request it belongs to. -/
@[simp] def UsbEffect.submittedPacket : UsbEffect α → Option (Option Nat × Bytes)
  | .submitted ⟨_, .output, buffer, _⟩ owner _ => some (owner, buffer)
  | _ => none

/-- The requests accepted by `usbdali_queue`, oldest first. -/
def acceptedRequests (trace : List (UsbEffect α)) : List (Nat × DaliFrame) :=
  trace.filterMap UsbEffect.acceptedRequest

/-- The requests whose `req_callback` has been invoked, oldest call first. -/
def reportedRequests (trace : List (UsbEffect α)) : List (Nat × DaliFrame) :=
  trace.filterMap UsbEffect.reportedRequest

/-- The packets submitted to the OUT endpoint, oldest first. -/
def submittedPackets (trace : List (UsbEffect α)) : List (Option Nat × Bytes) :=
  trace.filterMap UsbEffect.submittedPacket

/-- The callbacks into the program among the things the device did. -/
def callbacks (trace : List (UsbEffect α)) : List (UsbEffect α) :=
  trace.filter fun effect => match effect with
    | .reqCallback .. => true
    | .bcastCallback .. => true
    | _ => false

/-- What a selection keeps of a list with one more entry. -/
theorem filterMap_concat {β γ : Type} (select : β → Option γ) (entries : List β) (entry : β) :
    (entries ++ [entry]).filterMap select = entries.filterMap select ++ (select entry).toList := by
  cases kept : select entry <;> simp [kept]

@[simp] theorem acceptedRequests_concat (trace : List (UsbEffect α)) (effect : UsbEffect α) :
    acceptedRequests (trace ++ [effect]) =
      acceptedRequests trace ++ effect.acceptedRequest.toList :=
  filterMap_concat _ _ _

@[simp] theorem reportedRequests_concat (trace : List (UsbEffect α)) (effect : UsbEffect α) :
    reportedRequests (trace ++ [effect]) =
      reportedRequests trace ++ effect.reportedRequest.toList :=
  filterMap_concat _ _ _

@[simp] theorem submittedPackets_concat (trace : List (UsbEffect α)) (effect : UsbEffect α) :
    submittedPackets (trace ++ [effect]) =
      submittedPackets trace ++ effect.submittedPacket.toList :=
  filterMap_concat _ _ _

/-- The callbacks of a trace that goes on are those of its parts. -/
theorem callbacks_append (first second : List (UsbEffect α)) :
    callbacks (first ++ second) = callbacks first ++ callbacks second :=
  List.filter_append ..

/-- Scheduling makes no callback and frees no transaction. -/
theorem usbdaliNext_quiet (submit : Int) (dali : UsbDali α) :
    (∃ effects, (usbdaliNext submit dali).trace = dali.trace ++ effects ∧
      callbacks effects = []) ∧ (usbdaliNext submit dali).freed = dali.freed := by
  rcases usbdaliNext_cases submit dali with same | ⟨transfer, _, stops⟩ | listens |
    ⟨transaction, rest, _, _, sends⟩
  · rw [same]
    exact ⟨⟨[], by simp, rfl⟩, rfl⟩
  · rw [stops]
    exact ⟨⟨[.cancelled transfer], rfl, rfl⟩, rfl⟩
  · rw [listens]
    exact ⟨⟨_, rfl, rfl⟩, rfl⟩
  · rw [sends]
    exact ⟨⟨_, rfl, rfl⟩, rfl⟩

/-- Clearing a slot concerns nothing but the slot. -/
theorem clearSlot_rest (endpoint : Endpoint) (dali : UsbDali α) :
    (clearSlot endpoint dali).trace = dali.trace ∧
      (clearSlot endpoint dali).freed = dali.freed ∧
      (clearSlot endpoint dali).transaction = dali.transaction := by
  cases endpoint <;> exact ⟨rfl, rfl, rfl⟩

/-- The device read as a queue with one server. -/
def fifoOf (dali : UsbDali α) : Fifo (Nat × DaliFrame) where
  served := reportedRequests dali.trace
  current := dali.transaction.map (·.key)
  waiting := dali.queue.map (·.key)

/-- The packet of the request that was started as the given one in turn, counted from zero. -/
def packetOf (turn : Nat) (request : Nat × DaliFrame) : Option Nat × Bytes :=
  (some request.1, outPacket ((turn + 1) % 256) request.2)

/-- What the device state and its trace have in common at every moment. -/
structure Ledger (dali : UsbDali α) : Prop where
  history : acceptedRequests dali.trace = (fifoOf dali).history
  named : (acceptedRequests dali.trace).map Prod.fst = List.range dali.transactions
  freed : dali.freed = (reportedRequests dali.trace).map Prod.fst
  size : dali.queueSize = defaultQueuesize
  room : dali.queue.length ≤ dali.queueSize
  packets : submittedPackets dali.trace = (fifoOf dali).started.mapIdx packetOf
  counter : dali.seqNum = ((fifoOf dali).started.length + 1) % 256
  stamped : ∀ transaction, dali.transaction = some transaction →
    transaction.seqNum = (fifoOf dali).started.length % 256

/-- No two accepted requests are the same one. -/
theorem Ledger.distinct {dali : UsbDali α} (ledger : Ledger dali) :
    ((fifoOf dali).history.map Prod.fst).Nodup := by
  -- Accepted requests are numbered in order of acceptance.
  rw [← ledger.history, ledger.named]
  exact List.nodup_range

/-- A request still waiting or active has not been released. -/
theorem Ledger.pending_alive {dali : UsbDali α} (ledger : Ledger dali)
    {transaction : UsbDaliTransaction α}
    (pending : transaction ∈ dali.transaction.toList ++ dali.queue) :
    transaction.id ∉ dali.freed := by
  -- Reported requests come first in the history, and no request occurs in it twice.
  have distinct := ledger.distinct
  simp only [Fifo.history, fifoOf, List.append_assoc, List.map_append] at distinct
  rw [ledger.freed]
  intro released
  apply List.disjoint_of_nodup_append distinct released
  rcases List.mem_append.mp pending with active | queued
  · obtain slot := Option.mem_toList.mp active
    simp [Option.mem_def.mp slot, UsbDaliTransaction.key]
  · exact List.mem_append_right _
      (List.mem_map.mpr ⟨transaction.key, List.mem_map_of_mem queued, rfl⟩)

/-- The active transaction may be read. -/
theorem Ledger.activeAlive {dali : UsbDali α} (ledger : Ledger dali) : ActiveAlive dali :=
  fun transaction active => ledger.pending_alive (by simp [active])

/-- The books only look at these parts of the state. -/
theorem Ledger.congr {before after : UsbDali α} (ledger : Ledger before)
    (accepted : acceptedRequests after.trace = acceptedRequests before.trace)
    (reported : reportedRequests after.trace = reportedRequests before.trace)
    (packets : submittedPackets after.trace = submittedPackets before.trace)
    (active : after.transaction.map (fun t => (t.key, t.seqNum)) =
      before.transaction.map (fun t => (t.key, t.seqNum)))
    (queue : after.queue.map (·.key) = before.queue.map (·.key))
    (transactions : after.transactions = before.transactions)
    (freed : after.freed = before.freed) (size : after.queueSize = before.queueSize)
    (counter : after.seqNum = before.seqNum) : Ledger after := by
  have current : after.transaction.map (·.key) = before.transaction.map (·.key) := by
    simpa [Option.map_map, Function.comp_def] using congrArg (Option.map Prod.fst) active
  have same : fifoOf after = fifoOf before := by
    simp only [fifoOf, reported, current, queue]
  have length := congrArg List.length queue
  simp only [List.length_map] at length
  refine ⟨?_, ?_, ?_, ?_, ?_, ?_, ?_, ?_⟩
  · rw [accepted, same, ledger.history]
  · rw [accepted, transactions, ledger.named]
  · rw [freed, reported, ledger.freed]
  · rw [size, ledger.size]
  · rw [length, size]; exact ledger.room
  · rw [packets, same, ledger.packets]
  · rw [counter, same, ledger.counter]
  · intro transaction held
    -- The stamp travels with the key, so the slot before held the same one.
    rw [held] at active
    cases earlier : before.transaction with
    | none => simp [earlier] at active
    | some transaction' =>
      simp only [earlier, Option.map_some, Option.some.injEq, Prod.mk.injEq] at active
      rw [same, active.2]
      exact ledger.stamped transaction' earlier

/-- Submitting a receive leaves the books alone. -/
theorem Ledger.listen {dali : UsbDali α} (ledger : Ledger dali) (submit : Int) :
    Ledger (receiving submit dali) := by
  -- An input transfer carries no packet and moves no request.
  refine ledger.congr ?_ ?_ ?_ rfl rfl rfl rfl rfl rfl <;>
    simp [receiving, receiveTransfer]

/-- Sending starts the request at the front of the queue under the next number. -/
theorem fifoOf_sending {dali : UsbDali α} {transaction : UsbDaliTransaction α}
    {rest : List (UsbDaliTransaction α)} (free : dali.transaction = none)
    (waiting : dali.queue = transaction :: rest) (submit : Int) :
    fifoOf (sending submit transaction rest dali) = (fifoOf dali).start := by
  simp [fifoOf, sending, Fifo.start, free, waiting, UsbDaliTransaction.key]

/-- Sending the request at the head of the queue keeps the books. -/
theorem Ledger.send {dali : UsbDali α} (ledger : Ledger dali)
    {transaction : UsbDaliTransaction α} {rest : List (UsbDaliTransaction α)}
    (free : dali.transaction = none) (waiting : dali.queue = transaction :: rest)
    (submit : Int) : Ledger (sending submit transaction rest dali) := by
  have moved := fifoOf_sending free waiting submit
  have begun : (fifoOf (sending submit transaction rest dali)).started =
      (fifoOf dali).started ++ [transaction.key] := by
    rw [moved]
    simp [Fifo.started, Fifo.start, fifoOf, free, waiting]
  have counted : (fifoOf (sending submit transaction rest dali)).started.length =
      (fifoOf dali).started.length + 1 := by simp [begun]
  have accepted : acceptedRequests (sending submit transaction rest dali).trace =
      acceptedRequests dali.trace := by
    simp [sending]
  have counter := ledger.counter
  refine ⟨?_, ?_, ?_, ledger.size, ?_, ?_, ?_, ?_⟩
  · rw [accepted, moved, Fifo.history_start, ledger.history]
  · rw [accepted]; exact ledger.named
  · simpa [sending] using ledger.freed
  · have room := ledger.room
    simp only [waiting, List.length_cons] at room
    show rest.length ≤ dali.queueSize
    omega
  · -- The new packet carries the number that counts the requests started before it.
    rw [begun, List.mapIdx_concat, ← ledger.packets]
    simp [sending, sendTransferOf, packetOf, counter,
      UsbDaliTransaction.key]
  · rw [counted]
    show (if dali.seqNum = 0xff then 0 else dali.seqNum + 1) = _
    rw [counter]
    split <;> omega
  · intro active held
    rw [counted]
    have stamp : active.seqNum = dali.seqNum := by
      simp only [sending, Option.some.injEq] at held
      rw [← held]
    rw [stamp, counter]

/-- Whatever is decided next, the books stay in order. -/
theorem Ledger.next {dali : UsbDali α} (ledger : Ledger dali) (submit : Int) :
    Ledger (usbdaliNext submit dali) := by
  -- Of the four things that can happen next only a send moves a request.
  rcases usbdaliNext_cases submit dali with same | ⟨transfer, _, stops⟩ | listens |
    ⟨transaction, rest, free, waiting, sends⟩
  · rwa [same]
  · rw [stops]
    refine ledger.congr ?_ ?_ ?_ rfl rfl rfl rfl rfl rfl <;>
      simp [libusbCancelTransfer, UsbDali.log]
  · rw [listens]
    exact ledger.listen submit
  · rw [sends]
    exact ledger.send free waiting submit

/-- An accepted request goes to the end of the books. -/
theorem Ledger.enqueue {dali : UsbDali α} (ledger : Ledger dali)
    (room : dali.queue.length < dali.queueSize) (frame : DaliFrame) (arg : Option α) :
    Ledger (enqueued frame arg dali) := by
  -- The request joins the waiting end, and nothing that has started changes.
  have joined : fifoOf (enqueued frame arg dali) =
      (fifoOf dali).join (newTransaction frame arg dali).key := by
    simp [fifoOf, enqueued, Fifo.join]
  have begun : (fifoOf (enqueued frame arg dali)).started = (fifoOf dali).started := by
    rw [joined]; rfl
  refine ⟨?_, ?_, ?_, ledger.size, ?_, ?_, ?_, ?_⟩
  · rw [joined, Fifo.history_join, ← ledger.history]
    simp [enqueued]
  · simp [enqueued, ledger.named, List.range_succ, newTransaction,
      UsbDaliTransaction.key]
  · simpa [enqueued] using ledger.freed
  · simpa [enqueued] using Nat.succ_le_of_lt room
  · rw [begun, ← ledger.packets]
    simp [enqueued]
  · rw [begun]; exact ledger.counter
  · rw [begun]; exact ledger.stamped

/-- A refused request leaves the books alone. -/
theorem Ledger.reject {dali : UsbDali α} (ledger : Ledger dali) (frame : DaliFrame)
    (error : UsbDaliError) : Ledger (dali.log (.rejected frame error)) := by
  refine ledger.congr ?_ ?_ ?_ rfl rfl rfl rfl rfl rfl <;>
    simp

/-- Queueing a request keeps the books, whether it is accepted or not. -/
theorem Ledger.queue {dali : UsbDali α} (ledger : Ledger dali) (memory : Bool) (submit : Int)
    (frame : DaliFrame) (arg : Option α) :
    Ledger (usbdaliQueue memory submit frame arg dali).1 := by
  -- Acceptance joins the queue first and schedules afterwards.
  rw [usbdaliQueue_eq]
  split
  · rename_i room
    exact (ledger.enqueue room.1 frame arg).next submit
  · exact ledger.reject frame _

section Cancel

variable [DecidableEq α]

/-- Cancelling changes no request, only who hears about it. -/
theorem Ledger.cancel {dali : UsbDali α} (ledger : Ledger dali) (args : List (Option α)) :
    Ledger (cancelAll args dali) := by
  -- Cancelling clears owners, which the keys of the ledger do not mention.
  rw [cancelAll_eq]
  refine ledger.congr rfl rfl rfl ?_ ?_ rfl rfl rfl rfl
  · simp [Option.map_map, Function.comp_def, UsbDaliTransaction.key]
  · simp [Function.comp_def, UsbDaliTransaction.key]

/-- Reporting a transaction moves it from the slot to the reported requests. -/
theorem Ledger.report {dali : UsbDali α} (ledger : Ledger dali) (args : List (Option α))
    (report : Report) : Ledger (afterReport args report dali) := by
  -- Only a final report moves a request, from the current place to the served end.
  cases report with
  | silent => exact ledger
  | broadcast error frame status =>
    refine Ledger.cancel ?_ args
    refine ledger.congr ?_ ?_ ?_ rfl rfl rfl rfl rfl rfl <;>
      simp
  | finished error frame response status =>
    cases active : dali.transaction with
    | none =>
      simp only [afterReport, active]
      refine ledger.congr ?_ ?_ ?_ rfl rfl rfl rfl rfl rfl <;>
        simp
    | some transaction =>
      have moved : fifoOf (afterReport args (.finished error frame response status) dali) =
          (fifoOf dali).finish := by
        simp [afterReport, active, cancelAll_eq, fifoOf, Fifo.finish, UsbDali.log,
          Function.comp_def, UsbDaliTransaction.key]
      refine ⟨?_, ?_, ?_, ?_, ?_, ?_, ?_, ?_⟩
      · rw [moved, Fifo.history_finish, ← ledger.history]
        simp [afterReport, active, cancelAll_eq, UsbDali.log]
      · simpa [afterReport, active, cancelAll_eq, UsbDali.log] using ledger.named
      · simp [afterReport, active, cancelAll_eq, UsbDali.log, ledger.freed,
          UsbDaliTransaction.key]
      · simpa [afterReport, active, cancelAll_eq, UsbDali.log] using ledger.size
      · simpa [afterReport, active, cancelAll_eq, UsbDali.log] using ledger.room
      · rw [moved, Fifo.started_finish, ← ledger.packets]
        simp [afterReport, active, cancelAll_eq, UsbDali.log]
      · rw [moved, Fifo.started_finish, ← ledger.counter]
        simp [afterReport, active, cancelAll_eq, UsbDali.log]
      · simp [afterReport, active]

/-- A completed transfer keeps the books, whatever it reports. -/
theorem Ledger.complete {dali : UsbDali α} (ledger : Ledger dali) (args : List (Option α))
    (transfer : Transfer) (completion : Completion) :
    Ledger (completed args transfer completion dali) := by
  -- Releasing the transfer is invisible to the ledger, so the report and the next step remain.
  apply Ledger.next
  have retired : Ledger (retire transfer dali) :=
    ledger.congr rfl rfl rfl rfl rfl rfl rfl rfl rfl
  have reported := retired.report args (transferReport dali transfer completion)
  cases transfer.endpoint <;> exact reported.congr rfl rfl rfl rfl rfl rfl rfl rfl rfl

end Cancel

/-- A freshly opened device has empty books. -/
theorem ledger_usbStart (submit : Int) : Ledger (usbStart submit : UsbDali α) := by
  -- Nothing has been accepted when the first receive is submitted.
  have blank : Ledger (usbdaliNew : UsbDali α) := by
    refine ⟨rfl, rfl, rfl, rfl, Nat.zero_le _, rfl, rfl, ?_⟩
    intro transaction active
    cases active
  exact (blank.next submit).congr rfl rfl rfl rfl rfl rfl rfl rfl rfl

end Daliserver

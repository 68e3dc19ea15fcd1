import Daliserver.Usb.Owners

/-! What closing the device releases, and which last completion still touches it. -/

namespace Daliserver

open Machine

variable {α σ : Type}

/-- Deciding what to do next leaves the receiver of messages from the bus alone. -/
theorem usbdaliNext_bcastArg (submit : Int) (dali : UsbDali α) :
    (usbdaliNext submit dali).bcastArg = dali.bcastArg := by
  rcases usbdaliNext_cases submit dali with same | ⟨transfer, _, stops⟩ | listens |
    ⟨transaction, rest, _, _, sends⟩
  · rw [same]
  · rw [stops]
    rfl
  · rw [listens]
    rfl
  · rw [sends]
    rfl

/-- A device that may be closed: its books are in order, whether or not callbacks are installed. -/
structure Closable (dali : UsbDali α) : Prop where
  clean : Clean dali
  recorded : ∀ transfer ∈ dali.context.inflight, slotOf transfer.endpoint dali = some transfer.id
  -- Every transaction was freed or is pending, and none is both.
  counted : dali.freed ++ (pendingRequests dali).map (·.id) = List.range dali.transactions
  addressed : dali.bcastCallback = true → dali.bcastArg = some .server

/-- The books of a session account for every transaction. -/
theorem Ledger.counted {dali : UsbDali α} (ledger : Ledger dali) :
    dali.freed ++ (pendingRequests dali).map (·.id) = List.range dali.transactions := by
  -- The history of the queue lists the served requests first and the pending ones after them.
  rw [← ledger.named, ledger.history, ledger.freed]
  cases active : dali.transaction <;>
    simp [Fifo.history, fifoOf, pendingRequests, active, UsbDaliTransaction.key]

/-- A device that was opened and not used yet may be closed. -/
theorem closable_open (submit : Int) : Closable (usbdaliOpen submit : UsbDali α) := by
  -- Before the callbacks are installed there is only the first receive.
  rw [usbdaliOpen_eq]
  refine ⟨?_, ?_, rfl, fun installed => by cases installed⟩
  · intro fault member
    simp [receiving, usbdaliNew] at member
  · intro transfer member
    obtain ⟨same, _⟩ := mem_afterSubmit_nil member
    rw [same]
    rfl

/-- Releasing transactions that are alive and distinct releases each of them. -/
theorem freeAll_eq (transactions : List (UsbDaliTransaction α)) (dali : UsbDali α)
    (fresh : (dali.freed ++ transactions.map (·.id)).Nodup) :
    transactions.foldl (fun dali transaction => usbdaliTransactionFree (some transaction) dali)
      dali = { dali with freed := dali.freed ++ transactions.map (·.id) } := by
  -- Each transaction is new to the freed list, so no free is a second one.
  induction transactions generalizing dali with
  | nil => simp
  | cons transaction rest ih =>
    have alive : transaction.id ∉ dali.freed := by
      intro released
      exact List.disjoint_of_nodup_append fresh released (by simp)
    have first : usbdaliTransactionFree (some transaction) dali =
        { dali with freed := dali.freed ++ [transaction.id] } := by
      simp [usbdaliTransactionFree, alive]
    rw [List.foldl_cons, first, ih]
    · simp
    · simpa using fresh

/-- Releasing what may be NULL is releasing a list of one or none. -/
theorem usbdaliTransactionFree_toList (transaction : Option (UsbDaliTransaction α))
    (dali : UsbDali α) :
    usbdaliTransactionFree transaction dali = transaction.toList.foldl
      (fun dali transaction => usbdaliTransactionFree (some transaction) dali) dali := by
  cases transaction <;> rfl

/-- A transfer that may have been asked to stop. -/
def stopped (slot : Option Nat) (transfer : Transfer) : Transfer :=
  if slot = some transfer.id then { transfer with cancelRequested := true } else transfer

@[simp] theorem stopped_id (slot : Option Nat) (transfer : Transfer) :
    (stopped slot transfer).id = transfer.id := by
  unfold stopped
  split <;> rfl

@[simp] theorem stopped_endpoint (slot : Option Nat) (transfer : Transfer) :
    (stopped slot transfer).endpoint = transfer.endpoint := by
  unfold stopped
  split <;> rfl

/-- Cancelling the transfer in a slot changes what libusb holds and the trace. -/
theorem cancelSlot_eq (slot : Option Nat) (dali : UsbDali α) :
    cancelSlot slot dali =
      { dali with
        context := { dali.context with inflight := dali.context.inflight.map (stopped slot) }
        trace := dali.trace ++ slot.toList.map .cancelled } := by
  -- An empty slot marks nothing, and a recorded transfer is marked by its number.
  cases slot with
  | none =>
    have same : stopped none = id := rfl
    simp [cancelSlot, same]
  | some transfer =>
    have same : stopped (some transfer) = fun other =>
        if other.id = transfer then { other with cancelRequested := true } else other := by
      funext other
      unfold stopped
      by_cases mine : other.id = transfer
      · simp [mine]
      · have apart : ¬ transfer = other.id := fun alike => mine alike.symm
        simp [mine, apart]
    simp [cancelSlot, libusbCancelTransfer, UsbDali.log, same]

/-- The device when its last completions are handled: all is released, but the slot still points. -/
def closing (dali : UsbDali α) : UsbDali α :=
  { dali with
    -- The transaction pointer keeps its value although the transaction is freed.
    shutdown := true
    queue := []
    freed := dali.freed ++ dali.queue.map (·.id) ++ dali.transaction.toList.map (·.id)
    context := { dali.context with
      inflight := (dali.context.inflight.map (stopped dali.recvTransfer)).map
        (stopped dali.sendTransfer) }
    trace := dali.trace ++ dali.recvTransfer.toList.map .cancelled ++
      dali.sendTransfer.toList.map .cancelled }

/-- The transactions that closing releases are alive and distinct. -/
theorem Closable.distinct {dali : UsbDali α} (closable : Closable dali) :
    (dali.freed ++ dali.queue.map (·.id) ++ dali.transaction.toList.map (·.id)).Nodup := by
  have counted : (dali.freed ++ (pendingRequests dali).map (·.id)).Nodup := by
    rw [closable.counted]
    exact List.nodup_range
  -- The queue is released before the active transaction, though it is served after it.
  rw [List.append_assoc]
  refine (List.Perm.nodup_iff (List.Perm.append_left _ ?_)).mp counted
  rw [pendingRequests, List.map_append]
  exact List.perm_append_comm

/-- An effect that uses a pointer to something that is gone, or that never was there. -/
def UsbEffect.misuse : UsbEffect α → Bool
  | .fault _ => true
  -- The server has been freed before the device is closed.
  | .bcastCallback _ _ _ (some .server) => true
  | _ => false

/-- The trace got longer. -/
def Grew (before after : UsbDali α) : Prop := ∃ effects, after.trace = before.trace ++ effects

/-- The trace got longer by a misuse among others. -/
def Misused (before after : UsbDali α) : Prop :=
  ∃ effects, after.trace = before.trace ++ effects ∧ ∃ effect ∈ effects, effect.misuse = true

/-- A trace that is the same has not got longer, or only by nothing. -/
theorem Grew.of_eq {before after : UsbDali α} (same : after.trace = before.trace) :
    Grew before after := ⟨[], by rw [same, List.append_nil]⟩

theorem Grew.trans {first second third : UsbDali α} (one : Grew first second)
    (two : Grew second third) : Grew first third := by
  obtain ⟨effects, longer⟩ := one
  obtain ⟨more, longest⟩ := two
  exact ⟨effects ++ more, by rw [longest, longer, List.append_assoc]⟩

/-- Recording an effect makes the trace longer. -/
theorem grew_log (dali : UsbDali α) (effect : UsbEffect α) : Grew dali (dali.log effect) :=
  ⟨[effect], rfl⟩

/-- What was misused stays misused. -/
theorem Misused.grow {first second third : UsbDali α} (misused : Misused first second)
    (grew : Grew second third) : Misused first third := by
  obtain ⟨effects, longer, effect, member, misuse⟩ := misused
  obtain ⟨more, longest⟩ := grew
  exact ⟨effects ++ more, by rw [longest, longer, List.append_assoc], effect,
    List.mem_append_left _ member, misuse⟩

/-- A misuse that comes after something else is a misuse. -/
theorem Misused.after {first second third : UsbDali α} (misused : Misused second third)
    (grew : Grew first second) : Misused first third := by
  obtain ⟨effects, longer⟩ := grew
  obtain ⟨more, longest, effect, member, misuse⟩ := misused
  exact ⟨effects ++ more, by rw [longest, longer, List.append_assoc], effect,
    List.mem_append_right _ member, misuse⟩

/-- Recording a misuse. -/
theorem misused_log (dali : UsbDali α) {effect : UsbEffect α} (misuse : effect.misuse = true) :
    Misused dali (dali.log effect) :=
  ⟨[effect], rfl, effect, List.mem_singleton_self _, misuse⟩

/-- A device after it was closed: what its pointers lead to is gone. -/
structure Dangling (dali : UsbDali α) : Prop where
  freed : ∀ transaction, dali.transaction = some transaction → transaction.id ∈ dali.freed
  addressed : dali.bcastCallback = true → dali.bcastArg = some .server

/-- Releasing a transaction records a fault at most. -/
theorem usbdaliTransactionFree_grew (transaction : Option (UsbDaliTransaction α))
    (dali : UsbDali α) : Grew dali (usbdaliTransactionFree transaction dali) := by
  unfold usbdaliTransactionFree
  split
  · exact .of_eq rfl
  · split
    · exact grew_log _ _
    · exact .of_eq rfl

/-- Reading a transaction that is gone. -/
theorem usbdaliTransactionRead_misused {transaction : UsbDaliTransaction α} {dali : UsbDali α}
    (freed : transaction.id ∈ dali.freed) :
    Misused dali (usbdaliTransactionRead transaction dali) := by
  unfold usbdaliTransactionRead
  rw [if_pos freed]
  exact misused_log _ rfl

/-- Deciding what to do next makes the trace longer. -/
theorem usbdaliNext_grew (submit : Int) (dali : UsbDali α) :
    Grew dali (usbdaliNext submit dali) := by
  -- None of the four things that happen next shortens the trace.
  rcases usbdaliNext_cases submit dali with same | ⟨transfer, _, stops⟩ | listens |
    ⟨transaction, rest, _, _, sends⟩
  · exact .of_eq (by rw [same])
  · exact ⟨_, by rw [stops]; rfl⟩
  · exact ⟨_, by rw [listens]; rfl⟩
  · exact ⟨_, by rw [sends]; rfl⟩

/-- A warning about the wrong transfer makes the trace longer. -/
theorem grew_warning (wrong : Prop) [Decidable wrong] (dali : UsbDali α) (effect : UsbEffect α) :
    Grew dali (if wrong then dali.log effect else dali) := by
  split
  · exact grew_log _ _
  · exact .of_eq rfl

/-- After its outcome, a callback clears a slot and goes on unless the device is closed. -/
theorem callback_grew {after before : UsbDali α} (cleared : Grew before after) (submit : Int)
    (state : σ) :
    Grew before (if after.shutdown then (after, state)
      else onDali (usbdaliNext submit) (after, state)).1 := by
  -- After shutdown the callback stops, and otherwise it schedules once more.
  split
  · exact cleared
  · exact cleared.trans (usbdaliNext_grew submit after)

/-- A transfer is in flight under the same number after it was asked to stop. -/
theorem find_closing (dali : UsbDali α) (id : Nat) :
    (closing dali).context.inflight.find? (·.id = id) =
      (dali.context.inflight.find? (·.id = id)).map
        (stopped dali.sendTransfer ∘ stopped dali.recvTransfer) := by
  -- Marking a transfer keeps its number, by which it is found.
  have same : (fun transfer : Transfer => decide (transfer.id = id)) ∘
      (stopped dali.sendTransfer ∘ stopped dali.recvTransfer) =
      fun transfer => decide (transfer.id = id) := by
    funext transfer
    simp
  simp only [closing, List.map_map, List.find?_map, same]

/-- Closing leaves nothing that the pointers of the device could still lead to. -/
theorem Closable.dangling {dali : UsbDali α} (closable : Closable dali) :
    Dangling (closing dali) := by
  -- The active transaction is freed by closing and its pointer stays.
  refine ⟨fun transaction active => ?_, closable.addressed⟩
  have slot : dali.transaction = some transaction := active
  simp [closing, slot]

/-- Closing used nothing that was gone, and every transaction was released exactly once. -/
structure SafelyClosed (before after : UsbDali α) : Prop where
  -- No callback was called through NULL, and no transaction was used or freed again.
  clean : Clean after
  -- The server was not passed to the callback any more.
  server : ∃ effects, after.trace = before.trace ++ effects ∧
    ∀ error frame status, .bcastCallback error frame status (some .server) ∉ effects
  once : after.freed.Perm (List.range after.transactions)

/-- A misuse is what must not happen. -/
theorem SafelyClosed.not_misused {before after : UsbDali α} (safe : SafelyClosed before after) :
    ¬ Misused before after := by
  -- Both kinds of misuse would have left their mark behind the same trace.
  rintro ⟨effects, trace, effect, member, misuse⟩
  obtain ⟨others, same, unsent⟩ := safe.server
  rw [trace, List.append_cancel_left_eq] at same
  subst same
  unfold UsbEffect.misuse at misuse
  split at misuse
  · exact safe.clean _ (by rw [trace]; exact List.mem_append_right _ member)
  · exact unsent _ _ _ member
  · cases misuse

/-- Closing a device is safe if its last completion has no consequences. -/
theorem Closable.safely {dali after : UsbDali α} (closable : Closable dali)
    (trace : after.trace = (closing dali).trace) (freed : after.freed = (closing dali).freed)
    (transactions : after.transactions = dali.transactions) : SafelyClosed dali after := by
  have asked : after.trace = dali.trace ++ (dali.recvTransfer.toList.map .cancelled ++
      dali.sendTransfer.toList.map .cancelled) := by
    rw [trace]
    exact List.append_assoc ..
  refine ⟨?_, ⟨_, asked, by simp⟩, ?_⟩
  · intro fault member
    rw [asked] at member
    rcases List.mem_append.mp member with earlier | late
    · exact closable.clean fault earlier
    · simp at late
  · -- The queue was released before the active transaction.
    have released : after.freed = dali.freed ++ (dali.queue.map (·.id) ++
        dali.transaction.toList.map (·.id)) := by
      rw [freed]
      exact List.append_assoc ..
    rw [released, transactions, ← closable.counted, pendingRequests, List.map_append]
    exact List.Perm.append_left _ List.perm_append_comm

section Cancel

variable [DecidableEq α]

/-- What happens to the device before the last completions are handled. -/
theorem usbdaliClose_eq (handlers : Handlers α σ) (completions : List Completion)
    {state : UsbDali α × σ} (closable : Closable state.1) :
    usbdaliClose handlers completions state =
      libusbHandleEvents handlers completions (onDali closing state) := by
  -- Pending transactions have distinct numbers that were never freed, so both loops succeed.
  have distinct := closable.distinct
  have queued := freeAll_eq state.1.queue { state.1 with shutdown := true }
    distinct.of_append_left
  have active := freeAll_eq state.1.transaction.toList
    { state.1 with
      shutdown := true
      queue := []
      freed := state.1.freed ++ state.1.queue.map (·.id) } distinct
  unfold usbdaliClose
  rw [← usbdaliTransactionFree_toList] at active
  simp only [onDali, queued, active, cancelSlot_eq]
  rfl

/-- Cancelling leaves no trace. -/
theorem cancelAll_trace (args : List (Option α)) (dali : UsbDali α) :
    (cancelAll args dali).trace = dali.trace := by
  rw [cancelAll_eq]

/-- A closed device has nobody to pass a message to. -/
theorem callBcast_misused (handlers : Handlers α σ) {state : UsbDali α × σ}
    (dangling : Dangling state.1) (error : UsbDaliError) (frame : Option DaliFrame)
    (status : Nat) : Misused state.1 (callBcast handlers error frame status state).1 := by
  unfold callBcast
  split
  · rename_i installed
    obtain ⟨args, cancelled⟩ := handlers.bcastCancels error frame status state.1.bcastArg
      (onDali (fun dali => dali.log (.bcastCallback error frame status dali.bcastArg)) state)
    rw [cancelled]
    -- The server is passed on before the callback can do anything about it.
    have passed : Misused state.1
        (state.1.log (.bcastCallback error frame status state.1.bcastArg)) := by
      apply misused_log _
      rw [dangling.addressed installed]
      rfl
    exact passed.grow (.of_eq (cancelAll_trace ..))
  · exact misused_log _ rfl

/-- Whatever the callback does, the trace gets longer. -/
theorem callReq_grew (handlers : Handlers α σ) (transaction : UsbDaliTransaction α)
    (error : UsbDaliError) (frame : DaliFrame) (response status : Nat) (state : UsbDali α × σ) :
    Grew state.1 (callReq handlers transaction error frame response status state).1 := by
  -- Handlers reach the device by cancellations only, and these write no trace.
  unfold callReq
  split
  · obtain ⟨args, cancelled⟩ := handlers.reqCancels error frame response status transaction.arg
      (onDali (·.log (.reqCallback transaction error frame response status)) state)
    rw [cancelled]
    exact (grew_log _ _).trans (.of_eq (cancelAll_trace ..))
  · exact grew_log _ _

/-- Ending a transaction makes the trace longer. -/
theorem finishTransaction_grew (handlers : Handlers α σ) (error : UsbDaliError)
    (frame : Option DaliFrame) (response status : Nat) (state : UsbDali α × σ) :
    Grew state.1 (finishTransaction handlers error frame response status state).1 := by
  -- Reading, calling and freeing each extend the trace by at most one entry.
  unfold finishTransaction
  split
  · exact grew_log _ _
  · rename_i transaction _
    have read : Grew state.1 (usbdaliTransactionRead transaction state.1) := by
      unfold usbdaliTransactionRead
      split
      · exact grew_log _ _
      · exact .of_eq rfl
    refine (read.trans (callReq_grew handlers transaction error (frame.getD transaction.request)
      response status (onDali (usbdaliTransactionRead transaction) state))).trans ?_
    exact (usbdaliTransactionFree_grew _ _).trans (.of_eq rfl)

/-- A closed device has no transaction that could be ended. -/
theorem finishTransaction_misused (handlers : Handlers α σ) {state : UsbDali α × σ}
    (dangling : Dangling state.1) (error : UsbDaliError) (frame : Option DaliFrame)
    (response status : Nat) :
    Misused state.1 (finishTransaction handlers error frame response status state).1 := by
  -- Either there is no transaction to report, or the one that is reported has been freed.
  unfold finishTransaction
  cases active : state.1.transaction with
  | none => exact misused_log _ rfl
  | some transaction =>
    have read := usbdaliTransactionRead_misused (dangling.freed transaction active)
    refine (read.grow (callReq_grew handlers transaction error (frame.getD transaction.request)
      response status (onDali (usbdaliTransactionRead transaction) state))).grow ?_
    exact (usbdaliTransactionFree_grew _ _).trans (.of_eq rfl)

/-- Whether the completion of a transfer has no consequences for a device that was closed. -/
def harmless (active : Option (UsbDaliTransaction α)) (endpoint : Endpoint)
    (status : TransferStatus) (received : Bytes) : Bool :=
  match endpoint, status with
  | _, .cancelled => true
  | .output, .completed => true
  | .output, _ => false
  | .input, .timedOut => active.isNone
  | .input, .completed =>
    match unpackIn received with
    -- A packet that is too short is ignored.
    | none => true
    | some message =>
      if message.direction = directionDali then
        decide (message.type ≠ typeComplete ∧ message.type ≠ typeBroadcast)
      else if message.direction = directionUsb then active.isNone
      else true
  | .input, _ => false

/-- What a packet does to a closed device. -/
theorem receiveCompleted_dangling (handlers : Handlers α σ) {state : UsbDali α × σ}
    (dangling : Dangling state.1) (received : Bytes) :
    harmless state.1.transaction .input .completed received = true ∧
        usbdaliReceiveCompleted handlers received state = state ∨
      harmless state.1.transaction .input .completed received = false ∧
        Misused state.1 (usbdaliReceiveCompleted handlers received state).1 := by
  unfold usbdaliReceiveCompleted harmless
  cases unpackIn received with
  | none => exact .inl ⟨rfl, rfl⟩
  | some message =>
    dsimp only
    by_cases bus : message.direction = directionDali
    · simp only [if_pos bus]
      by_cases complete : message.type = typeComplete
      · rw [if_pos complete]
        exact .inr ⟨by simp [complete], callBcast_misused handlers dangling ..⟩
      · rw [if_neg complete]
        by_cases broadcast : message.type = typeBroadcast
        · rw [if_pos broadcast]
          exact .inr ⟨by simp [broadcast], callBcast_misused handlers dangling ..⟩
        · rw [if_neg broadcast]
          exact .inl ⟨by simp [complete, broadcast], rfl⟩
    · simp only [if_neg bus]
      by_cases usb : message.direction = directionUsb
      · simp only [if_pos usb]
        cases active : state.1.transaction with
        | none => exact .inl ⟨rfl, rfl⟩
        | some transaction =>
          refine .inr ⟨rfl, ?_⟩
          -- The sequence number is read from a transaction that is gone.
          have read : Misused state.1 (onDali (usbdaliTransactionRead transaction) state).1 :=
            usbdaliTransactionRead_misused (dangling.freed transaction active)
          dsimp only
          split
          · split
            · exact read.grow (finishTransaction_grew ..)
            · split
              · exact read.grow (finishTransaction_grew ..)
              · exact read
          · exact read
      · simp [if_neg usb]

/-- What the outcome of a receive does to a closed device. -/
theorem receiveOutcome_dangling (handlers : Handlers α σ) {state : UsbDali α × σ}
    (dangling : Dangling state.1) (status : TransferStatus) (received : Bytes) :
    harmless state.1.transaction .input status received = true ∧
        usbdaliReceiveOutcome handlers status received state = state ∨
      harmless state.1.transaction .input status received = false ∧
        Misused state.1 (usbdaliReceiveOutcome handlers status received state).1 := by
  -- An error is reported for the active transaction, or else to the server.
  have failed : Misused state.1 (if state.1.transaction.isSome then
      finishTransaction handlers .receiveError none 0xff 0xffff state
      else callBcast handlers .receiveError none 0xffff state).1 := by
    split
    · exact finishTransaction_misused handlers dangling ..
    · exact callBcast_misused handlers dangling ..
  cases status with
  | completed => exact receiveCompleted_dangling handlers dangling received
  | timedOut =>
    simp only [harmless, usbdaliReceiveOutcome]
    cases active : state.1.transaction with
    | none => exact .inl ⟨rfl, rfl⟩
    | some transaction => exact .inr ⟨rfl, finishTransaction_misused handlers dangling ..⟩
  | cancelled => exact .inl ⟨rfl, rfl⟩
  | error => exact .inr ⟨rfl, failed⟩
  | stall => exact .inr ⟨rfl, failed⟩
  | noDevice => exact .inr ⟨rfl, failed⟩
  | overflow => exact .inr ⟨rfl, failed⟩

/-- What the outcome of a send does to a closed device. -/
theorem sendOutcome_dangling (handlers : Handlers α σ) {state : UsbDali α × σ}
    (dangling : Dangling state.1) (status : TransferStatus) (received : Bytes) :
    harmless state.1.transaction .output status received = true ∧
        usbdaliSendOutcome handlers status state = state ∨
      harmless state.1.transaction .output status received = false ∧
        Misused state.1 (usbdaliSendOutcome handlers status state).1 := by
  -- A send reports its transaction unless it completed or was cancelled.
  cases status with
  | completed => exact .inl ⟨rfl, rfl⟩
  | cancelled => exact .inl ⟨rfl, rfl⟩
  | timedOut => exact .inr ⟨rfl, finishTransaction_misused handlers dangling ..⟩
  | error => exact .inr ⟨rfl, finishTransaction_misused handlers dangling ..⟩
  | stall => exact .inr ⟨rfl, finishTransaction_misused handlers dangling ..⟩
  | noDevice => exact .inr ⟨rfl, finishTransaction_misused handlers dangling ..⟩
  | overflow => exact .inr ⟨rfl, finishTransaction_misused handlers dangling ..⟩

/-- The callback of a receive on a closed device. -/
theorem receiveCallback_dangling (handlers : Handlers α σ) {state : UsbDali α × σ}
    (dangling : Dangling state.1) {transfer : Transfer}
    (mine : state.1.recvTransfer = some transfer.id) (shutdown : state.1.shutdown = true)
    (submit : Int) (status : TransferStatus) (received : Bytes) :
    harmless state.1.transaction .input status received = true ∧
        usbdaliReceiveCallback handlers submit transfer status received state =
          onDali (clearSlot .input) state ∨
      harmless state.1.transaction .input status received = false ∧
        Misused state.1 (usbdaliReceiveCallback handlers submit transfer status received state).1 := by
  -- A harmless outcome only clears the slot, since shutdown stops the scheduling.
  rcases receiveOutcome_dangling handlers dangling status received with ⟨safe, same⟩ | ⟨bad, misused⟩
  · refine .inl ⟨safe, ?_⟩
    simp [usbdaliReceiveCallback, same, onDali, mine, shutdown, clearSlot]
  · refine .inr ⟨bad, misused.grow ?_⟩
    refine callback_grew ?_ submit _
    exact (grew_warning _ _ _).trans (.of_eq rfl)

/-- The callback of a send on a closed device. -/
theorem sendCallback_dangling (handlers : Handlers α σ) {state : UsbDali α × σ}
    (dangling : Dangling state.1) {transfer : Transfer}
    (mine : state.1.sendTransfer = some transfer.id) (shutdown : state.1.shutdown = true)
    (submit : Int) (status : TransferStatus) (received : Bytes) :
    harmless state.1.transaction .output status received = true ∧
        usbdaliSendCallback handlers submit transfer status state =
          onDali (clearSlot .output) state ∨
      harmless state.1.transaction .output status received = false ∧
        Misused state.1 (usbdaliSendCallback handlers submit transfer status state).1 := by
  -- As for receives, on the other slot.
  rcases sendOutcome_dangling handlers dangling status received with ⟨safe, same⟩ | ⟨bad, misused⟩
  · refine .inl ⟨safe, ?_⟩
    simp [usbdaliSendCallback, same, onDali, mine, shutdown, clearSlot]
  · refine .inr ⟨bad, misused.grow ?_⟩
    refine callback_grew ?_ submit _
    exact (grew_warning _ _ _).trans (.of_eq rfl)

/--
What a completion does to a device that was shut down.

Either it has no consequences but the slot that is cleared, or something is misused.
-/
theorem libusbComplete_dangling (handlers : Handlers α σ) (completion : Completion)
    {state : UsbDali α × σ} {transfer : Transfer} (dangling : Dangling state.1)
    (held : state.1.context.inflight.find? (·.id = completion.transfer) = some transfer)
    (mine : slotOf transfer.endpoint state.1 = some transfer.id)
    (shutdown : state.1.shutdown = true) :
    harmless state.1.transaction transfer.endpoint completion.status completion.received =
        true ∧
      libusbComplete handlers completion state =
        onDali (fun dali => clearSlot transfer.endpoint (retire transfer dali)) state ∨
    harmless state.1.transaction transfer.endpoint completion.status completion.received =
        false ∧
      Misused state.1 (libusbComplete handlers completion state).1 := by
  -- The callback runs after libusb has let go of the transfer, which changes nothing it reads.
  have retired : Dangling (onDali (retire transfer) state).1 :=
    ⟨dangling.freed, dangling.addressed⟩
  cases direction : transfer.endpoint with
  | input =>
    have completes : libusbComplete handlers completion state =
        usbdaliReceiveCallback handlers completion.submit transfer completion.status
          completion.received (onDali (retire transfer) state) := by
      simp only [libusbComplete, held, direction]
    simp only [direction, slotOf] at mine
    rw [completes]
    exact receiveCallback_dangling handlers retired mine shutdown completion.submit
      completion.status completion.received
  | output =>
    have completes : libusbComplete handlers completion state =
        usbdaliSendCallback handlers completion.submit transfer completion.status
          (onDali (retire transfer) state) := by
      simp only [libusbComplete, held, direction]
    simp only [direction, slotOf] at mine
    rw [completes]
    exact sendCallback_dangling handlers retired mine shutdown completion.submit
      completion.status completion.received

/-- The last completion finds the device closing, with the transfer it was closed with. -/
theorem lastCompletion (handlers : Handlers α σ) (completion : Completion)
    {state : UsbDali α × σ} (closable : Closable state.1) :
    (state.1.context.inflight.find? (·.id = completion.transfer) = none ∧
      libusbComplete handlers completion (onDali closing state) = onDali closing state) ∨
    ∃ transfer, state.1.context.inflight.find? (·.id = completion.transfer) = some transfer ∧
      (harmless state.1.transaction transfer.endpoint completion.status completion.received =
          true ∧
        (∃ other, libusbComplete handlers completion (onDali closing state) =
          onDali (fun dali => clearSlot transfer.endpoint (retire other (closing dali))) state) ∨
      harmless state.1.transaction transfer.endpoint completion.status completion.received =
          false ∧
        Misused (closing state.1)
          (libusbComplete handlers completion (onDali closing state)).1) := by
  -- Closing marks transfers without renaming them, so the same transfer is found as before.
  have flight := find_closing state.1 completion.transfer
  cases held : state.1.context.inflight.find? (·.id = completion.transfer) with
  | none =>
    rw [held] at flight
    refine .inl ⟨rfl, ?_⟩
    unfold libusbComplete
    simp only [onDali]
    rw [flight]
    rfl
  | some transfer =>
    refine .inr ⟨transfer, rfl, ?_⟩
    obtain ⟨other, there, endpoint, number⟩ : ∃ other,
        (closing state.1).context.inflight.find? (·.id = completion.transfer) = some other ∧
        other.endpoint = transfer.endpoint ∧ other.id = transfer.id := by
      rw [flight, held]
      exact ⟨_, rfl, by simp, by simp⟩
    have recorded := closable.recorded transfer (List.mem_of_find?_eq_some held)
    have mine : slotOf other.endpoint (closing state.1) = some other.id := by
      rw [endpoint, number, ← recorded]
      cases transfer.endpoint <;> rfl
    have dangling : Dangling (onDali closing state).1 := closable.dangling
    have outcome := libusbComplete_dangling handlers completion dangling there mine rfl
    rw [endpoint] at outcome
    rcases outcome with ⟨safe, same⟩ | misused
    · exact .inl ⟨safe, other, same⟩
    · exact .inr misused

/-- Closing is safe exactly if the transfer in flight completes in a way without consequences. -/
theorem usbdaliClose_safe_iff (handlers : Handlers α σ) (completion : Completion)
    {state : UsbDali α × σ} (closable : Closable state.1) :
    SafelyClosed state.1 (usbdaliClose handlers [completion] state).1 ↔
      ∀ transfer, state.1.context.inflight.find? (·.id = completion.transfer) = some transfer →
        harmless state.1.transaction transfer.endpoint completion.status completion.received =
          true := by
  -- At most one transfer is in flight, so one completion decides the matter.
  rw [usbdaliClose_eq handlers _ closable]
  show SafelyClosed state.1 (libusbComplete handlers completion (onDali closing state)).1 ↔ _
  rcases lastCompletion handlers completion closable with
    ⟨nothing, same⟩ | ⟨transfer, held, ⟨safe, other, same⟩ | ⟨bad, misused⟩⟩
  · rw [same, nothing]
    exact iff_of_true (closable.safely rfl rfl rfl) fun _ named => by cases named
  · rw [same]
    refine iff_of_true ?_ fun other' held' => ?_
    · cases transfer.endpoint <;> exact closable.safely rfl rfl rfl
    · rw [held, Option.some.injEq] at held'
      exact held' ▸ safe
  · refine iff_of_false (fun safely => ?_) fun all => ?_
    · have asked : Grew state.1 (closing state.1) := ⟨_, List.append_assoc ..⟩
      exact safely.not_misused (misused.after asked)
    · rw [all transfer held] at bad
      cases bad

/-- A step of a session leaves the receiver of messages from the bus alone. -/
theorem UsbSound.step_bcastArg {dali : UsbDali α} (sound : UsbSound dali) (event : UsbEvent α) :
    (usbStep dali event).bcastArg = dali.bcastArg := by
  -- The broadcast argument is set once by the callback registration.
  cases event with
  | queue frame arg memory submit =>
    simp only [usbStep, usbdaliQueue_eq]
    split
    · exact usbdaliNext_bcastArg ..
    · rfl
  | cancel arg =>
    simp only [usbStep, usbdaliCancel_eq, cancelAll_eq]
  | complete completion args =>
    cases held : dali.context.inflight.find? (·.id = completion.transfer) with
    | none => simp [usbStep, libusbComplete, held]
    | some transfer =>
      rw [sound.usbStep_held held]
      refine (usbdaliNext_bcastArg ..).trans ?_
      have frame := (afterReport_frame args (transferReport dali transfer completion)
        (retire transfer dali)).arg
      cases transfer.endpoint <;> exact frame

/-- A device may be closed after any session. -/
theorem closable_run (submit : Int) (events : List (UsbEvent α)) :
    Closable (run usbStep (usbStart submit) events) := by
  -- Soundness of the session supplies every part but the broadcast argument.
  have kept : ∀ dali event, UsbSound dali ∧ dali.bcastArg = some .server →
      UsbSound (usbStep dali event) ∧ (usbStep dali event : UsbDali α).bcastArg = some .server :=
    fun dali event before => ⟨before.1.step event, (before.1.step_bcastArg event).trans before.2⟩
  obtain ⟨sound, address⟩ := run_invariant kept ⟨usbSound_start submit, rfl⟩ events
  exact ⟨sound.coherent.clean, sound.coherent.recorded, sound.ledger.counted, fun _ => address⟩

end Cancel

end Daliserver

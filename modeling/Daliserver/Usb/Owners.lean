import Daliserver.Usb.Transfers

/-! Who is owed an answer: the callback arguments of the requests that are still pending. -/

namespace Daliserver

variable {α σ : Type}

/-- The active and all queued transactions, in the order of service. -/
def pendingRequests (dali : UsbDali α) : List (UsbDaliTransaction α) :=
  dali.transaction.toList ++ dali.queue

/-- The arguments of the pending requests, in the order of service. -/
def owners (dali : UsbDali α) : List (Option α) := (pendingRequests dali).map (·.arg)

/-- Only the slot and the queue decide who is owed an answer. -/
theorem owners_congr {before after : UsbDali α} (slot : after.transaction = before.transaction)
    (queue : after.queue = before.queue) : owners after = owners before := by
  rw [owners, owners, pendingRequests, pendingRequests, slot, queue]

/-- Deciding what to do next moves a request to the slot at most, where it gets its number. -/
theorem map_pendingRequests_next {β : Type} {select : UsbDaliTransaction α → β}
    (unnumbered : ∀ transaction number, select { transaction with seqNum := number } =
      select transaction) (submit : Int) (dali : UsbDali α) :
    (pendingRequests (usbdaliNext submit dali)).map select = (pendingRequests dali).map select := by
  -- Sending moves the first waiting request to the active place and stamps its number.
  rcases usbdaliNext_cases submit dali with same | ⟨transfer, _, stops⟩ | listens |
    ⟨transaction, rest, free, waiting, sends⟩
  · rw [same]
  · rw [stops]
    rfl
  · rw [listens]
    rfl
  · rw [sends]
    simp [pendingRequests, sending, free, waiting, unnumbered]

/-- Deciding what to do next changes nothing about who is owed an answer. -/
@[simp] theorem owners_next (submit : Int) (dali : UsbDali α) :
    owners (usbdaliNext submit dali) = owners dali :=
  map_pendingRequests_next (fun _ _ => rfl) submit dali

/-- An accepted request is the last one to be answered. -/
theorem owners_enqueued (frame : DaliFrame) (arg : Option α) (dali : UsbDali α) :
    owners (enqueued frame arg dali) = owners dali ++ [arg] := by
  simp [owners, pendingRequests, enqueued, newTransaction]

/-- A request that is queued is owed an answer exactly if there is room and memory for it. -/
theorem owners_queue (memory : Bool) (submit : Int) (frame : DaliFrame) (arg : Option α)
    (dali : UsbDali α) :
    owners (usbdaliQueue memory submit frame arg dali).1 =
      if dali.queue.length < dali.queueSize ∧ memory = true then owners dali ++ [arg]
      else owners dali := by
  -- Scheduling keeps the owners, so only acceptance is seen.
  rw [usbdaliQueue_eq]
  split
  · rw [owners_next, owners_enqueued]
  · exact owners_congr rfl rfl

/-- Releasing the active transaction leaves those who are queued. -/
theorem owners_freed (dali : UsbDali α) :
    owners { usbdaliTransactionFree dali.transaction dali with transaction := none } =
      dali.queue.map (·.arg) := by
  -- The active place is emptied, and freeing does not touch the queue.
  have queue : (usbdaliTransactionFree dali.transaction dali).queue = dali.queue := by
    unfold usbdaliTransactionFree
    split
    · rfl
    · split <;> rfl
  simp [owners, pendingRequests, queue]

/-- At the start nobody is owed anything. -/
@[simp] theorem owners_usbStart (submit : Int) : owners (usbStart submit : UsbDali α) = [] := by
  simp [owners, pendingRequests, usbStart, usbdaliSetInbandCallback, usbdaliSetOutbandCallback, usbdaliOpen_eq,
    receiving, usbdaliNew]

section Cancel

variable [DecidableEq α]

/-- Cancelling an argument means that nobody is told any more. -/
theorem owners_cancel (arg : α) (dali : UsbDali α) :
    owners (usbdaliCancel (some arg) dali) =
      (owners dali).map fun owner => if owner = some arg then none else owner := by
  -- The active request and every waiting one are cleared by the same test.
  have cleared : ∀ transaction : UsbDaliTransaction α, (clearArg arg transaction).arg =
      if transaction.arg = some arg then none else transaction.arg := by
    intro transaction
    unfold clearArg
    split <;> simp_all
  cases active : dali.transaction <;>
    simp [owners, pendingRequests, usbdaliCancel, active, cleared, Function.comp_def]

/-- Whatever is cancelled, nobody becomes an owner by it. -/
theorem owners_cancelAll_subset (args : List (Option α)) (dali : UsbDali α) {owner : α}
    (owed : some owner ∈ owners (cancelAll args dali)) : some owner ∈ owners dali := by
  -- Each cancellation removes owners and adds none.
  unfold cancelAll at owed
  induction args generalizing dali with
  | nil => exact owed
  | cons arg rest ih =>
    have before := ih _ owed
    cases arg with
    | none => exact before
    | some arg =>
      rw [owners_cancel] at before
      obtain ⟨original, member, same⟩ := List.mem_map.mp before
      split at same
      · cases same
      · rwa [same] at member

/-- A cancelled argument is owed nothing. -/
theorem not_mem_owners_cancel (arg : α) (dali : UsbDali α) :
    some arg ∉ owners (usbdaliCancel (some arg) dali) := by
  -- An owner that survives is by the test a different one.
  rw [owners_cancel]
  intro owed
  obtain ⟨original, _, same⟩ := List.mem_map.mp owed
  split at same
  · cases same
  · rename_i other
    exact other same

/-- Cancelling one argument leaves what is owed to others as it was. -/
theorem count_owners_cancel {arg other : α} (apart : other ≠ arg) (dali : UsbDali α) :
    (owners (usbdaliCancel (some arg) dali)).count (some other) =
      (owners dali).count (some other) := by
  rw [owners_cancel]
  induction owners dali with
  | nil => rfl
  | cons owner rest ih =>
    rw [List.map_cons, List.count_cons, List.count_cons, ih]
    congr 1
    -- The head counts on both sides or on neither.
    by_cases cancelled : owner = some arg
    · have differ : ¬ arg = other := fun same => apart same.symm
      simp [cancelled, differ]
    · simp [cancelled]

/-- Makes the report that ends the active transaction, as seen by the whole program. -/
theorem carryOut_finished {handlers : Handlers α σ} {state : UsbDali α × σ}
    {transaction : UsbDaliTransaction α} (active : state.1.transaction = some transaction)
    (alive : ActiveAlive state.1) (req : state.1.reqCallback = true) (error : UsbDaliError)
    (frame : Option DaliFrame) (response status : Nat) :
    (Report.finished error frame response status).carryOut handlers state =
      onDali (fun dali => { usbdaliTransactionFree dali.transaction dali with transaction := none })
        (handlers.reqCallback error (frame.getD transaction.request) response status
          transaction.arg (onDali (·.log (.reqCallback transaction error
            (frame.getD transaction.request) response status)) state)) := by
  -- The transaction is alive, so reading its argument logs nothing.
  have reads : onDali (usbdaliTransactionRead transaction) state = state := by
    simp [onDali, usbdaliTransactionRead, alive transaction active]
  simp only [Report.carryOut, finishTransaction, active, reads, callReq, req, if_true]

end Cancel

end Daliserver

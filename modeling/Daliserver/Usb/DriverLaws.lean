import Daliserver.Usb.Driver

/-! What each operation of the USB layer does, stated once so that no later proof unfolds it. -/

namespace Daliserver

variable {α σ : Type}

@[simp] theorem log_trace (dali : UsbDali α) (effect : UsbEffect α) :
    (dali.log effect).trace = dali.trace ++ [effect] := rfl

/-- What libusb holds after a submission that returned the code. -/
def afterSubmit (code : Int) (transfer : Transfer) (inflight : List Transfer) : List Transfer :=
  if code = 0 then inflight ++ [transfer] else inflight

/-- A submission changes the transfers in flight and the trace, and nothing else. -/
theorem libusbSubmitTransfer_fst (code : Int) (transfer : Transfer) (dali : UsbDali α) :
    (libusbSubmitTransfer code transfer dali).1 =
      { dali with
        context := ⟨afterSubmit code transfer dali.context.inflight, dali.context.allocated⟩
        trace := dali.trace ++ [.submitted transfer (dali.transaction.map (·.id)) code] } := by
  -- The return code decides whether the transfer joins those in flight, not whether it is logged.
  unfold libusbSubmitTransfer afterSubmit
  split <;> rfl

/-- The transfer the next receive allocates. -/
def receiveTransfer (dali : UsbDali α) : Transfer :=
  ⟨dali.context.allocated, .input, List.replicate usbdaliLength 0, false⟩

/-- The device state once a receive has been submitted. -/
def receiving (submit : Int) (dali : UsbDali α) : UsbDali α :=
  { dali with
    context := ⟨afterSubmit submit (receiveTransfer dali) dali.context.inflight,
      dali.context.allocated + 1⟩
    recvTransfer := some dali.context.allocated
    trace := dali.trace ++
      [.submitted (receiveTransfer dali) (dali.transaction.map (·.id)) submit] }

/-- Without an outstanding receive, a new one is submitted. -/
theorem usbdaliReceive_fst (submit : Int) (dali : UsbDali α) (idle : dali.recvTransfer = none) :
    (usbdaliReceive submit dali).1 = receiving submit dali := by
  simp [usbdaliReceive, idle, libusbAllocTransfer, libusbSubmitTransfer_fst, receiving,
    receiveTransfer]

/-- The transfer the next send allocates. -/
def sendTransferOf (transaction : UsbDaliTransaction α) (dali : UsbDali α) : Transfer :=
  ⟨dali.context.allocated, .output, outPacket dali.seqNum transaction.request, false⟩

/-- The device state once a transaction has left the queue and its packet has been submitted. -/
def sending (submit : Int) (transaction : UsbDaliTransaction α)
    (rest : List (UsbDaliTransaction α)) (dali : UsbDali α) : UsbDali α :=
  { dali with
    context := ⟨afterSubmit submit (sendTransferOf transaction dali) dali.context.inflight,
      dali.context.allocated + 1⟩
    sendTransfer := some dali.context.allocated
    transaction := some { transaction with seqNum := dali.seqNum }
    queue := rest
    seqNum := if dali.seqNum = 0xff then 0 else dali.seqNum + 1
    trace := dali.trace ++
      [.submitted (sendTransferOf transaction dali) (some transaction.id) submit] }

/-- While a send is outstanding nothing else is started. -/
theorem usbdaliNext_of_sending (submit : Int) (dali : UsbDali α)
    (busy : dali.sendTransfer ≠ none) : usbdaliNext submit dali = dali := by
  simp [usbdaliNext, busy]

/-- An outstanding receive is left alone, unless requests wait behind it for no reason. -/
theorem usbdaliNext_of_listening (submit : Int) (dali : UsbDali α) {transfer : Nat}
    (quiet : dali.sendTransfer = none) (listening : dali.recvTransfer = some transfer) :
    usbdaliNext submit dali =
      if dali.transaction = none ∧ dali.queue ≠ [] then libusbCancelTransfer transfer dali
      else dali := by
  -- The queue is tested by its length, which is positive exactly when it is not empty.
  cases active : dali.transaction <;>
    simp [usbdaliNext, quiet, listening, active, List.length_pos_iff]

/-- With nothing outstanding and nothing to send, the layer listens. -/
theorem usbdaliNext_receives (submit : Int) (dali : UsbDali α)
    (quiet : dali.sendTransfer = none) (idle : dali.recvTransfer = none)
    (nothing : dali.transaction ≠ none ∨ dali.queue = []) :
    usbdaliNext submit dali = receiving submit dali := by
  -- Both reasons to listen lead to the same receive, through different branches.
  rcases nothing with active | empty
  · have present : dali.transaction.isSome := Option.isSome_iff_ne_none.mpr active
    simp [usbdaliNext, quiet, idle, present, usbdaliReceive_fst submit dali idle]
  · simp [usbdaliNext, quiet, idle, empty, usbdaliReceive_fst submit dali idle]

/-- With nothing outstanding, the request at the head of the queue is sent. -/
theorem usbdaliNext_sends (submit : Int) (dali : UsbDali α)
    {transaction : UsbDaliTransaction α} {rest : List (UsbDaliTransaction α)}
    (quiet : dali.sendTransfer = none) (idle : dali.recvTransfer = none)
    (free : dali.transaction = none) (waiting : dali.queue = transaction :: rest) :
    usbdaliNext submit dali = sending submit transaction rest dali := by
  -- The guard of the send repeats what was just tested, and the packet always fits.
  simp [usbdaliNext, quiet, idle, free, waiting, listDequeue, usbdaliSend, packOut_eq,
    libusbAllocTransfer, libusbSubmitTransfer_fst, sending, sendTransferOf]

/-- While a transfer is on record, the most that happens is that a receive is asked to stop. -/
theorem usbdaliNext_of_occupied (submit : Int) (dali : UsbDali α)
    (occupied : dali.recvTransfer ≠ none ∨ dali.sendTransfer ≠ none) :
    usbdaliNext submit dali = dali ∨
      ∃ transfer, dali.recvTransfer = some transfer ∧
        usbdaliNext submit dali = libusbCancelTransfer transfer dali := by
  cases send : dali.sendTransfer with
  | some transfer => exact .inl (usbdaliNext_of_sending submit dali (by simp [send]))
  | none =>
    obtain ⟨transfer, recv⟩ := Option.ne_none_iff_exists'.mp (occupied.resolve_right (· send))
    rw [usbdaliNext_of_listening submit dali send recv]
    split
    · exact .inr ⟨transfer, recv, rfl⟩
    · exact .inl rfl

/-- The four things the layer can do next. -/
theorem usbdaliNext_cases (submit : Int) (dali : UsbDali α) :
    usbdaliNext submit dali = dali ∨
    (∃ transfer, dali.recvTransfer = some transfer ∧
      usbdaliNext submit dali = libusbCancelTransfer transfer dali) ∨
    usbdaliNext submit dali = receiving submit dali ∨
    ∃ transaction rest, dali.transaction = none ∧ dali.queue = transaction :: rest ∧
      usbdaliNext submit dali = sending submit transaction rest dali := by
  -- First whether a transfer is outstanding, then whether there is anything to send.
  by_cases occupied : dali.recvTransfer ≠ none ∨ dali.sendTransfer ≠ none
  · rcases usbdaliNext_of_occupied submit dali occupied with same | stops
    · exact .inl same
    · exact .inr (.inl stops)
  · push Not at occupied
    by_cases listen : dali.transaction ≠ none ∨ dali.queue = []
    · exact .inr (.inr (.inl (usbdaliNext_receives submit dali occupied.2 occupied.1 listen)))
    · push Not at listen
      obtain ⟨transaction, rest, waiting⟩ := List.exists_cons_of_ne_nil listen.2
      exact .inr (.inr (.inr ⟨transaction, rest, listen.1, waiting,
        usbdaliNext_sends submit dali occupied.2 occupied.1 listen.1 waiting⟩))

/-- The transaction a request becomes. -/
def newTransaction (frame : DaliFrame) (arg : Option α) (dali : UsbDali α) :
    UsbDaliTransaction α := ⟨dali.transactions, 0, frame, arg⟩

/-- The device state once a request has joined the queue. -/
def enqueued (frame : DaliFrame) (arg : Option α) (dali : UsbDali α) : UsbDali α :=
  { dali with
    transactions := dali.transactions + 1
    queue := dali.queue ++ [newTransaction frame arg dali]
    trace := dali.trace ++ [.accepted (newTransaction frame arg dali)] }

/-- A request is accepted exactly when there is room and memory for it. -/
theorem usbdaliQueue_eq (memory : Bool) (submit : Int) (frame : DaliFrame) (arg : Option α)
    (dali : UsbDali α) :
    usbdaliQueue memory submit frame arg dali =
      if dali.queue.length < dali.queueSize ∧ memory = true then
        (usbdaliNext submit (enqueued frame arg dali), .success)
      else (dali.log (.rejected frame .queueFull), .queueFull) := by
  -- A full queue and a failed allocation are told apart by no caller.
  by_cases room : dali.queue.length < dali.queueSize
  · cases memory with
    | false => simp [usbdaliQueue, room, usbdaliTransactionNew]
    | true => simp [usbdaliQueue, room, usbdaliTransactionNew, enqueued, newTransaction, UsbDali.log]
  · simp [usbdaliQueue, room]

section Cancel

variable [DecidableEq α]

/-- Clears every one of several arguments. -/
def clearArgs (args : List (Option α)) (transaction : UsbDaliTransaction α) :
    UsbDaliTransaction α :=
  args.foldl (fun transaction arg => match arg with
    | none => transaction
    | some arg => clearArg arg transaction) transaction

@[simp] theorem clearArg_id (arg : α) (transaction : UsbDaliTransaction α) :
    (clearArg arg transaction).id = transaction.id := by
  unfold clearArg; split <;> rfl

@[simp] theorem clearArg_request (arg : α) (transaction : UsbDaliTransaction α) :
    (clearArg arg transaction).request = transaction.request := by
  unfold clearArg; split <;> rfl

@[simp] theorem clearArg_seqNum (arg : α) (transaction : UsbDaliTransaction α) :
    (clearArg arg transaction).seqNum = transaction.seqNum := by
  unfold clearArg; split <;> rfl

/-- Cancelling never touches anything of a transaction but its argument. -/
theorem clearArgs_fields (args : List (Option α)) (transaction : UsbDaliTransaction α) :
    (clearArgs args transaction).id = transaction.id ∧
      (clearArgs args transaction).request = transaction.request ∧
      (clearArgs args transaction).seqNum = transaction.seqNum := by
  -- Clearing writes the argument only, once for each name in the list.
  unfold clearArgs
  induction args generalizing transaction with
  | nil => exact ⟨rfl, rfl, rfl⟩
  | cons arg rest ih =>
    cases arg with
    | none => exact ih transaction
    | some arg => simpa using ih (clearArg arg transaction)

@[simp] theorem clearArgs_id (args : List (Option α)) (transaction : UsbDaliTransaction α) :
    (clearArgs args transaction).id = transaction.id := (clearArgs_fields args transaction).1

@[simp] theorem clearArgs_request (args : List (Option α)) (transaction : UsbDaliTransaction α) :
    (clearArgs args transaction).request = transaction.request :=
  (clearArgs_fields args transaction).2.1

@[simp] theorem clearArgs_seqNum (args : List (Option α)) (transaction : UsbDaliTransaction α) :
    (clearArgs args transaction).seqNum = transaction.seqNum :=
  (clearArgs_fields args transaction).2.2

/-- Cancelling rewrites arguments in the slot and in the queue, and changes nothing else. -/
theorem cancelAll_eq (args : List (Option α)) (dali : UsbDali α) :
    cancelAll args dali =
      { dali with
        transaction := dali.transaction.map (clearArgs args)
        queue := dali.queue.map (clearArgs args) } := by
  -- One cancellation maps over the transactions, and maps compose.
  unfold cancelAll
  induction args generalizing dali with
  | nil =>
    have same : clearArgs (α := α) [] = id := rfl
    simp [same]
  | cons arg rest ih =>
    rw [List.foldl_cons, ih]
    cases arg with
    | none => rfl
    | some arg =>
      have next : clearArgs (some arg :: rest) = clearArgs rest ∘ clearArg arg := rfl
      simp [usbdaliCancel, next]

/-- What a completed transfer leads to. -/
inductive Report where
  | silent
  | broadcast (error : UsbDaliError) (frame : Option DaliFrame) (status : Nat)
  | finished (error : UsbDaliError) (frame : Option DaliFrame) (response status : Nat)
deriving DecidableEq, Repr

/-- What a received packet means while a transaction is active or none is. -/
def packetReport (active : Option (UsbDaliTransaction α)) (received : Bytes) : Report :=
  match unpackIn received with
  -- Packets that do not unpack are dropped.
  | none => .silent
  | some message =>
    -- Traffic seen on the bus goes to everybody, whether or not a transaction is active.
    if message.direction = directionDali then
      if message.type = typeComplete then
        .broadcast .success (some (daliframeNew message.address message.command)) message.status
      else if message.type = typeBroadcast then
        .broadcast .success
          (some (daliframeEnew message.ecommand message.address message.command)) message.status
      else .silent
    else if message.direction = directionUsb then
      match active with
      | none => .silent
      | some transaction =>
        -- An answer to an earlier request carries an earlier sequence number and is dropped.
        if transaction.seqNum = message.seqnum.toNat then
          if message.type = typeNoResponse then
            .finished .success (some (daliframeNew message.address message.command)) 0xff
              message.status
          else if message.type = typeResponse then
            .finished .response (some (daliframeNew message.address message.command))
              message.command.toNat message.status
          else .silent
        else .silent
    else .silent

/-- What the completion of a receive transfer means. -/
def receiveReport (active : Option (UsbDaliTransaction α)) (status : TransferStatus)
    (received : Bytes) : Report :=
  match status with
  | .completed => packetReport active received
  | .timedOut => if active.isSome then .finished .receiveTimeout none 0xff 0xffff else .silent
  -- The source leaves open what a cancelled receive means to an active transaction.
  | .cancelled => .silent
  | .error | .stall | .noDevice | .overflow =>
    if active.isSome then .finished .receiveError none 0xff 0xffff
    -- The broadcast carries no frame.
    else .broadcast .receiveError none 0xffff

/-- What the completion of a send transfer means. -/
def sendReport (status : TransferStatus) : Report :=
  match status with
  -- A completed send waits for its answer, and the transaction stays active.
  | .completed | .cancelled => .silent
  | .timedOut => .finished .sendTimeout none 0xff 0xffff
  | .error | .stall | .noDevice | .overflow => .finished .sendError none 0xff 0xffff

/-- Makes the callbacks that a report asks for. -/
def Report.carryOut (handlers : Handlers α σ) (report : Report) (state : UsbDali α × σ) :
    UsbDali α × σ :=
  match report with
  | .silent => state
  | .broadcast error frame status => callBcast handlers error frame status state
  | .finished error frame response status =>
    finishTransaction handlers error frame response status state

/-- The active transaction, if there is one, has not been released. -/
def ActiveAlive (dali : UsbDali α) : Prop :=
  ∀ transaction, dali.transaction = some transaction → transaction.id ∉ dali.freed

/-- The receive branches decide on a report first and carry it out after that. -/
theorem usbdaliReceiveOutcome_eq (handlers : Handlers α σ) (status : TransferStatus)
    (received : Bytes) (state : UsbDali α × σ) (alive : ActiveAlive state.1) :
    usbdaliReceiveOutcome handlers status received state =
      (receiveReport state.1.transaction status received).carryOut handlers state := by
  cases status with
  | completed =>
    simp only [usbdaliReceiveOutcome, usbdaliReceiveCompleted, receiveReport, packetReport]
    cases decoded : unpackIn received with
    | none => rfl
    | some message =>
      dsimp only
      split
      · split
        · rfl
        · split <;> rfl
      · split
        · cases active : state.1.transaction with
          | none => rfl
          | some transaction =>
            -- Reading the sequence number is no fault, because the transaction is alive.
            have reads : onDali (usbdaliTransactionRead transaction) state = state := by
              simp [onDali, usbdaliTransactionRead, alive transaction active]
            simp only [reads]
            split
            · split
              · rfl
              · split <;> rfl
            · rfl
        · rfl
  | timedOut =>
    simp only [usbdaliReceiveOutcome, receiveReport]
    split <;> rfl
  | cancelled => rfl
  | error | stall | noDevice | overflow =>
    simp only [usbdaliReceiveOutcome, receiveReport]
    split <;> rfl

/-- The send branches decide on a report first and carry it out after that. -/
theorem usbdaliSendOutcome_eq (handlers : Handlers α σ) (status : TransferStatus)
    (state : UsbDali α × σ) :
    usbdaliSendOutcome handlers status state = (sendReport status).carryOut handlers state := by
  cases status <;> rfl

/-- The device state after a report, when the callbacks cancel the given arguments. -/
def afterReport (args : List (Option α)) (report : Report) (dali : UsbDali α) : UsbDali α :=
  match report with
  | .silent => dali
  | .broadcast error frame status =>
    cancelAll args (dali.log (.bcastCallback error frame status dali.bcastArg))
  | .finished error frame response status =>
    match dali.transaction with
    -- The source would read the argument through a null pointer here.
    | none => dali.log (.fault .nullTransaction)
    | some transaction =>
      -- The callback runs before the transaction is freed, so its cancellations still see it.
      { cancelAll args (dali.log (.reqCallback transaction error
          (frame.getD transaction.request) response status)) with
        transaction := none
        freed := dali.freed ++ [transaction.id] }

/-- Seen from the device, carrying out a report is a trace entry and some cancellations. -/
theorem carryOut_fst (handlers : Handlers α σ) (report : Report) (state : UsbDali α × σ)
    (req : state.1.reqCallback = true) (bcast : state.1.bcastCallback = true)
    (alive : ActiveAlive state.1) :
    ∃ args, (report.carryOut handlers state).1 = afterReport args report state.1 := by
  cases report with
  | silent => exact ⟨[], rfl⟩
  | broadcast error frame status =>
    simp only [Report.carryOut, callBcast, bcast, if_true, afterReport]
    exact handlers.bcastCancels error frame status state.1.bcastArg _
  | finished error frame response status =>
    cases active : state.1.transaction with
    | none => exact ⟨[], by simp [Report.carryOut, finishTransaction, afterReport, active, onDali]⟩
    | some transaction =>
      have reads : onDali (usbdaliTransactionRead transaction) state = state := by
        simp [onDali, usbdaliTransactionRead, alive transaction active]
      obtain ⟨args, cancels⟩ := handlers.reqCancels error (frame.getD transaction.request)
        response status transaction.arg (onDali (·.log (.reqCallback transaction error
          (frame.getD transaction.request) response status)) state)
      refine ⟨args, ?_⟩
      -- The slot still holds the same transaction after the callback, so it is the one released.
      have released := alive transaction active
      simp only [Report.carryOut, finishTransaction, active, reads, callReq, req, if_true]
      simp only [onDali] at cancels ⊢
      rw [cancels]
      simp [afterReport, active, cancelAll_eq, UsbDali.log, usbdaliTransactionFree, released]

/-- A report carried out by callbacks that only cancel. -/
theorem carryOut_cancelling (args : List (Option α)) (report : Report) (dali : UsbDali α)
    (req : dali.reqCallback = true) (bcast : dali.bcastCallback = true)
    (alive : ActiveAlive dali) :
    (report.carryOut (cancelling args) (dali, ())).1 = afterReport args report dali := by
  -- The callbacks are set and the transaction is alive, so neither log of a fault is taken.
  cases report with
  | silent => rfl
  | broadcast error frame status =>
    simp [Report.carryOut, callBcast, bcast, afterReport, cancelling, onDali]
  | finished error frame response status =>
    cases active : dali.transaction with
    | none => simp [Report.carryOut, finishTransaction, afterReport, active, onDali]
    | some transaction =>
      have released := alive transaction active
      simp [Report.carryOut, finishTransaction, active, callReq, req, onDali, cancelling,
        usbdaliTransactionRead, released, afterReport, cancelAll_eq, UsbDali.log,
        usbdaliTransactionFree]

section Related

variable {handlers : Handlers α σ} {related : σ → σ → Prop}

/-- What holds between the program before and after any callback. -/
structure Handlers.Respect (handlers : Handlers α σ) (related : σ → σ → Prop) : Prop where
  same : ∀ state, related state state
  req : ∀ error frame response status arg state,
    related state.2 (handlers.reqCallback error frame response status arg state).2
  bcast : ∀ error frame status arg state,
    related state.2 (handlers.bcastCallback error frame status arg state).2

/-- A call through either pointer is one callback at most. -/
theorem Handlers.Respect.call (respect : handlers.Respect related) (state : UsbDali α × σ) :
    (∀ transaction error frame response status,
      related state.2 (callReq handlers transaction error frame response status state).2) ∧
    ∀ error frame status, related state.2 (callBcast handlers error frame status state).2 := by
  -- A missing callback changes nothing outside the device, and a present one is the handler's own.
  refine ⟨fun transaction error frame response status => ?_, fun error frame status => ?_⟩
  · unfold callReq
    split
    · exact respect.req _ _ _ _ _ (onDali (·.log (.reqCallback transaction error frame response
        status)) state)
    · exact respect.same _
  · unfold callBcast
    split
    · exact respect.bcast _ _ _ _ (onDali (fun dali => dali.log (.bcastCallback error frame status
        dali.bcastArg)) state)
    · exact respect.same _

/-- Finishing a transaction makes one callback at most. -/
theorem Handlers.Respect.finish (respect : handlers.Respect related) (error : UsbDaliError)
    (frame : Option DaliFrame) (response status : Nat) (state : UsbDali α × σ) :
    related state.2 (finishTransaction handlers error frame response status state).2 := by
  -- Freeing the transaction happens on the device side, which the relation does not see.
  unfold finishTransaction
  split
  · exact respect.same _
  · rename_i transaction _
    exact (respect.call (onDali (usbdaliTransactionRead transaction) state)).1 _ _ _ _ _

/-- So does the outcome of a receive. -/
theorem Handlers.Respect.receive (respect : handlers.Respect related) (status : TransferStatus)
    (received : Bytes) (state : UsbDali α × σ) :
    related state.2 (usbdaliReceiveOutcome handlers status received state).2 := by
  have bcast := (respect.call state).2
  cases status with
  | completed =>
    simp only [usbdaliReceiveOutcome, usbdaliReceiveCompleted]
    cases unpackIn received with
    | none => exact respect.same _
    | some message =>
      dsimp only
      split
      · split
        · exact bcast ..
        · split
          · exact bcast ..
          · exact respect.same _
      · split
        · cases state.1.transaction with
          | none => exact respect.same _
          | some transaction =>
            -- Reading the transaction is the device's own business.
            have read : ∀ error frame response status, related state.2
                (finishTransaction handlers error frame response status
                  (onDali (usbdaliTransactionRead transaction) state)).2 :=
              fun error frame response status => respect.finish error frame response status
                (onDali (usbdaliTransactionRead transaction) state)
            dsimp only
            split
            · split
              · exact read ..
              · split
                · exact read ..
                · exact respect.same _
            · exact respect.same _
        · exact respect.same _
  | timedOut =>
    simp only [usbdaliReceiveOutcome]
    split
    · exact respect.finish ..
    · exact respect.same _
  | cancelled => exact respect.same _
  | error | stall | noDevice | overflow =>
    simp only [usbdaliReceiveOutcome]
    split
    · exact respect.finish ..
    · exact bcast ..

/-- So does the completion of any transfer. -/
theorem Handlers.Respect.complete (respect : handlers.Respect related) (completion : Completion)
    (state : UsbDali α × σ) :
    related state.2 (libusbComplete handlers completion state).2 := by
  unfold libusbComplete
  split
  · exact respect.same _
  · rename_i transfer held
    dsimp only
    split
    · -- Clearing the slot and going on do not concern the rest of the program.
      unfold usbdaliReceiveCallback
      dsimp only
      split
      all_goals
        exact respect.receive _ _ (onDali (retire transfer) state)
    · unfold usbdaliSendCallback
      have sent : related state.2
          (usbdaliSendOutcome handlers completion.status (onDali (retire transfer) state)).2 := by
        unfold usbdaliSendOutcome
        split
        · exact respect.same _
        · exact respect.finish _ _ _ _ (onDali (retire transfer) state)
        · exact respect.same _
        all_goals exact respect.finish _ _ _ _ (onDali (retire transfer) state)
      dsimp only
      split
      all_goals exact sent

end Related

end Cancel

end Daliserver

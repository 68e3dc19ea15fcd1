import Daliserver.Usb.Device

/-! The request state machine of the USB layer, from the queue to the completion callbacks (usb.c). -/

namespace Daliserver

variable {α σ : Type}

/-- Records something the layer did. -/
def UsbDali.log (dali : UsbDali α) (effect : UsbEffect α) : UsbDali α :=
  { dali with trace := dali.trace ++ [effect] }

/-- Applies a change of the device state, leaving the rest of the program alone. -/
def onDali (change : UsbDali α → UsbDali α) (state : UsbDali α × σ) : UsbDali α × σ :=
  (change state.1, state.2)

/-- Removes the first element of a queue. -/
def listDequeue {β : Type} : List β → Option β × List β
  | [] => (none, [])
  | head :: rest => (some head, rest)

/-- `libusb_alloc_transfer` and `libusb_fill_interrupt_transfer`. -/
def libusbAllocTransfer (endpoint : Endpoint) (buffer : Bytes) (dali : UsbDali α) :
    Transfer × UsbDali α :=
  (⟨dali.context.allocated, endpoint, buffer, false⟩,
    { dali with context := { dali.context with allocated := dali.context.allocated + 1 } })

/-- `libusb_submit_transfer`: a transfer is in flight only if the call returns LIBUSB_SUCCESS. -/
def libusbSubmitTransfer (code : Int) (transfer : Transfer) (dali : UsbDali α) :
    UsbDali α × Int :=
  let dali := dali.log (.submitted transfer (dali.transaction.map (·.id)) code)
  -- A refused transfer never reaches the bus, and no callback will ever report it.
  if code = 0 then
    ({ dali with context :=
        { dali.context with inflight := dali.context.inflight ++ [transfer] } }, code)
  else (dali, code)

/-- `libusb_cancel_transfer`: only asks, and the transfer stays in flight until its callback. -/
def libusbCancelTransfer (id : Nat) (dali : UsbDali α) : UsbDali α :=
  let dali := dali.log (.cancelled id)
  { dali with context := { dali.context with
      inflight := dali.context.inflight.map fun transfer =>
        if transfer.id = id then { transfer with cancelRequested := true } else transfer } }

/-- Cancels the transfer in a slot, if there is one. -/
def cancelSlot (slot : Option Nat) (dali : UsbDali α) : UsbDali α :=
  match slot with
  | some transfer => libusbCancelTransfer transfer dali
  | none => dali

/-- A new transaction, or NULL when there is no memory for it. -/
def usbdaliTransactionNew (memory : Bool) (request : DaliFrame) (arg : Option α)
    (dali : UsbDali α) : Option (UsbDaliTransaction α) × UsbDali α :=
  -- The sequence number stays zero until the transaction is sent.
  if memory then
    (some ⟨dali.transactions, 0, request, arg⟩,
      { dali with transactions := dali.transactions + 1 })
  else (none, dali)

/-- Releases a transaction, where NULL is ignored. -/
def usbdaliTransactionFree (transaction : Option (UsbDaliTransaction α)) (dali : UsbDali α) :
    UsbDali α :=
  match transaction with
  | none => dali
  | some transaction =>
    if transaction.id ∈ dali.freed then dali.log (.fault (.doubleFree transaction.id))
    else { dali with freed := dali.freed ++ [transaction.id] }

/-- Reading a field of a transaction is a fault once it was released. -/
def usbdaliTransactionRead (transaction : UsbDaliTransaction α) (dali : UsbDali α) : UsbDali α :=
  if transaction.id ∈ dali.freed then dali.log (.fault (.freedTransaction transaction.id))
  else dali

/-- Starts a receive transfer unless there is one already. -/
def usbdaliReceive (submit : Int) (dali : UsbDali α) : UsbDali α × Int :=
  if dali.recvTransfer.isNone then
    let (transfer, dali) := libusbAllocTransfer .input (List.replicate usbdaliLength 0) dali
    libusbSubmitTransfer submit transfer { dali with recvTransfer := some transfer.id }
  -- A receive is already outstanding, so the call fails and changes nothing.
  else (dali, -1)

/-- Makes a transaction the active one and sends its packet. -/
def usbdaliSend (submit : Int) (transaction : UsbDaliTransaction α) (dali : UsbDali α) :
    UsbDali α × Int :=
  if dali.sendTransfer.isNone ∧ dali.transaction.isNone then
    match packOut dali.seqNum transaction.request with
    | none => (dali, -1)
    | some buffer =>
      let dali := { dali with transaction := some { transaction with seqNum := dali.seqNum } }
      -- The counter wraps after the last byte value.
      let dali := { dali with seqNum := if dali.seqNum = 0xff then 0 else dali.seqNum + 1 }
      let (transfer, dali) := libusbAllocTransfer .output buffer dali
      libusbSubmitTransfer submit transfer { dali with sendTransfer := some transfer.id }
  else (dali.log (.fault (.sendRejected transaction.id)), -1)

/-- Decides what to do next: send, receive, stop an idle receive, or wait. -/
def usbdaliNext (submit : Int) (dali : UsbDali α) : UsbDali α :=
  if dali.sendTransfer.isNone then
    if dali.transaction.isSome then
      -- The answer to a sent request is still to come, so listen for it.
      if dali.recvTransfer.isNone then (usbdaliReceive submit dali).1 else dali
    else if dali.queue.length > 0 then
      match dali.recvTransfer with
      -- An idle receive gives way to a waiting request, which is sent when it has stopped.
      | some transfer => libusbCancelTransfer transfer dali
      | none =>
        match listDequeue dali.queue with
        | (some transaction, rest) => (usbdaliSend submit transaction { dali with queue := rest }).1
        -- The branch of the warning: a nonempty queue that yields nothing.
        | (none, _) => (usbdaliReceive submit dali).1
    -- With nothing to do the device listens for traffic on the bus.
    else if dali.recvTransfer.isNone then (usbdaliReceive submit dali).1
    else dali
  else dali

/-- Enqueues a request for the device. The handle is not NULL where this is called. -/
def usbdaliQueue (memory : Bool) (submit : Int) (frame : DaliFrame) (cbarg : Option α)
    (dali : UsbDali α) : UsbDali α × UsbDaliError :=
  if dali.queue.length < dali.queueSize then
    match usbdaliTransactionNew memory frame cbarg dali with
    | (some transaction, dali) =>
      let dali := { dali with queue := dali.queue ++ [transaction] }
      (usbdaliNext submit (dali.log (.accepted transaction)), .success)
    -- Failed allocations are reported with the error of a full queue.
    | (none, dali) => (dali.log (.rejected frame .queueFull), .queueFull)
  else (dali.log (.rejected frame .queueFull), .queueFull)

section Cancel

variable [DecidableEq α]

/-- Clears the argument of a transaction that carries the given one. -/
def clearArg (arg : α) (transaction : UsbDaliTransaction α) : UsbDaliTransaction α :=
  if transaction.arg = some arg then { transaction with arg := none } else transaction

/-- Forgets a callback argument in the active and in all queued transactions. -/
def usbdaliCancel (arg : Option α) (dali : UsbDali α) : UsbDali α :=
  match arg with
  -- Requests without an argument belong to nobody, and a null argument cancels none of them.
  | none => dali
  | some arg =>
    { dali with
      transaction := dali.transaction.map (clearArg arg)
      queue := dali.queue.map (clearArg arg) }

/-- Forgets several callback arguments, one after the other. -/
def cancelAll (args : List (Option α)) (dali : UsbDali α) : UsbDali α :=
  args.foldl (fun dali arg => usbdaliCancel arg dali) dali

/--
The callbacks the program installs, with the rest of the program as state.

The only way in which one may reach back into the device is `usbdali_cancel`.
-/
structure Handlers (α σ : Type) [DecidableEq α] where
  reqCallback : UsbDaliError → DaliFrame → Nat → Nat → Option α → UsbDali α × σ → UsbDali α × σ
  bcastCallback : UsbDaliError → Option DaliFrame → Nat → Option ServerPtr →
    UsbDali α × σ → UsbDali α × σ
  reqCancels : ∀ error frame response status arg state,
    ∃ args, (reqCallback error frame response status arg state).1 = cancelAll args state.1
  bcastCancels : ∀ error frame status arg state,
    ∃ args, (bcastCallback error frame status arg state).1 = cancelAll args state.1

/-- Callbacks that do nothing but cancel: all a callback can do as seen from the device. -/
def cancelling (args : List (Option α)) : Handlers α Unit where
  reqCallback _ _ _ _ _ state := onDali (cancelAll args) state
  bcastCallback _ _ _ _ state := onDali (cancelAll args) state
  reqCancels _ _ _ _ _ _ := ⟨args, rfl⟩
  bcastCancels _ _ _ _ _ := ⟨args, rfl⟩

variable (handlers : Handlers α σ)

/-- A call through `dali->req_callback` for a transaction. -/
def callReq (transaction : UsbDaliTransaction α) (error : UsbDaliError) (frame : DaliFrame)
    (response status : Nat) (state : UsbDali α × σ) : UsbDali α × σ :=
  if state.1.reqCallback then
    handlers.reqCallback error frame response status transaction.arg
      (onDali (·.log (.reqCallback transaction error frame response status)) state)
  -- The source calls the pointer unchecked, so a missing callback is a fault.
  else onDali (·.log (.fault .nullReqCallback)) state

/-- A call through `dali->bcast_callback`. -/
def callBcast (error : UsbDaliError) (frame : Option DaliFrame) (status : Nat)
    (state : UsbDali α × σ) : UsbDali α × σ :=
  if state.1.bcastCallback then
    handlers.bcastCallback error frame status state.1.bcastArg
      (onDali (fun dali => dali.log (.bcastCallback error frame status dali.bcastArg)) state)
  -- The broadcast callback is called unchecked as well.
  else onDali (·.log (.fault .nullBcastCallback)) state

/--
Reports the active transaction, releases it, and empties the slot.

The five branches that end a transaction share this sequence of statements.
The frame is the request itself where an error is reported.
-/
def finishTransaction (error : UsbDaliError) (frame : Option DaliFrame) (response status : Nat)
    (state : UsbDali α × σ) : UsbDali α × σ :=
  match state.1.transaction with
  | none => onDali (·.log (.fault .nullTransaction)) state
  | some transaction =>
    let state := onDali (usbdaliTransactionRead transaction) state
    let state := callReq handlers transaction error (frame.getD transaction.request)
      response status state
    -- The callback may have cleared the argument, so the slot is read again.
    onDali (fun dali =>
      { usbdaliTransactionFree dali.transaction dali with transaction := none }) state

/-- Handles a packet received from the adapter. -/
def usbdaliReceiveCompleted (received : Bytes) (state : UsbDali α × σ) : UsbDali α × σ :=
  match unpackIn received with
  | none => state
  | some message =>
    if message.direction = directionDali then
      if message.type = typeComplete then
        callBcast handlers .success (some (daliframeNew message.address message.command))
          message.status state
      else if message.type = typeBroadcast then
        callBcast handlers .success
          (some (daliframeEnew message.ecommand message.address message.command))
          message.status state
      else state
    else if message.direction = directionUsb then
      match state.1.transaction with
      | none => state
      | some transaction =>
        let state := onDali (usbdaliTransactionRead transaction) state
        if transaction.seqNum = message.seqnum.toNat then
          if message.type = typeNoResponse then
            finishTransaction handlers .success
              (some (daliframeNew message.address message.command)) 0xff message.status state
          else if message.type = typeResponse then
            finishTransaction handlers .response
              (some (daliframeNew message.address message.command)) message.command.toNat
              message.status state
          -- A completion notice is not checked, and other types are unknown.
          else state
        else state
    else state

/-- Handles the outcome of a receive transfer, before the transfer itself is released. -/
def usbdaliReceiveOutcome (status : TransferStatus) (received : Bytes)
    (state : UsbDali α × σ) : UsbDali α × σ :=
  match status with
  | .completed => usbdaliReceiveCompleted handlers received state
  -- A timeout outside of a transaction is the normal end of an idle receive.
  | .timedOut =>
    if state.1.transaction.isSome then
      finishTransaction handlers .receiveTimeout none 0xff 0xffff state
    else state
  -- A cancelled receive reports nothing, even when a transaction is active.
  | .cancelled => state
  | .error | .stall | .noDevice | .overflow =>
    if state.1.transaction.isSome then
      finishTransaction handlers .receiveError none 0xff 0xffff state
    -- Without a transaction the error concerns nobody in particular and is broadcast.
    else callBcast handlers .receiveError none 0xffff state

/-- The completion callback of receive transfers. -/
def usbdaliReceiveCallback (submit : Int) (transfer : Transfer) (status : TransferStatus)
    (received : Bytes) (state : UsbDali α × σ) : UsbDali α × σ :=
  let state := usbdaliReceiveOutcome handlers status received state
  let state := onDali (fun dali =>
    -- A transfer that is not the recorded one is complained about, and the slot is cleared all the
    -- same.
    let dali := if dali.recvTransfer ≠ some transfer.id ∧ dali.recvTransfer ≠ none then
      dali.log (.fault .invalidReceiveTransfer) else dali
    { dali with recvTransfer := none }) state
  -- Closing must not start another transfer.
  if state.1.shutdown then state else onDali (usbdaliNext submit) state

/-- Handles the outcome of a send transfer, before the transfer itself is released. -/
def usbdaliSendOutcome (status : TransferStatus) (state : UsbDali α × σ) : UsbDali α × σ :=
  match status with
  | .completed => state
  -- Neither error branch checks whether there is a transaction.
  | .timedOut => finishTransaction handlers .sendTimeout none 0xff 0xffff state
  | .cancelled => state
  | .error | .stall | .noDevice | .overflow =>
    finishTransaction handlers .sendError none 0xff 0xffff state

/-- The completion callback of send transfers. -/
def usbdaliSendCallback (submit : Int) (transfer : Transfer) (status : TransferStatus)
    (state : UsbDali α × σ) : UsbDali α × σ :=
  let state := usbdaliSendOutcome handlers status state
  let state := onDali (fun dali =>
    -- The same complaint as for receives, for the other slot.
    let dali := if dali.sendTransfer ≠ some transfer.id ∧ dali.sendTransfer ≠ none then
      dali.log (.fault .invalidSendTransfer) else dali
    { dali with sendTransfer := none }) state
  if state.1.shutdown then state else onDali (usbdaliNext submit) state

/--
The completion of one transfer, with what libusb reports for it.

The code is what `libusb_submit_transfer` returns, should the callback submit the next transfer.
-/
structure Completion where
  transfer : Nat
  status : TransferStatus
  received : Bytes
  submit : Int
deriving DecidableEq, Repr

/-- libusb no longer holds a transfer it is about to call back. -/
def retire (transfer : Transfer) (dali : UsbDali α) : UsbDali α :=
  { dali with context :=
      { dali.context with inflight := dali.context.inflight.erase transfer } }

/-- libusb retires a transfer in flight and calls it back. It calls back no other transfer. -/
def libusbComplete (completion : Completion) (state : UsbDali α × σ) : UsbDali α × σ :=
  match state.1.context.inflight.find? (·.id = completion.transfer) with
  -- Only a transfer that libusb holds can complete.
  | none => state
  | some transfer =>
    -- libusb has let go of the transfer before its callback runs.
    let state := onDali (retire transfer) state
    match transfer.endpoint with
    | .input => usbdaliReceiveCallback handlers completion.submit transfer completion.status
        completion.received state
    | .output => usbdaliSendCallback handlers completion.submit transfer completion.status state

/-- `libusb_handle_events_timeout` calls back whatever transfers have completed by now. -/
def libusbHandleEvents (completions : List Completion) (state : UsbDali α × σ) :
    UsbDali α × σ :=
  completions.foldl (fun state completion => libusbComplete handlers completion state) state

/-- Releases everything and gives outstanding transfers a last chance to complete. -/
def usbdaliClose (completions : List Completion) (state : UsbDali α × σ) : UsbDali α × σ :=
  let state := onDali (fun dali => { dali with shutdown := true }) state
  -- `list_free` releases the queued transactions in order.
  let state := onDali (fun dali =>
    { dali.queue.foldl (fun dali transaction => usbdaliTransactionFree (some transaction) dali)
        dali with queue := [] }) state
  -- The slot keeps pointing to the released transaction.
  let state := onDali (fun dali => usbdaliTransactionFree dali.transaction dali) state
  let state := onDali (fun dali => cancelSlot dali.recvTransfer dali) state
  let state := onDali (fun dali => cancelSlot dali.sendTransfer dali) state
  libusbHandleEvents handlers completions state

end Cancel

/-- The state built by `usbdali_open` before it starts the first receive. -/
def usbdaliNew : UsbDali α where
  context := ⟨[], 0⟩
  recvTransfer := none
  sendTransfer := none
  transaction := none
  -- The queue limit of a device that nobody configured.
  queueSize := defaultQueuesize
  queue := []
  -- Sequence numbers start at one and run through zero only after wrapping.
  seqNum := 1
  reqCallback := false
  bcastCallback := false
  bcastArg := none
  shutdown := false
  transactions := 0
  freed := []
  trace := []

/-- A device that was opened successfully is listening already. -/
def usbdaliOpen (submit : Int) : UsbDali α := usbdaliNext submit usbdaliNew

/-- Installs the out of band callback. -/
def usbdaliSetOutbandCallback (arg : Option ServerPtr) (dali : UsbDali α) : UsbDali α :=
  { dali with bcastCallback := true, bcastArg := arg }

/-- Installs the in band callback. -/
def usbdaliSetInbandCallback (dali : UsbDali α) : UsbDali α :=
  { dali with reqCallback := true }

end Daliserver

import Daliserver.Machine.Run
import Daliserver.Usb.DriverLaws

/-! Sessions of an open device: any interleaving of requests, cancellations, and completions. -/

namespace Daliserver

variable {α σ : Type} [DecidableEq α]

/-- What can happen to an open device until it is closed. -/
inductive UsbEvent (α : Type) where
  -- A request, with what `malloc` and `libusb_submit_transfer` answer on the way.
  | queue (frame : DaliFrame) (cbarg : Option α) (memory : Bool) (submit : Int)
  | cancel (arg : Option α)
  -- A completion, during whose callback the program may cancel some arguments.
  | complete (completion : Completion) (cancels : List (Option α))
deriving DecidableEq, Repr

/-- Handles one event. -/
def usbStep (dali : UsbDali α) : UsbEvent α → UsbDali α
  | .queue frame cbarg memory submit => (usbdaliQueue memory submit frame cbarg dali).1
  | .cancel arg => usbdaliCancel arg dali
  | .complete completion cancels => (libusbComplete (cancelling cancels) completion (dali, ())).1

/-- The device as `main` prepares it: opened, listening, and with both callbacks installed. -/
def usbStart (submit : Int) : UsbDali α :=
  usbdaliSetInbandCallback (usbdaliSetOutbandCallback (some .server) (usbdaliOpen submit))

/-- The code `libusb_submit_transfer` returns, should the event lead to a submission. -/
def UsbEvent.submit : UsbEvent α → Int
  | .queue _ _ _ submit => submit
  -- Cancelling submits nothing, so no code is consumed.
  | .cancel _ => 0
  | .complete completion _ => completion.submit

/-- Both callbacks are installed, and the device has not been closed. -/
structure InService (dali : UsbDali α) : Prop where
  req : dali.reqCallback = true
  bcast : dali.bcastCallback = true
  open_ : dali.shutdown = false

/-- A single cancellation is a list of one. -/
theorem usbdaliCancel_eq (arg : Option α) (dali : UsbDali α) :
    usbdaliCancel arg dali = cancelAll [arg] dali := rfl

/-- What the completion of a transfer means for the device. -/
def transferReport (dali : UsbDali α) (transfer : Transfer) (completion : Completion) : Report :=
  match transfer.endpoint with
  | .input => receiveReport dali.transaction completion.status completion.received
  | .output => sendReport completion.status

/-- The callback of a transfer that is on record clears the slot it was recorded in. -/
def clearSlot (endpoint : Endpoint) (dali : UsbDali α) : UsbDali α :=
  match endpoint with
  | .input => { dali with recvTransfer := none }
  | .output => { dali with sendTransfer := none }

/-- The slot in which a transfer of the given direction is recorded. -/
def slotOf (endpoint : Endpoint) (dali : UsbDali α) : Option Nat :=
  match endpoint with
  | .input => dali.recvTransfer
  | .output => dali.sendTransfer

/-- The fields of the device that no report changes. -/
structure SameFrame (after before : UsbDali α) : Prop where
  context : after.context = before.context
  recv : after.recvTransfer = before.recvTransfer
  send : after.sendTransfer = before.sendTransfer
  queueSize : after.queueSize = before.queueSize
  seqNum : after.seqNum = before.seqNum
  req : after.reqCallback = before.reqCallback
  bcast : after.bcastCallback = before.bcastCallback
  arg : after.bcastArg = before.bcastArg
  shutdown : after.shutdown = before.shutdown
  transactions : after.transactions = before.transactions

/-- Reports leave the transfers, the counters, and the callbacks alone. -/
theorem afterReport_frame (args : List (Option α)) (report : Report) (dali : UsbDali α) :
    SameFrame (afterReport args report dali) dali := by
  -- Reports touch the transaction, the queue's arguments, the freed list and the trace.
  cases report with
  | silent => exact ⟨rfl, rfl, rfl, rfl, rfl, rfl, rfl, rfl, rfl, rfl⟩
  | broadcast error frame status =>
    simp only [afterReport, cancelAll_eq]
    exact ⟨rfl, rfl, rfl, rfl, rfl, rfl, rfl, rfl, rfl, rfl⟩
  | finished error frame response status =>
    cases active : dali.transaction <;> simp only [afterReport, active, cancelAll_eq]
    all_goals exact ⟨rfl, rfl, rfl, rfl, rfl, rfl, rfl, rfl, rfl, rfl⟩

/-- Whatever the callbacks do, a report leaves those fields alone. -/
theorem carryOut_frame (handlers : Handlers α σ) (report : Report) (state : UsbDali α × σ)
    (service : InService state.1) (alive : ActiveAlive state.1) :
    SameFrame (report.carryOut handlers state).1 state.1 := by
  -- Whatever the handlers do to the device is a list of cancellations.
  obtain ⟨args, reported⟩ := carryOut_fst handlers report state service.req service.bcast alive
  rw [reported]
  exact afterReport_frame args report state.1

/-- A receive callback that finds its own transfer recorded clears it and goes on. -/
theorem usbdaliReceiveCallback_eq {handlers : Handlers α σ} {status : TransferStatus}
    {received : Bytes} {before after : UsbDali α × σ} {transfer : Transfer}
    (outcome : usbdaliReceiveOutcome handlers status received before = after)
    (mine : after.1.recvTransfer = some transfer.id) (running : after.1.shutdown = false)
    (submit : Int) :
    usbdaliReceiveCallback handlers submit transfer status received before =
      onDali (fun dali => usbdaliNext submit (clearSlot .input dali)) after := by
  -- The completed transfer is the recorded one, so the warning is not taken.
  subst outcome
  simp [usbdaliReceiveCallback, onDali, mine, running, clearSlot]

/-- A send callback that finds its own transfer recorded clears it and goes on. -/
theorem usbdaliSendCallback_eq {handlers : Handlers α σ} {status : TransferStatus}
    {before after : UsbDali α × σ} {transfer : Transfer}
    (outcome : usbdaliSendOutcome handlers status before = after)
    (mine : after.1.sendTransfer = some transfer.id) (running : after.1.shutdown = false)
    (submit : Int) :
    usbdaliSendCallback handlers submit transfer status before =
      onDali (fun dali => usbdaliNext submit (clearSlot .output dali)) after := by
  -- As for receives, on the other slot.
  subst outcome
  simp [usbdaliSendCallback, onDali, mine, running, clearSlot]

/--
The callback of a recorded transfer reports, clears the slot, and asks what to do next.

The rest of the program sees the report only.
-/
theorem libusbComplete_eq (handlers : Handlers α σ) (completion : Completion)
    (state : UsbDali α × σ) {transfer : Transfer} (service : InService state.1)
    (alive : ActiveAlive state.1)
    (held : state.1.context.inflight.find? (·.id = completion.transfer) = some transfer)
    (recorded : slotOf transfer.endpoint state.1 = some transfer.id) :
    libusbComplete handlers completion state =
      onDali (fun dali => usbdaliNext completion.submit (clearSlot transfer.endpoint dali))
        ((transferReport state.1 transfer completion).carryOut handlers
          (onDali (retire transfer) state)) := by
  -- The report changes neither slot, so the callback finds its own transfer recorded.
  have inService : InService (onDali (retire transfer) state).1 :=
    ⟨service.req, service.bcast, service.open_⟩
  have retired : ActiveAlive (onDali (retire transfer) state).1 := alive
  have frame := carryOut_frame handlers (transferReport state.1 transfer completion)
    (onDali (retire transfer) state) inService retired
  have running := frame.shutdown.trans inService.open_
  simp only [libusbComplete, held]
  cases direction : transfer.endpoint with
  | input =>
    simp only [transferReport, direction, slotOf] at frame running recorded ⊢
    exact usbdaliReceiveCallback_eq (usbdaliReceiveOutcome_eq handlers _ _ _ retired)
      (frame.recv.trans recorded) running _
  | output =>
    simp only [transferReport, direction, slotOf] at frame running recorded ⊢
    exact usbdaliSendCallback_eq (usbdaliSendOutcome_eq handlers _ _)
      (frame.send.trans recorded) running _

/-- The device state after the callback of a transfer during which some arguments are cancelled. -/
def completed (args : List (Option α)) (transfer : Transfer) (completion : Completion)
    (dali : UsbDali α) : UsbDali α :=
  usbdaliNext completion.submit (clearSlot transfer.endpoint
    (afterReport args (transferReport dali transfer completion) (retire transfer dali)))

/-- Whatever the callbacks do to the rest of the program, the device only sees cancellations. -/
theorem libusbComplete_fst (handlers : Handlers α σ) (completion : Completion)
    (state : UsbDali α × σ) {transfer : Transfer} (service : InService state.1)
    (alive : ActiveAlive state.1)
    (held : state.1.context.inflight.find? (·.id = completion.transfer) = some transfer)
    (recorded : slotOf transfer.endpoint state.1 = some transfer.id) :
    ∃ args, (libusbComplete handlers completion state).1 =
      completed args transfer completion state.1 := by
  -- The handlers' own cancellations supply the arguments of the explicit form.
  obtain ⟨args, reported⟩ := carryOut_fst handlers
    (transferReport state.1 transfer completion) (onDali (retire transfer) state)
    service.req service.bcast alive
  refine ⟨args, ?_⟩
  rw [libusbComplete_eq handlers completion state service alive held recorded]
  simp only [onDali] at reported ⊢
  rw [reported]
  rfl

/-- A completion during which exactly the given arguments are cancelled. -/
theorem usbStep_complete {dali : UsbDali α} {transfer : Transfer} (service : InService dali)
    (alive : ActiveAlive dali) {completion : Completion}
    (held : dali.context.inflight.find? (·.id = completion.transfer) = some transfer)
    (recorded : slotOf transfer.endpoint dali = some transfer.id) (args : List (Option α)) :
    usbStep dali (.complete completion args) = completed args transfer completion dali := by
  -- Here the cancellations are given by the event.
  have reported := carryOut_cancelling args (transferReport dali transfer completion)
    (retire transfer dali) service.req service.bcast alive
  simp only [usbStep]
  rw [libusbComplete_eq (cancelling args) completion (dali, ()) service alive held recorded]
  simp only [onDali]
  rw [reported]
  rfl

end Daliserver

import Daliserver.Pack.Format

/-! The data model of the USB layer: frames, transactions, transfers, and the device state (usb.c). -/

namespace Daliserver

/-- A DALI frame as frame.h declares it. -/
structure DaliFrame where
  ecommand : UInt8
  address : UInt8
  command : UInt8
deriving DecidableEq, Repr

/-- A 16-bit frame has no extended command. -/
def daliframeNew (address command : UInt8) : DaliFrame := ⟨0, address, command⟩

/-- A 24-bit frame. -/
def daliframeEnew (ecommand address command : UInt8) : DaliFrame := ⟨ecommand, address, command⟩

/-- The results the USB layer reports to its callers and callbacks. -/
inductive UsbDaliError where
  | success
  | response
  | sendTimeout
  | receiveTimeout
  | sendError
  | receiveError
  | queueFull
  | invalidArg
  | noMemory
  | systemError
deriving DecidableEq, Repr

/-- The status with which libusb completes a transfer. -/
inductive TransferStatus where
  | completed
  | error
  | timedOut
  | cancelled
  | stall
  | noDevice
  | overflow
deriving DecidableEq, Repr

/-- The two endpoints of the adapter, named from the host's side. -/
inductive Endpoint where
  | input
  | output
deriving DecidableEq, Repr

/--
A queued or active request.

The `id` is the identity of the allocation: a pointer to a transaction is modelled by the
transaction itself, and two pointers are the same exactly when the ids are.
-/
structure UsbDaliTransaction (α : Type) where
  id : Nat
  seqNum : Nat
  request : DaliFrame
  -- The callback argument, where `none` stands for NULL.
  arg : Option α
deriving DecidableEq, Repr

/-- A transfer handed to libusb. -/
structure Transfer where
  id : Nat
  endpoint : Endpoint
  buffer : Bytes
  -- Whether `libusb_cancel_transfer` was called on it.
  cancelRequested : Bool
deriving DecidableEq, Repr

/-- What libusb holds: the transfers in flight, and how many were ever allocated. -/
structure Libusb where
  inflight : List Transfer
  allocated : Nat
deriving DecidableEq, Repr

/-- The server object handed to the out of band callback. There is only one of it. -/
inductive ServerPtr where
  | server
deriving DecidableEq, Repr

/-- Uses of a pointer that C leaves undefined, and the branches the authors mark as impossible. -/
inductive UsbFault where
  -- `dali->transaction` is dereferenced while it is NULL.
  | nullTransaction
  -- `dali->transaction` is read after the transaction was freed.
  | freedTransaction (id : Nat)
  -- A transaction is freed a second time.
  | doubleFree (id : Nat)
  -- A callback is invoked through a NULL function pointer.
  | nullReqCallback
  | nullBcastCallback
  -- The branches warning with "Use the source, Luke!".
  | invalidReceiveTransfer
  | invalidSendTransfer
  -- `usbdali_send` refuses a transaction that has already left the queue.
  | sendRejected (id : Nat)
deriving DecidableEq, Repr

/-- What the USB layer did, in order. -/
inductive UsbEffect (α : Type) where
  -- `usbdali_queue` returned USBDALI_SUCCESS for this transaction.
  | accepted (transaction : UsbDaliTransaction α)
  -- `usbdali_queue` returned an error.
  | rejected (request : DaliFrame) (error : UsbDaliError)
  -- A transfer was passed to `libusb_submit_transfer`, which returned the code.
  -- The owner is the transaction that was active at that moment.
  | submitted (transfer : Transfer) (owner : Option Nat) (code : Int)
  -- `libusb_cancel_transfer` was called.
  | cancelled (transfer : Nat)
  -- `req_callback` was invoked for this transaction, with its `arg`.
  | reqCallback (transaction : UsbDaliTransaction α) (error : UsbDaliError) (frame : DaliFrame)
      (response status : Nat)
  -- `bcast_callback` was invoked.
  | bcastCallback (error : UsbDaliError) (frame : Option DaliFrame) (status : Nat)
      (arg : Option ServerPtr)
  | fault (fault : UsbFault)
deriving DecidableEq, Repr

/--
The state of an open device.

The callbacks are function pointers: `true` means that one is installed.
The trace records what the layer did and is read by no function of it.
-/
structure UsbDali (α : Type) where
  context : Libusb
  recvTransfer : Option Nat
  sendTransfer : Option Nat
  transaction : Option (UsbDaliTransaction α)
  queueSize : Nat
  queue : List (UsbDaliTransaction α)
  seqNum : Nat
  reqCallback : Bool
  bcastCallback : Bool
  bcastArg : Option ServerPtr
  shutdown : Bool
  -- The number of transactions allocated so far, which names the next one.
  transactions : Nat
  -- The transactions released so far.
  freed : List Nat
  trace : List (UsbEffect α)
deriving DecidableEq, Repr

/-- Transfers carry this many bytes. -/
def usbdaliLength : Nat := 64

/-- The most requests that may wait in the queue. -/
def defaultQueuesize : Nat := 255

/-- The direction byte of messages between control devices on the bus. -/
def directionDali : UInt8 := 0x11

/-- The direction byte of messages that concern a request sent over USB. -/
def directionUsb : UInt8 := 0x12

/-- The length byte of a request carrying a 16-bit frame. -/
def type16Bit : UInt8 := 0x03

/-- The length byte of a request carrying a 24-bit frame. -/
def type24Bit : UInt8 := 0x04

/-- The request was executed, and nothing answered on the bus. -/
def typeNoResponse : UInt8 := 0x71

/-- The request was executed, and a response was received on the bus. -/
def typeResponse : UInt8 := 0x72

/-- A frame was transferred. -/
def typeComplete : UInt8 := 0x73

/-- An extended frame was received. -/
def typeBroadcast : UInt8 := 0x74

/-- A message received from the adapter. -/
structure UsbDaliIn where
  direction : UInt8
  type : UInt8
  ecommand : UInt8
  address : UInt8
  -- Also serves as the response code of a response message.
  command : UInt8
  status : Nat
  seqnum : UInt8
deriving DecidableEq, Repr

/-- The format of a received message, `">CC CCCSC"`. -/
def inFormat : List Char := ['>', 'C', 'C', ' ', 'C', 'C', 'C', 'S', 'C']

/-- The format of a sent message, `"CCCCCCCC"`. -/
def outFormat : List Char := ['C', 'C', 'C', 'C', 'C', 'C', 'C', 'C']

/-- Decodes a received packet, or refuses one that is too short. -/
def unpackIn (received : Bytes) : Option UsbDaliIn :=
  match unpack systemLittle inFormat received (some received.length) with
  | some [direction, type, ecommand, address, command, status, seqnum] =>
    some ⟨direction.toUInt8, type.toUInt8, ecommand.toUInt8, address.toUInt8, command.toUInt8,
      status, seqnum.toUInt8⟩
  -- The format stores seven values, so only a refused packet ends here.
  | _ => none

/-- Encodes a request under a sequence number into a buffer of `USBDALI_LENGTH` zeros. -/
def packOut (seqNum : Nat) (request : DaliFrame) : Option Bytes :=
  let buffer := List.replicate usbdaliLength 0
  -- An extended command byte selects the 24 bit frame type.
  if request.ecommand = 0 then
    (pack systemLittle outFormat (some buffer) (some usbdaliLength)
      [directionUsb.toNat, seqNum, 0x00, type16Bit.toNat, 0x00, 0x00,
        request.address.toNat, request.command.toNat]).map Prod.fst
  else
    (pack systemLittle outFormat (some buffer) (some usbdaliLength)
      [directionUsb.toNat, seqNum, 0x00, type24Bit.toNat, 0x00, request.ecommand.toNat,
        request.address.toNat, request.command.toNat]).map Prod.fst

/-- The packet on the wire: eight header bytes and zeros up to the transfer length. -/
def outPacket (seqNum : Nat) (request : DaliFrame) : Bytes :=
  [directionUsb, seqNum.toUInt8, 0x00, if request.ecommand = 0 then type16Bit else type24Bit,
    0x00, request.ecommand, request.address, request.command] ++ List.replicate 56 0

/-- A request always fits its buffer, and this is the packet it becomes. -/
theorem packOut_eq (seqNum : Nat) (request : DaliFrame) :
    packOut seqNum request = some (outPacket seqNum request) := by
  -- The sequence number is cut to its low byte by the mask and by the conversion alike.
  have low : byteAt seqNum 0 = seqNum.toUInt8 := by
    have masked := Nat.and_two_pow_sub_one_eq_mod seqNum 8
    simp only [Nat.reducePow, Nat.add_one_sub_one] at masked
    simp only [byteAt, Nat.shiftRight_zero, masked]
    exact UInt8.ofNat_mod_size
  have zero : byteAt 0 0 = 0 := rfl
  rcases request with ⟨ecommand, address, command⟩
  by_cases short : ecommand = 0
  · subst short
    simp [packOut, outPacket, pack, outFormat, packLength, packLoop, storeBytes, usbdaliLength,
      low, zero]
  · simp [packOut, outPacket, pack, outFormat, packLength, packLoop, storeBytes, usbdaliLength,
      low, zero, short]

/-- A packet of at least nine bytes decodes to its fields by position; a shorter one is refused. -/
theorem unpackIn_eq (received : Bytes) :
    unpackIn received =
      if received.length < 9 then none
      else some ⟨received.getD 0 0, received.getD 1 0, received.getD 3 0, received.getD 4 0,
        received.getD 5 0, readShort false received 6, received.getD 8 0⟩ := by
  -- Nine bytes are read one by one, except the status, which is a big-endian short.
  by_cases short : received.length < 9
  · simp [unpackIn, unpack, inFormat, packLength, short]
  · simp [unpackIn, unpack, inFormat, packLength, short, unpackLoop]

end Daliserver

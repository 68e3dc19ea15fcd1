import Mathlib.Logic.Function.Basic
import Daliserver.Usb.DriverLaws
import Daliserver.Dispatch.Pass

/-! The network server and the frame handlers that tie it to the device (net.c, daliserver.c). -/

namespace Daliserver

/-- The size of a network frame. -/
def defaultNetFramesize : Nat := 4

/-- The network protocol number. -/
def defaultNetProtocol : UInt8 := 2

/-- The frame type of a request. -/
def netTypeSend : UInt8 := 0

/-- The request was executed, and nothing answered. -/
def netStatusSuccess : UInt8 := 0

/-- The request was executed, and this is the answer. -/
def netStatusResponse : UInt8 := 1

/-- A message seen on the bus. -/
def netStatusBroadcast : UInt8 := 2

/-- The request could not be executed. -/
def netStatusError : UInt8 := 255

/-- The address of a connection object, which may be used again once the object is freed. -/
abbrev ConnPtr := Nat

/-- The device handle passed around as an untyped argument. There is only one of it. -/
inductive UsbPtr where
  | usb
deriving DecidableEq, Repr

/--
A connection with a client.

The serial number tells connections apart that had the same address at different times.
-/
structure Connection where
  serial : Nat
  socket : Int
  waiting : Bool
  -- Whether `net_dequeue_connection` is installed as the destroy callback.
  destroy : Bool
  destroyarg : Option UsbPtr
deriving DecidableEq, Repr

/-- The server. Its frame handler is `net_frame_handler`. -/
structure Server where
  listener : Int
  connections : List ConnPtr
  framesize : Nat
  -- Without a device, requests are answered by the server itself.
  arg : Option UsbPtr
  conndestroy : Bool
  conndestroyarg : Option UsbPtr
deriving DecidableEq, Repr

/-- The callbacks the program registers with the dispatch table. -/
inductive ServerFn where
  | serverListenerReady
  | serverListenerError
  | connectionReady
  | connectionError
  | usbdaliDispatchReady
  | usbdaliDispatchError
  | ipcReadZero
deriving DecidableEq, Repr

/-- The arguments the program registers along with them. -/
inductive ServerArg where
  | server
  | connection (conn : ConnPtr)
  | usb
  | ipc
deriving DecidableEq, Repr

/-- Uses of memory that was released before. -/
inductive NetFault where
  | freedConnection (conn : ConnPtr)
  -- The list node of this connection is followed after it was freed.
  | freedNode (conn : ConnPtr)
  | freedServer
  -- A callback is invoked with an argument of another type.
  | wrongArgument
deriving DecidableEq, Repr

/-- What the server did, in order. -/
inductive NetEffect where
  | opened (serial : Nat)
  -- A whole frame was read from a connection and passed to the frame handler.
  | received (serial : Nat) (frame : Bytes)
  -- A frame was passed to `write`, which returned a number of bytes or an error.
  | sent (serial : Nat) (frame : Bytes) (result : Option Nat)
  | released (serial : Nat)
  | fault (fault : NetFault)
deriving DecidableEq, Repr

/-- The part of the program's state outside of the device. -/
structure Net where
  server : Server
  -- Whether the server object has been freed.
  closed : Bool
  dispatch : Dispatch ServerFn ServerArg
  heap : ConnPtr → Option Connection
  -- The number of connections so far, which names the next one.
  serials : Nat
  -- The results of all calls of `write` there will ever be, and how many were made.
  writes : Nat → Option Nat
  written : Nat
  -- The descriptors libusb has registered.
  usbFds : List Int
  ipcFd : Int
  log : List NetEffect

/-- The whole program: the device and everything around it. -/
abbrev World := UsbDali ConnPtr × Net

/-- Applies a change outside of the device. -/
def onNet (change : Net → Net) (world : World) : World := (world.1, change world.2)

/-- Records something the server did. -/
def Net.record (net : Net) (effect : NetEffect) : Net := { net with log := net.log ++ [effect] }

/-- Changes the connections the server knows. -/
def Net.withConnections (change : List ConnPtr → List ConnPtr) (net : Net) : Net :=
  { net with server := { net.server with connections := change net.server.connections } }

/-- The destroy callback: the device forgets the connection. -/
def netDequeueConnection (arg : Option UsbPtr) (conn : ConnPtr) (world : World) : World :=
  match arg with
  -- Without a device there is no queue to search.
  | none => world
  | some .usb => onDali (usbdaliCancel (some conn)) world

/-- Releases a connection, after everyone else has been told to forget it. -/
def connectionFree (conn : ConnPtr) (world : World) : World :=
  match world.2.heap conn with
  | none => onNet (·.record (.fault (.freedConnection conn))) world
  | some connection =>
    -- The destroy callback runs first, while the connection can still be named.
    let world := if connection.destroy then netDequeueConnection connection.destroyarg conn world
      else world
    onNet (fun net =>
      { net with
        dispatch := dispatchRemoveFd connection.socket net.dispatch
        heap := Function.update net.heap conn none
        log := net.log ++ [.released connection.serial] }) world

/-- Takes a connection off the list and releases it. -/
def serverConnectionRemove (conn : ConnPtr) (world : World) : World :=
  connectionFree conn (onNet (·.withConnections (·.erase conn)) world)

/-- Whether a frame was written as a whole. -/
def writeSucceeds (framesize : Nat) (result : Option Nat) : Bool :=
  match result with
  | none => false
  -- A short write counts against the frame size of the server, not against the length written.
  | some wrbytes => ! decide (wrbytes < framesize)

/-- Writes a frame to a client. A client that does not take it is removed. -/
def connectionReply (conn : ConnPtr) (buffer : Bytes) (world : World) : World :=
  match world.2.heap conn with
  | none => onNet (·.record (.fault (.freedConnection conn))) world
  | some connection =>
    let answered := { connection with waiting := false }
    let world := onNet (fun net =>
      { net with heap := Function.update net.heap conn (some answered) }) world
    if buffer = [] then world
    else
      let result := world.2.writes world.2.written
      let world := onNet (fun net =>
        { net with
          written := net.written + 1
          log := net.log ++ [.sent connection.serial buffer result] }) world
      -- An error and a short write are handled alike.
      if writeSucceeds world.2.server.framesize result then world
      else serverConnectionRemove conn world

/-- The rest of a broadcast, from a list node on. -/
def broadcastFrom (buffer : Bytes) : List ConnPtr → World → World
  | [], world => world
  | conn :: rest, world =>
    match world.2.heap conn with
    | none => onNet (·.record (.fault (.freedConnection conn))) world
    | some connection =>
      let world := if connection.waiting then world else connectionReply conn buffer world
      -- The next node is read from the current one, even if that was freed by the reply.
      -- What comes after such a read is undefined, so the walk is not followed any further.
      if conn ∈ world.2.server.connections then broadcastFrom buffer rest world
      else onNet (·.record (.fault (.freedNode conn))) world

/-- Writes a frame to every client that does not wait for a reply. -/
def serverBroadcast (buffer : Bytes) (world : World) : World :=
  if buffer = [] then world else broadcastFrom buffer world.2.server.connections world

/-- A step of a walk over the connections. -/
inductive Visit where
  | reply (conn : ConnPtr)
  -- The walk goes through the freed node of a connection.
  | stray (conn : ConnPtr)
deriving DecidableEq, Repr

/-- Makes one step of a walk. -/
def visit (buffer : Bytes) (world : World) : Visit → World
  | .reply conn => connectionReply conn buffer world
  | .stray conn => onNet (·.record (.fault (.freedNode conn))) world

/-- A walk that replies to connections only while the server knows them. -/
def LiveVisits (buffer : Bytes) : World → List Visit → Prop
  | _, [] => True
  | world, .reply conn :: rest => conn ∈ world.2.server.connections ∧
    LiveVisits buffer (visit buffer world (.reply conn)) rest
  -- rest :: A stray visit reads a connection that may be gone, so nothing is asked of it.
  | world, .stray conn :: rest => LiveVisits buffer (visit buffer world (.stray conn)) rest

/-- The server's list of connections is in order. -/
structure Linked (net : Net) : Prop where
  distinct : net.server.connections.Nodup
  alive : ∀ conn ∈ net.server.connections, net.heap conn ≠ none

/--
A way to broadcast: any sequence of replies to connections that are alive at the time.

The server's own way is one of them, as is shown below.
-/
structure Broadcaster where
  send : Bytes → World → World
  visits : ∀ buffer world, ∃ visits, send buffer world = visits.foldl (visit buffer) world ∧
    (Linked world.2 → LiveVisits buffer world visits)

/-- Passes a message seen on the bus to the clients. -/
def daliOutbandHandler (broadcast : Bytes → World → World) (error : UsbDaliError)
    (frame : Option DaliFrame) (arg : Option ServerPtr) (world : World) : World :=
  if error = .success then
    match arg, frame with
    | some .server, some frame =>
      -- The callback argument still points to the server after it is freed.
      if world.2.closed then onNet (·.record (.fault .freedServer)) world
      else broadcast [defaultNetProtocol, netStatusBroadcast, frame.address, frame.command] world
    -- A successful report always has a frame, and without a server nothing is sent.
    | _, _ => world
  else world

/-- The reply that a client gets for its request. -/
def replyFrame (error : UsbDaliError) (response : Nat) : Bytes :=
  -- Only an answer carries a value, and every failure looks the same to the client.
  if error = .response then [defaultNetProtocol, netStatusResponse, response.toUInt8, 0]
  else if error = .success then [defaultNetProtocol, netStatusSuccess, 0, 0]
  else [defaultNetProtocol, netStatusError, 0, 0]

/-- Passes the outcome of a request to the client that made it, if it is still there. -/
def daliInbandHandler (error : UsbDaliError) (response : Nat) (arg : Option ConnPtr)
    (world : World) : World :=
  match arg with
  -- The connection has been cancelled, so nobody is told.
  | none => world
  | some conn => connectionReply conn (replyFrame error response) world

/-- Handles a frame from a client, where the result of `usbdali_queue` is not looked at. -/
def netFrameHandler (memory : Bool) (submit : Int) (arg : Option UsbPtr) (buffer : Bytes)
    (conn : ConnPtr) (world : World) : World :=
  if defaultNetFramesize ≤ buffer.length then
    if buffer.getD 0 0 = defaultNetProtocol then
      if buffer.getD 1 0 = netTypeSend then
        match arg with
        | some .usb =>
          let frame := daliframeNew (buffer.getD 2 0) (buffer.getD 3 0)
          onDali (fun dali => (usbdaliQueue memory submit frame (some conn) dali).1) world
        -- Without a device, a response is made up.
        | none => connectionReply conn [defaultNetProtocol, netStatusResponse, 0, 0] world
      else world
    else world
  else world

end Daliserver

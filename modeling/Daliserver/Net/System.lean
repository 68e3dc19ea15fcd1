import Daliserver.Machine.Run
import Daliserver.Usb.Session
import Daliserver.Net.ServerLaws

/-! The whole program, driven one callback at a time by its dispatch table (main). -/

namespace Daliserver

open Machine

/-- libusb tells the program which descriptors it wants to have polled. -/
inductive PollNotice where
  | added (fd : Int) (events : BitVec 16)
  | removed (fd : Int)
deriving DecidableEq, Repr

/-- What the surroundings answer while a callback runs. -/
structure Input where
  -- The socket that `accept` returns, whether its peer is an internet address,
  -- and the address that `malloc` returns for the connection object.
  socket : Option Int
  inet : Bool
  pointer : ConnPtr
  -- The bytes that `read` returns, or an error.
  buffer : Option Bytes
  -- Whether there is memory for a transaction, and the result of a submission.
  memory : Bool
  submit : Int
  -- What happens inside of `libusb_handle_events_timeout`.
  completion : Option Completion
  notice : Option PollNotice
deriving DecidableEq, Repr

/-- The descriptors that are open. -/
def openFds (net : Net) : List Int :=
  net.server.listener :: net.ipcFd :: (net.usbFds ++
    net.server.connections.filterMap fun conn => (net.heap conn).map (·.socket))

/-- The operating system never hands out a descriptor or an address that is in use. -/
def Input.possible (input : Input) (net : Net) : Bool :=
  (match input.socket with
    -- A new socket is unused, and its connection is allocated at a free address.
    | none => true
    | some socket => decide (0 ≤ socket) && decide (socket ∉ openFds net) &&
      (net.heap input.pointer).isNone) &&
  (match input.notice with
    | none => true
    -- libusb announces descriptors that it has opened, and withdraws only its own.
    | some (.added fd _) => decide (0 ≤ fd) && decide (fd ∉ openFds net)
    | some (.removed fd) => decide (fd ∈ net.usbFds))

/--
A new connection, registered for input and errors.

Memory for the connection and its buffer is taken to be there. Without it the source hands on a null
pointer, and the socket is neither registered nor closed.
-/
def connectionNew (pointer : ConnPtr) (socket : Int) (net : Net) : Net :=
  let connection : Connection :=
    ⟨net.serials, socket, false, net.server.conndestroy, net.server.conndestroyarg⟩
  { net with
    heap := Function.update net.heap pointer (some connection)
    serials := net.serials + 1
    -- An event mask of -1 asks for input events.
    dispatch := dispatchAdd socket (-1) (some .connectionReady) (some .connectionError) none
      (some (.connection pointer)) net.dispatch
    log := net.log ++ [.opened net.serials] }

/-- Accepts a connection, which is put on the list; there is memory for it and for its entry. -/
def serverListenerReady (input : Input) (net : Net) : Net :=
  match input.socket with
  | none => net
  | some socket =>
    if input.inet then
      (connectionNew input.pointer socket net).withConnections (· ++ [input.pointer])
    -- A socket of another family is neither used nor closed.
    else net

/-- Reads a frame from a client. Anything but a whole frame ends the connection. -/
def connectionReady (input : Input) (conn : ConnPtr) (world : World) : World :=
  match world.2.heap conn with
  | none => onNet (·.record (.fault (.freedConnection conn))) world
  | some connection =>
    match input.buffer with
    -- Read errors and resets end the connection alike.
    | none => serverConnectionRemove conn world
    | some buffer =>
      -- A short read is taken for the end of the connection as well.
      if buffer.length < world.2.server.framesize then serverConnectionRemove conn world
      else
        -- The flag is raised before the handler sees what the frame is.
        let waits := { connection with waiting := true }
        let world := onNet (fun net =>
          { net with
            heap := Function.update net.heap conn (some waits)
            log := net.log ++ [.received connection.serial buffer] }) world
        netFrameHandler input.memory input.submit world.2.server.arg buffer conn world

/-- An error of any of the three kinds ends the connection. -/
def connectionError (error : DispatchError) (conn : ConnPtr) (world : World) : World :=
  match error with
  -- The three errors differ in their log message only.
  | .fdClosed => serverConnectionRemove conn world
  | .fdInvalid => serverConnectionRemove conn world
  | .pollError => serverConnectionRemove conn world

/-- Registers a descriptor and its events for libusb. -/
def addUsbFd (table : Dispatch ServerFn ServerArg) (fd : Int × BitVec 16) :
    Dispatch ServerFn ServerArg :=
  dispatchAdd fd.1 fd.2 (some .usbdaliDispatchReady) (some .usbdaliDispatchError) none (some .usb)
    table

/-- Registers a descriptor of libusb. -/
def usbdaliAddPollfd (fd : Int) (events : BitVec 16) (net : Net) : Net :=
  { net with
    dispatch := addUsbFd net.dispatch (fd, events)
    usbFds := net.usbFds ++ [fd] }

/-- Takes a descriptor of libusb off the table. -/
def usbdaliRemovePollfd (fd : Int) (net : Net) : Net :=
  { net with
    dispatch := dispatchRemoveFd fd net.dispatch
    usbFds := net.usbFds.filter (· ≠ fd) }

/-- Passes on a notice of libusb. -/
def notify (notice : Option PollNotice) (net : Net) : Net :=
  match notice with
  -- Several notices within one call of libusb are modelled as several calls.
  | none => net
  | some (.added fd events) => usbdaliAddPollfd fd events net
  | some (.removed fd) => usbdaliRemovePollfd fd net

/--
Lets libusb handle its events.

Several callbacks of libusb in one call are taken as several calls.
-/
def usbdaliDispatchReady (broadcaster : Broadcaster) (input : Input) (world : World) : World :=
  let world := match input.completion with
    -- The descriptor can be ready without a transfer being finished.
    | none => world
    | some completion => libusbComplete (serverHandlers broadcaster) completion world
  onNet (notify input.notice) world

/-- Invokes a callback of the program. -/
def callServer (broadcaster : Broadcaster) (input : Input) (call : Call ServerFn ServerArg)
    (world : World) : World :=
  match call.fn, call.arg with
  -- Every callback ignores a NULL argument.
  | _, none => world
  | .serverListenerReady, some .server => onNet (serverListenerReady input) world
  | .serverListenerError, some .server => world
  | .connectionReady, some (.connection conn) => connectionReady input conn world
  | .connectionError, some (.connection conn) =>
    match call.error with
    | some error => connectionError error conn world
    | none => world
  | .usbdaliDispatchReady, some .usb => usbdaliDispatchReady broadcaster input world
  | .usbdaliDispatchError, some .usb => world
  -- The byte that is read only serves to wake up the loop.
  | .ipcReadZero, some .ipc => world
  | _, _ => onNet (·.record (.fault .wrongArgument)) world

/-- Removing a connection is a removal from the table at most. -/
theorem serverConnectionRemove_operations (conn : ConnPtr) (world : World) :
    ∃ ops : List (TableOp ServerFn ServerArg),
      (serverConnectionRemove conn world).2.dispatch = ops.foldl applyOp world.2.dispatch := by
  -- Freeing a connection removes its socket from the table and nothing else.
  cases found : world.2.heap conn with
  | none =>
    refine ⟨[], ?_⟩
    unfold serverConnectionRemove connectionFree
    simp [onNet, Net.withConnections, found, Net.record]
  | some connection =>
    rw [serverConnectionRemove_eq found]
    exact ⟨[.removeFd connection.socket], rfl⟩

/-- The handlers of the server change the table through its operations. -/
theorem serverHandlers_respect (broadcaster : Broadcaster) :
    (serverHandlers broadcaster).Respect fun before after : Net =>
      ∃ ops : List (TableOp ServerFn ServerArg),
        after.dispatch = ops.foldl applyOp before.dispatch := by
  -- Both callbacks end in replies, whose effect on the table is known.
  refine ⟨fun net => ⟨[], rfl⟩, ?_, ?_⟩
  · intro error frame response status arg world
    exact repliesKeep_operations.inband error response arg world
  · intro error frame status arg world
    exact repliesKeep_operations.outband broadcaster error frame arg world

/-- A frame handler changes the table through its operations. -/
theorem netFrameHandler_operations (memory : Bool) (submit : Int) (arg : Option UsbPtr)
    (buffer : Bytes) (conn : ConnPtr) (world : World) :
    ∃ ops : List (TableOp ServerFn ServerArg),
      (netFrameHandler memory submit arg buffer conn world).2.dispatch =
        ops.foldl applyOp world.2.dispatch := by
  -- Queueing stays on the device side, and an error reply may remove the socket.
  rw [netFrameHandler_eq]
  split
  · cases arg with
    | none => exact connectionReply_operations conn _ world
    | some device =>
      cases device
      exact ⟨[], rfl⟩
  · exact ⟨[], rfl⟩

/-- A read changes the table through its operations. -/
theorem connectionReady_operations (input : Input) (conn : ConnPtr) (world : World) :
    ∃ ops : List (TableOp ServerFn ServerArg),
      (connectionReady input conn world).2.dispatch = ops.foldl applyOp world.2.dispatch := by
  -- One case for each way the read can end.
  unfold connectionReady
  split
  · exact ⟨[], rfl⟩
  · split
    · exact serverConnectionRemove_operations conn world
    · split
      · exact serverConnectionRemove_operations conn world
      · exact netFrameHandler_operations _ _ _ _ _ _

/-- The events of libusb change the table through its operations. -/
theorem usbdaliDispatchReady_operations (broadcaster : Broadcaster) (input : Input)
    (world : World) :
    ∃ ops : List (TableOp ServerFn ServerArg),
      (usbdaliDispatchReady broadcaster input world).2.dispatch =
        ops.foldl applyOp world.2.dispatch := by
  unfold usbdaliDispatchReady
  have first : ∃ ops : List (TableOp ServerFn ServerArg),
      (match input.completion with
        | none => world
        | some completion => libusbComplete (serverHandlers broadcaster) completion
            world).2.dispatch = ops.foldl applyOp world.2.dispatch := by
    cases input.completion with
    | none => exact ⟨[], rfl⟩
    | some completion => exact (serverHandlers_respect broadcaster).complete completion world
  obtain ⟨ops, made⟩ := first
  -- A notice is one more operation.
  cases input.notice with
  | none => exact ⟨ops, made⟩
  | some notice =>
    cases notice with
    | added fd events =>
      refine ⟨ops ++ [.add fd events (some .usbdaliDispatchReady) (some .usbdaliDispatchError)
        none (some .usb)], ?_⟩
      rw [List.foldl_append, ← made]
      rfl
    | removed fd =>
      refine ⟨ops ++ [.removeFd fd], ?_⟩
      rw [List.foldl_append, ← made]
      rfl

/-- The program as a client of its dispatch table, under given answers of its surroundings. -/
def serverClient (broadcaster : Broadcaster) (input : Input) :
    DispatchClient ServerFn ServerArg World where
  table world := world.2.dispatch
  update change := onNet fun net => { net with dispatch := change net.dispatch }
  table_update _ _ := rfl
  invoke := callServer broadcaster input
  operations := by
    intro call world
    unfold callServer
    split
    · exact ⟨[], rfl⟩
    · unfold onNet serverListenerReady
      split
      · exact ⟨[], rfl⟩
      · rename_i socket _
        split
        -- Accepting registers the new socket with the default events.
        · exact ⟨[.add socket (-1) (some .connectionReady) (some .connectionError) none
            (some (.connection input.pointer))], rfl⟩
        · exact ⟨[], rfl⟩
    · exact ⟨[], rfl⟩
    · exact connectionReady_operations input _ world
    · split
      · unfold connectionError
        split <;> exact serverConnectionRemove_operations _ world
      · exact ⟨[], rfl⟩
    · exact usbdaliDispatchReady_operations broadcaster input world
    · exact ⟨[], rfl⟩
    · exact ⟨[], rfl⟩
    · exact ⟨[], rfl⟩

/-- What can happen to the running program. -/
inductive SystemEvent where
  -- `poll` returns and reports an event mask for every descriptor.
  | polled (revents : Nat → BitVec 16)
  -- The loop over the table gets to a row, with these answers for its callback.
  | row (index : Nat) (input : Input)

/-- Handles one event. Answers that the operating system cannot give are no event. -/
def systemStep (broadcaster : Broadcaster) (world : World) : SystemEvent → World
  | .polled revents => onNet (fun net => { net with dispatch := net.dispatch.poll revents }) world
  | .row index input =>
    -- Inputs that the operating system cannot deliver are no steps.
    if input.possible world.2 then dispatchRow (serverClient broadcaster input) index world
    else world

/-- What `main` finds when it sets up the program. -/
structure Config where
  listener : Int
  ipcFd : Int
  usbFds : List (Int × BitVec 16)
  dryrun : Bool
  submit : Int
  writes : Nat → Option Nat
  -- The operating system gives valid and distinct descriptors.
  distinct : (listener :: ipcFd :: usbFds.map Prod.fst).Nodup
  valid : ∀ fd ∈ listener :: ipcFd :: usbFds.map Prod.fst, 0 ≤ fd

/-- The device handle, which is NULL in a dry run. -/
def Config.usb (config : Config) : Option UsbPtr := if config.dryrun then none else some .usb

/-- The descriptors of libusb at the start, of which there are none in a dry run. -/
def Config.startFds (config : Config) : List (Int × BitVec 16) :=
  if config.dryrun then [] else config.usbFds

/-- The server is opened, and its destroy callback is installed. -/
def serverOpen (config : Config) (dispatch : Dispatch ServerFn ServerArg) : Net where
  -- The daemon installs the destroy callback right after opening, with the device as argument.
  server := ⟨config.listener, [], defaultNetFramesize, config.usb, true, config.usb⟩
  closed := false
  dispatch := dispatchAdd config.listener pollIn (some .serverListenerReady)
    (some .serverListenerError) none (some .server) dispatch
  heap := fun _ => none
  serials := 0
  writes := config.writes
  written := 0
  usbFds := []
  ipcFd := config.ipcFd
  log := []

/-- The shutdown notifier is registered. -/
def ipcRegister (net : Net) : Net :=
  { net with
    dispatch := dispatchAdd net.ipcFd pollIn (some .ipcReadZero) none none (some .ipc)
      net.dispatch }

/--
The program when it enters its event loop.

The descriptors of libusb are registered first, unless there is no device.
In a dry run nothing refers to the device, which stays as it is.
-/
def mainStart (config : Config) : World :=
  -- The device is opened first, the server second, and the signal pipe is registered last.
  let table := config.startFds.foldl addUsbFd dispatchNew
  (usbStart config.submit,
    ipcRegister { serverOpen config table with usbFds := config.startFds.map Prod.fst })

end Daliserver

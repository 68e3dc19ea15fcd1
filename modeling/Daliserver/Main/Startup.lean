import Daliserver.Machine.Resources
import Daliserver.Options.Parse

/-!
What the program acquires from the start to the end of `main`, and what it releases again.

The functions are those of the other modules, with every call of the system or of libusb that can
fail, but with resources in place of states.
The log with its file, the PID file and what the event loop allocates are left out.
An allocation whose result is not looked at is taken to succeed.
-/

namespace Daliserver.Startup

open Machine

/-- What is acquired and released by hand. -/
inductive Resource where
  -- The options with their texts, but for those of -f, which are counted one by one.
  | options
  | logfile (index : Nat)
  | dispatch
  -- What libusb hands out.
  | context
  | deviceList
  | handle
  | config
  | driver
  | interface
  | usbfds
  -- What usb.c allocates.
  | pollfds
  | usbDali
  | queue
  -- The transfers that are under way, with their buffers.
  | transfers
  -- What the device calls for a message on the bus, with the server as its argument.
  | callback
  -- The server, its listener and the listener's entry in the dispatch table.
  | server
  | listener
  | listening
  | connections
  -- The shutdown notifier, its sockets and their entry in the dispatch table.
  | ipc
  | sockets
  | notifying
deriving DecidableEq, Repr

/--
What a resource belongs to or works on as long as it is held; an owner may outlive what it owns.

The strict reading counts in what is followed only if a transfer is completed once more.
-/
def needs (strict : Bool) : Resource → Finset Resource
  | .transfers => if strict then {.usbDali, .handle} else ∅
  | .callback => if strict then {.usbDali, .server} else {.usbDali}
  | .deviceList | .handle | .usbfds => {.context}
  -- The kernel driver of the interface is detached while the device is driven from here.
  | .config | .driver | .interface => {.handle}
  -- The descriptors of libusb and the listener are watched by the table.
  | .usbDali | .server => {.dispatch}
  | .queue => {.usbDali}
  | .listening => {.dispatch, .server, .listener}
  | .connections => {.server}
  | .sockets => {.ipc}
  | .notifying => {.dispatch, .ipc, .sockets}
  | _ => ∅

/-- A USB device with its descriptor, if that can be read. -/
structure Listed where
  descriptor : Except Int (BitVec 16 × BitVec 16)
  busNumber : BitVec 8
  deviceAddress : BitVec 8

/-- What the calls of libusb and of the allocator give while the device is opened. -/
structure UsbHost where
  init : Int
  deviceList : Except Int (List Listed)
  openDevice : Listed → Int
  -- The endpoint addresses of every altsetting of every interface.
  config : Listed → Except Int (List (List (List (BitVec 8))))
  kernelDriverActive : Int
  setConfiguration : Int
  claimInterface : Int
  setInterfaceAltSetting : Int
  arrayNew : Bool
  getPollfds : Bool
  malloc : Bool
  listNew : Bool
  -- Whether every transfer is completed while the device is closed.
  settled : Bool

/-- Why a device was not opened. -/
inductive UsbFailure where
  | noDispatch
  | initializing (err : Int)
  | enumerating (err : Int)
  | notFound
  | opening (err : Int)
  | configuration (err : Int)
  | interfaces (got : Nat)
  | altsettings (got : Nat)
  | endpoints (got : Nat)
  | activeState (err : Int)
  | settingConfiguration (err : Int)
  | claiming (err : Int)
  | altsetting (err : Int)
  | noPollfds
  | noDevice
deriving DecidableEq, Repr

/-- What is kept of a device that was opened, for its use and for closing it. -/
structure Opened where
  device : Listed
  endpointIn : BitVec 8
  endpointOut : BitVec 8
  freeContext : Bool
  detached : Bool
  queue : Bool

def vendorId : BitVec 16 := 0x17b5
def productId : BitVec 16 := 0x0020
def endpointDirMask : BitVec 8 := 0x80
def endpointIn : BitVec 8 := 0x80

/-- Whether a device is one to be driven, at the given place if both numbers are given. -/
def eligible (busnum devnum : Int) (dev : Listed) : Bool :=
  match dev.descriptor with
  | .ok (vendor, product) =>
    vendor = vendorId ∧ product = productId ∧
      (busnum ≥ 0 ∧ devnum ≥ 0 →
        (dev.busNumber.toNat : Int) = busnum ∧ (dev.deviceAddress.toNat : Int) = devnum)
  -- A device without a descriptor is passed over.
  | .error _ => false

/-- Opens the first device that is eligible; the list is freed in any case. -/
def usbdaliFindDevice (host : UsbHost) (busnum devnum : Int) :
    Attempt Resource UsbFailure Listed :=
  match host.deviceList with
  | .error count => .fail (.enumerating count)
  | .ok devs =>
    match devs.find? (eligible busnum devnum) with
    -- The list is freed along with its references to devices.
    | none => ⟨[.acquire .deviceList, .release .deviceList], .error .notFound⟩
    | some found =>
      if host.openDevice found < 0 then
        ⟨[.acquire .deviceList, .release .deviceList], .error (.opening (host.openDevice found))⟩
      else .done [.acquire .deviceList, .acquire .handle, .release .deviceList] found

/-- The endpoints of a configuration with one interface, one altsetting and two endpoints. -/
def usableEndpoints (interfaces : List (List (List (BitVec 8)))) :
    Except UsbFailure (BitVec 8 × BitVec 8) :=
  match interfaces with
  | [[[first, second]]] =>
    -- Only the direction of the first endpoint is looked at.
    if first &&& endpointDirMask = endpointIn then .ok (first, second) else .ok (second, first)
  | [[endpoints]] => .error (.endpoints endpoints.length)
  | [altsettings] => .error (.altsettings altsettings.length)
  | _ => .error (.interfaces interfaces.length)

/-- The device structure is filled in; the array of descriptors is not kept anywhere. -/
def keepDevice (host : UsbHost) (opened : Opened) : Attempt Resource UsbFailure Opened :=
  if host.arrayNew ∧ host.getPollfds then
    if host.malloc then
      -- Without memory for the queue the device is opened nevertheless.
      .done ([.acquire .usbDali, .release .config] ++
        (if opened.queue then [.acquire .queue] else []) ++
        -- The device is read from at once.
        [.release .usbfds, .acquire .transfers]) opened
    else .fail .noDevice
  else .fail .noPollfds

/-- From claiming the interface on. -/
def claimInterface (host : UsbHost) (opened : Opened) : Attempt Resource UsbFailure Opened :=
  if host.setConfiguration ≠ 0 then .fail (.settingConfiguration host.setConfiguration)
  else if host.claimInterface ≠ 0 then .fail (.claiming host.claimInterface)
  else
    .within [.acquire .interface]
      -- The two allocations are made before either of them is looked at.
      (if host.setInterfaceAltSetting ≠ 0 then .fail (.altsetting host.setInterfaceAltSetting)
      else
        .within ((if host.arrayNew then [.acquire .pollfds] else []) ++
            (if host.getPollfds then [.acquire .usbfds] else []))
          (keepDevice host opened)
          ((if host.arrayNew then [.release .pollfds] else []) ++
            (if host.getPollfds then [.release .usbfds] else [])))
      [.release .interface]

/-- From looking at the kernel driver on, which is attached again even if detaching it failed. -/
def detachDriver (host : UsbHost) (opened : Opened) : Attempt Resource UsbFailure Opened :=
  if host.kernelDriverActive < 0 then .fail (.activeState host.kernelDriverActive)
  else
    .within (if opened.detached then [.acquire .driver] else [])
      (claimInterface host opened)
      (if opened.detached then [.release .driver] else [])

/-- From reading the configuration of an open device on. -/
def configure (host : UsbHost) (freeContext : Bool) (device : Listed) :
    Attempt Resource UsbFailure Opened :=
  match host.config device with
  | .error err => .fail (.configuration err)
  | .ok interfaces =>
    .within [.acquire .config]
      (match usableEndpoints interfaces with
      | .error failure => .fail failure
      | .ok (input, output) =>
        detachDriver host
          ⟨device, input, output, freeContext, host.kernelDriverActive = 1, host.listNew⟩)
      [.release .config]

/-- Opens a device, with a context of its own if none is given. -/
def usbdaliOpen (host : UsbHost) (context dispatch : Bool) (busnum devnum : Int) :
    Attempt Resource UsbFailure Opened :=
  if ! dispatch then .fail .noDispatch
  else if ! context ∧ host.init ≠ 0 then .fail (.initializing host.init)
  else
    -- A context that was passed in stays with the caller.
    .within (if context then [] else [.acquire .context])
      ((usbdaliFindDevice host busnum devnum).andThen fun device =>
        .within [] (configure host (! context) device) [.release .handle])
      (if context then [] else [.release .context])

/-- Registers what is called for a message on the bus, along with the server. -/
def usbdaliSetOutbandCallback : List (Use Resource) := [.acquire .callback]

/-- Closes a device, and the context with it if it was made for the device. -/
def usbdaliClose (opened : Opened) (settled registered : Bool) : List (Use Resource) :=
  (if opened.queue then [.release .queue] else []) ++
    -- The transfers are cancelled, and the events handled once without waiting for any.
    (if settled then [.release .transfers] else []) ++ [.release .interface] ++
    (if opened.detached then [.release .driver] else []) ++ [.release .handle] ++
    (if opened.freeContext then [.release .context] else []) ++
    -- A registration goes with the structure that holds it.
    (if registered then [.release .callback] else []) ++ [.release .usbDali]

/-- What the calls of the system give while the server is opened. -/
structure ServerHost where
  malloc : Bool
  socket : Bool
  setsockopt : Bool
  inetPton : List Char → Bool
  bind : List Char → BitVec 16 → Bool
  listen : Bool
  listNew : Bool

/-- Why the server was not opened. -/
inductive ServerFailure where
  | allocating
  | creatingSocket
  | settingReuseaddr
  | convertingAddress
  | binding
  | listening
deriving DecidableEq, Repr

/-- From converting the address on; the result says whether there is a list of connections. -/
def listenOn (host : ServerHost) (listenaddr : List Char) (port : BitVec 16) :
    Attempt Resource ServerFailure Bool :=
  if ! host.inetPton listenaddr then .fail .convertingAddress
  else if ! host.bind listenaddr port then .fail .binding
  else if ! host.listen then .fail .listening
  else
    .done (.acquire .listening :: if host.listNew then [.acquire .connections] else [])
      host.listNew

/-- From creating the socket on, which is closed only behind the option that has to be set. -/
def openListener (host : ServerHost) (listenaddr : List Char) (port : BitVec 16) :
    Attempt Resource ServerFailure Bool :=
  if ! host.socket then .fail .creatingSocket
  else if ! host.setsockopt then ⟨[.acquire .listener], .error .settingReuseaddr⟩
  else .within [.acquire .listener] (listenOn host listenaddr port) [.release .listener]

/-- Opens the server on an address, with an entry in the dispatch table. -/
def serverOpen (host : ServerHost) (listenaddr : List Char) (port : BitVec 16) :
    Attempt Resource ServerFailure Bool :=
  if ! host.malloc then .fail .allocating
  else .within [.acquire .server] (openListener host listenaddr port) [.release .server]

/-- Closes the server with its connections. -/
def serverClose (connections : Bool) : List (Use Resource) :=
  [.release .listening, .release .listener] ++
    (if connections then [.release .connections] else []) ++ [.release .server]

/-- What the calls of the system give while the shutdown notifier is created. -/
structure IpcHost where
  malloc : Bool
  socketpair : Bool

/-- Why there is no shutdown notifier. -/
inductive IpcFailure where
  | allocating
  | creatingPair
deriving DecidableEq, Repr

/-- Creates the shutdown notifier; its memory is not freed if there are no sockets for it. -/
def ipcNew (host : IpcHost) : Attempt Resource IpcFailure Unit :=
  if ! host.malloc then .fail .allocating
  else if ! host.socketpair then ⟨[.acquire .ipc], .error .creatingPair⟩
  else .done [.acquire .ipc, .acquire .sockets] ()

def ipcRegister : List (Use Resource) := [.acquire .notifying]

def ipcFree : List (Use Resource) := [.release .notifying, .release .sockets, .release .ipc]

/-- Everything that may go wrong while the program starts. -/
structure Host where
  platform : Platform
  dispatchNew : Bool
  usb : UsbHost
  server : ServerHost
  ipc : IpcHost

end Daliserver.Startup

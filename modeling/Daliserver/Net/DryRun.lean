import Daliserver.Net.Service

/-! A dry run: the server answers by itself, and the device is left alone. -/

namespace Daliserver

open Machine

/-- The reply that is made up for every request. -/
def dryReply : Bytes := replyFrame .response 0

/-- No device is there, and every client was sent one reply for each of its requests. -/
structure Dry (dali : UsbDali ConnPtr) (world : World) : Prop where
  device : world.2.server.arg = none
  untouched : world.1 = dali
  unwatched : world.2.usbFds = []
  answered : ∀ serial, sentFrames serial world.2.log =
    (requestsFrom serial world.2.log).map fun _ => dryReply

namespace Dry

variable {dali : UsbDali ConnPtr} {world : World}

/-- Nothing is read or written, and the descriptors of libusb stay where they are. -/
theorem quiet {after : World} (dry : Dry dali world)
    (arg : after.2.server.arg = world.2.server.arg) (same : after.1 = world.1)
    (usbFds : after.2.usbFds = world.2.usbFds)
    (sent : ∀ serial, sentFrames serial after.2.log = sentFrames serial world.2.log)
    (read : ∀ serial, requestsFrom serial after.2.log = requestsFrom serial world.2.log) :
    Dry dali after := by
  -- Whoever comes or goes, the books are the same.
  refine ⟨arg.trans dry.device, same.trans dry.untouched, usbFds.trans dry.unwatched, ?_⟩
  intro serial
  rw [sent, read]
  exact dry.answered serial

/-- Without a device there is nothing to be cancelled. -/
theorem forgotten_eq (dry : Dry dali world) (tidy : Tidy world) {conn : ConnPtr}
    {connection : Connection} (found : world.2.heap conn = some connection)
    (dali : UsbDali ConnPtr) : forgotten conn connection dali = dali := by
  -- The destroy callback has no device as its argument.
  unfold forgotten
  refine if_neg fun device => device.2 ?_
  rw [(tidy.books.destroy conn connection found).2, dry.device]

theorem removed (dry : Dry dali world) (tidy : Tidy world) {conn : ConnPtr}
    {connection : Connection} (found : world.2.heap conn = some connection) :
    Dry dali (serverConnectionRemove conn world) := by
  rw [serverConnectionRemove_eq found, dry.forgotten_eq tidy found]
  exact dry.quiet rfl rfl rfl (fun serial => by simp [Net.without])
    fun serial => by simp [Net.without]

/-- Behind a request and its reply, there is one more of both. -/
theorem replied (dry : Dry dali world) {buffer : Bytes} (request : isRequest buffer = true)
    (conn : ConnPtr) (connection : Connection) :
    Dry dali (onNet (fun net => (net.heard conn connection buffer).answered conn
      { connection with waiting := true } dryReply) world) := by
  -- Both lists grow on this connection, and neither of them on another one.
  refine ⟨dry.device, dry.untouched, dry.unwatched, fun serial => ?_⟩
  simp only [onNet, Net.answered, Net.heard, sentFrames_concat, requestsFrom_concat,
    dry.answered serial, NetEffect.sentTo, NetEffect.receivedFrom]
  by_cases own : connection.serial = serial <;> simp [own, request]

/-- A request is answered at once, even if the client does not take the reply. -/
theorem read (dry : Dry dali world) (tidy : Tidy world) {conn : ConnPtr}
    {connection : Connection} (found : world.2.heap conn = some connection) (input : Input) :
    Dry dali (connectionReady input conn world) := by
  -- A refused reply removes the client, but only after it was written.
  rw [connectionReady_eq found]
  cases input.buffer with
  | none => exact dry.removed tidy found
  | some buffer =>
    dsimp only
    split
    · exact dry.removed tidy found
    · rw [netFrameHandler_eq, dry.device]
      split
      · rename_i request
        have there : (onNet (·.heard conn connection buffer) world).2.heap conn =
            some { connection with waiting := true } := Function.update_self ..
        have told := dry.forgotten_eq tidy found world.1
        show Dry dali (connectionReply conn dryReply (onNet (·.heard conn connection buffer) world))
        rw [connectionReply_eq there (by decide)]
        split
        · exact (dry.replied request conn connection).quiet rfl rfl rfl (fun _ => rfl) fun _ => rfl
        · refine (dry.replied request conn connection).quiet rfl told rfl ?_ ?_
          · exact fun serial => by simp [onNet, Net.without]
          · exact fun serial => by simp [onNet, Net.without]
      · rename_i other
        refine dry.quiet rfl rfl rfl (fun serial => by simp [onNet, Net.heard]) fun serial => ?_
        simp only [onNet, Net.heard, requestsFrom_concat, NetEffect.receivedFrom]
        split <;> simp [other]

/-- A row for libusb needs a descriptor of libusb. -/
theorem no_usb (dry : Dry dali world) (registered : Registered world.2) {index : Nat}
    {call : Call ServerFn ServerArg} (row : rowCall world.2 index = some call) :
    call.arg ≠ some .usb := by
  -- The argument of a row tells what kind of row it is, and there is none of this kind.
  intro usb
  obtain ⟨slot, found, called⟩ := Option.bind_eq_some_iff.mp row
  obtain ⟨_, arg, _, _⟩ := slotCall_some called
  have member : (slot.1, slot.2.fd) ∈ world.2.dispatch.rows :=
    List.mem_map.mpr ⟨slot, List.mem_of_getElem? found, rfl⟩
  have owner : slot.1.arg = some .usb := arg.symm.trans usb
  cases registered.rows _ member with
  | connection conn connection there fd named => cases owner.symm.trans named
  | listener fd named => cases owner.symm.trans named
  | usb fd =>
    rw [dry.unwatched] at fd
    cases fd
  | ipc fd named => cases owner.symm.trans named

/-- One event of a dry run. -/
theorem step (dry : Dry dali world) (sound : Sound world) (broadcaster : Broadcaster)
    (event : SystemEvent) : Dry dali (systemStep broadcaster world event) := by
  -- One case for each callback that can be due, which libusb's are not.
  cases event with
  | polled revents => exact dry.quiet rfl rfl rfl (fun _ => rfl) fun _ => rfl
  | row index input =>
    rw [systemStep_row]
    split
    · cases row : rowCall world.2 index with
      | none => exact dry
      | some call =>
        have called : Dry dali (calling call world) :=
          dry.quiet rfl rfl rfl (fun _ => rfl) fun _ => rfl
        have tidy := sound.tidy.calling call
        have absent := dry.no_usb sound.tidy.registered row
        cases sound.tidy.registered.due row with
        | listenerReady registration =>
          simp only [callServer, serverListenerReady, onNet]
          cases input.socket with
          | none => exact called
          | some socket =>
            dsimp only
            split
            · refine called.quiet rfl rfl rfl ?_ ?_
              · exact fun serial => by simp [Net.withConnections, connectionNew]
              · exact fun serial => by simp [Net.withConnections, connectionNew]
            · exact called
        | ready registration conn member =>
          obtain ⟨connection, found⟩ := tidy.found member
          exact called.read tidy found input
        | error registration conn error member =>
          obtain ⟨connection, found⟩ := tidy.found member
          cases error <;> exact called.removed tidy found
        | usbReady registration => exact absurd rfl absent
        | listenerError registration error => exact called
        | usbError registration error => exact called
        | ipc registration => exact called
    · exact dry

end Dry

/-- A dry run stays one, and the device stays as it was. -/
theorem dry_run (broadcaster : Broadcaster) {config : Config} (dryrun : config.dryrun = true)
    (events : List SystemEvent) :
    Dry (mainStart config).1 (run (systemStep broadcaster) (mainStart config) events) := by
  -- Nothing is registered for libusb at the start, and nothing is added later.
  have step : ∀ (world : World) (event : SystemEvent),
      Sound world ∧ Dry (mainStart config).1 world →
      Sound (systemStep broadcaster world event) ∧
        Dry (mainStart config).1 (systemStep broadcaster world event) :=
    fun world event good =>
      ⟨good.1.step broadcaster event, good.2.step good.1 broadcaster event⟩
  have start : Dry (mainStart config).1 (mainStart config) := by
    refine ⟨?_, rfl, ?_, fun serial => rfl⟩
    · simp [mainStart, ipcRegister, serverOpen, Config.usb, dryrun]
    · simp [mainStart, ipcRegister, Config.startFds, dryrun]
  exact (run_invariant step ⟨sound_start config, start⟩ events).2

end Daliserver

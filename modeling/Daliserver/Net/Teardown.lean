import Daliserver.Usb.Closing
import Daliserver.Net.Requests

/-! The end of the program: what is released in which order, and which last transfer notices. -/

namespace Daliserver

open Machine

/-- Closes the listening socket and all connections, and frees the server. -/
def serverClose (world : World) : World :=
  let world := onNet (fun net =>
    { net with dispatch := dispatchRemoveFd net.server.listener net.dispatch }) world
  -- `list_free` takes each connection off the list before it frees it.
  let world := world.2.server.connections.foldl (fun world conn =>
    connectionFree conn (onNet (·.withConnections (·.erase conn)) world)) world
  onNet (fun net => { net with closed := true }) world

/-- The shutdown notifier is taken off the table and freed. -/
def ipcFree (net : Net) : Net :=
  { net with dispatch := dispatchRemoveFd net.ipcFd net.dispatch }

/-- The reasons for which `main` tears the program down. -/
inductive Ending where
  | serverOpenFailed
  | ipcNewFailed
  | loopEnded (events : List SystemEvent)

/-- The program when `main` gets to close the device. -/
def atClose (broadcaster : Broadcaster) (config : Config) : Ending → World
  -- No callback was installed yet, and the server object is gone again.
  | .serverOpenFailed =>
    let table := config.startFds.foldl addUsbFd dispatchNew
    (usbdaliOpen config.submit,
      { serverOpen config table with
        closed := true, dispatch := table, usbFds := config.startFds.map Prod.fst })
  | .ipcNewFailed =>
    let table := config.startFds.foldl addUsbFd dispatchNew
    serverClose (usbStart config.submit,
      { serverOpen config table with usbFds := config.startFds.map Prod.fst })
  | .loopEnded events =>
    serverClose (onNet ipcFree (run (systemStep broadcaster) (mainStart config) events))

/-- The program at its very end. Without a device there is nothing to close. -/
def mainTeardown (broadcaster : Broadcaster) (config : Config) (ending : Ending)
    (completion : Completion) : World :=
  let world := atClose broadcaster config ending
  if config.dryrun then world else usbdaliClose (serverHandlers broadcaster) [completion] world

/-- Seen from the device, freeing a connection is a cancellation at most. -/
theorem serverConnectionRemove_cancels (conn : ConnPtr) (world : World) :
    ∃ args, (serverConnectionRemove conn world).1 = cancelAll args world.1 := by
  -- A connection that is gone has no requests left to cancel.
  cases found : world.2.heap conn with
  | none =>
    refine ⟨[], ?_⟩
    simp [serverConnectionRemove, connectionFree, onNet, Net.withConnections, found, cancelAll]
  | some connection =>
    rw [serverConnectionRemove_eq found]
    exact forgotten_cancels conn connection world.1

/-- Seen from the device, closing the server is a number of cancellations. -/
theorem serverClose_cancels (world : World) :
    ∃ args, (serverClose world).1 = cancelAll args world.1 := by
  -- The connections are freed one after the other, each in the state the others left behind.
  have frees : ∀ (conns : List ConnPtr) (world : World), ∃ args,
      (conns.foldl (fun world conn => serverConnectionRemove conn world) world).1 =
        cancelAll args world.1 := by
    intro conns
    induction conns with
    | nil => exact fun world => ⟨[], rfl⟩
    | cons conn rest ih =>
      intro world
      obtain ⟨args, first⟩ := serverConnectionRemove_cancels conn world
      obtain ⟨more, later⟩ := ih (serverConnectionRemove conn world)
      exact ⟨args ++ more, by rw [List.foldl_cons, later, first, cancelAll_append]⟩
  exact frees _ _

/-- What is pending stays pending when arguments are cancelled. -/
theorem pendingRequests_cancelAll (args : List (Option ConnPtr)) (dali : UsbDali ConnPtr) :
    pendingRequests (cancelAll args dali) = (pendingRequests dali).map (clearArgs args) := by
  -- Clearing arguments keeps the requests and their order.
  rw [cancelAll_eq]
  cases active : dali.transaction <;> simp [pendingRequests, active]

/-- However the program ends, the device may be closed. -/
theorem closable_atClose (broadcaster : Broadcaster) (config : Config) (ending : Ending) :
    Closable (atClose broadcaster config ending).1 := by
  cases ending with
  | serverOpenFailed => exact closable_open config.submit
  | ipcNewFailed =>
    obtain ⟨args, cancelled⟩ := serverClose_cancels (usbStart config.submit,
      { serverOpen config (config.startFds.foldl addUsbFd dispatchNew) with
        usbFds := config.startFds.map Prod.fst })
    obtain ⟨session, same⟩ := InSession.cancel args (usbStart config.submit)
    simp only [atClose]
    rw [cancelled, same]
    exact closable_run config.submit session
  | loopEnded events =>
    obtain ⟨args, cancelled⟩ := serverClose_cancels
      (onNet ipcFree (run (systemStep broadcaster) (mainStart config) events))
    -- The cancellations continue the session that the program has had so far.
    have whole := (session_run broadcaster config events).trans (InSession.cancel args _)
    obtain ⟨session, same⟩ := whole
    simp only [atClose]
    rw [cancelled]
    show Closable (cancelAll args (run (systemStep broadcaster) (mainStart config) events).1)
    rw [same]
    exact closable_run config.submit session

/-- In a dry run nothing was ever pending. -/
theorem nothing_pending (broadcaster : Broadcaster) {config : Config}
    (dry : config.dryrun = true) (ending : Ending) :
    pendingRequests (atClose broadcaster config ending).1 = [] := by
  -- Nothing is ever queued in a dry run, and closing only cancels.
  have start : pendingRequests (usbStart config.submit : UsbDali ConnPtr) = [] :=
    List.map_eq_nil_iff.mp (owners_usbStart config.submit)
  cases ending with
  | serverOpenFailed => exact start
  | ipcNewFailed =>
    obtain ⟨args, cancelled⟩ := serverClose_cancels (usbStart config.submit,
      { serverOpen config (config.startFds.foldl addUsbFd dispatchNew) with
        usbFds := config.startFds.map Prod.fst })
    simp only [atClose]
    rw [cancelled, pendingRequests_cancelAll, start, List.map_nil]
  | loopEnded events =>
    obtain ⟨args, cancelled⟩ := serverClose_cancels
      (onNet ipcFree (run (systemStep broadcaster) (mainStart config) events))
    have none : (run (systemStep broadcaster) (mainStart config) events).2.server.arg = none := by
      rw [device_run, Config.usb, dry]
      rfl
    have empty := (sound_run broadcaster config events).tidy.bound.dry none
    simp only [atClose]
    rw [cancelled, pendingRequests_cancelAll]
    exact List.map_eq_nil_iff.mpr (List.map_eq_nil_iff.mp empty)

/--
Tearing the program down is safe exactly if the last transfer has nothing to say.

However the program ends, nothing that was released is used again, and every transaction is freed
exactly once, if and only if there is no device, or the transfer that was in flight
was cancelled, or was a send that succeeded, or was a receive with no consequences:
one that timed out or brought an answer while no transaction was active, or brought a packet
that is too short, of an unknown direction, or a message from the bus of an unknown type.
-/
theorem teardown_safe_iff_harmless (broadcaster : Broadcaster) (config : Config)
    (ending : Ending) (completion : Completion) :
    let world := atClose broadcaster config ending
    SafelyClosed world.1 (mainTeardown broadcaster config ending completion).1 ↔
      config.dryrun = true ∨
        ∀ transfer,
          world.1.context.inflight.find? (·.id = completion.transfer) = some transfer →
          harmless world.1.transaction transfer.endpoint completion.status completion.received =
            true := by
  intro world
  have closable : Closable world.1 := closable_atClose broadcaster config ending
  unfold mainTeardown
  cases dry : config.dryrun with
  | true =>
    simp only [if_true, true_or, iff_true]
    -- Nothing is closed, and there is no transaction that would have to be freed.
    refine ⟨closable.clean, ⟨[], by simp [world], by simp⟩, ?_⟩
    have counted := closable.counted
    rw [nothing_pending broadcaster dry ending, List.map_nil, List.append_nil] at counted
    exact List.Perm.of_eq counted
  | false =>
    simp only [Bool.false_eq_true, if_false, false_or]
    exact usbdaliClose_safe_iff (serverHandlers broadcaster) completion closable

/-- The receive that is in flight from the start brings a message from the bus. -/
def busMessage : Completion := ⟨0, .completed, [0x11, 0x73, 0, 0, 1, 2, 0, 0, 0], 0⟩

/-- A request is being sent when the loop ends. -/
def endsWhileSending : Ending :=
  .loopEnded (clientConnects ++ [.row 3 clientAsks,
    .row 0 { calmInput with completion := some ⟨0, .cancelled, [], 0⟩ }])

/--
A callback that was never installed is called, or is passed a server that is gone.

And a send that times out reports and frees a transaction that has been freed before.
-/
theorem teardown_uses_what_is_gone :
    (¬ SafelyClosed (atClose serverBroadcaster plainConfig .serverOpenFailed).1
      (mainTeardown serverBroadcaster plainConfig .serverOpenFailed busMessage).1) ∧
    (¬ SafelyClosed (atClose serverBroadcaster plainConfig (.loopEnded [])).1
      (mainTeardown serverBroadcaster plainConfig (.loopEnded []) busMessage).1) ∧
    ¬ SafelyClosed (atClose serverBroadcaster plainConfig endsWhileSending).1
      (mainTeardown serverBroadcaster plainConfig endsWhileSending ⟨1, .timedOut, [], 0⟩).1 := by
  refine ⟨fun safe => safe.clean .nullBcastCallback ?_, fun safe => safe.not_misused ?_,
    fun safe => safe.clean (.doubleFree 0) ?_⟩
  · decide +kernel
  · exact ⟨[.cancelled 0, .bcastCallback .success (some ⟨0, 1, 2⟩) 0 (some .server)],
      by decide +kernel, _, List.mem_cons_of_mem _ (List.mem_singleton_self _), rfl⟩
  · decide +kernel

end Daliserver

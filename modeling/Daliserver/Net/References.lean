import Daliserver.Net.Tidy

/-! No connection is ever used, or waited for, after it was released. -/

namespace Daliserver

open Machine

/-- The callbacks that can be due, given what is registered. -/
inductive Due (net : Net) : Call ServerFn ServerArg → Prop where
  | listenerReady (registration : Nat) :
    Due net ⟨registration, .serverListenerReady, some .server, none⟩
  | listenerError (registration : Nat) (error : DispatchError) :
    Due net ⟨registration, .serverListenerError, some .server, some error⟩
  | ready (registration : Nat) (conn : ConnPtr) (member : conn ∈ net.server.connections) :
    Due net ⟨registration, .connectionReady, some (.connection conn), none⟩
  | error (registration : Nat) (conn : ConnPtr) (error : DispatchError)
      (member : conn ∈ net.server.connections) :
    Due net ⟨registration, .connectionError, some (.connection conn), some error⟩
  | usbReady (registration : Nat) : Due net ⟨registration, .usbdaliDispatchReady, some .usb, none⟩
  | usbError (registration : Nat) (error : DispatchError) :
    Due net ⟨registration, .usbdaliDispatchError, some .usb, some error⟩
  | ipc (registration : Nat) : Due net ⟨registration, .ipcReadZero, some .ipc, none⟩

/-- The callback that is due for the row at a position. -/
def rowCall (net : Net) (index : Nat) : Option (Call ServerFn ServerArg) :=
  net.dispatch.slots[index]?.bind slotCall

/-- A callback is the row's ready function or its error function. -/
theorem slotCall_fn {φ α : Type} {slot : DispatchEntry φ α × PollFd} {call : Call φ α}
    (due : slotCall slot = some call) :
    (call.error = none ∧ slot.1.readyfn = some call.fn) ∨
      ∃ error, call.error = some error ∧ slot.1.errorfn = some call.fn := by
  unfold slotCall at due
  cases event : eventOf slot.2 with
  | none => simp [event] at due
  | some error =>
    cases error with
    | none =>
      simp only [event, Option.map_eq_some_iff] at due
      obtain ⟨fn, ready, rfl⟩ := due
      exact .inl ⟨rfl, ready⟩
    | some error =>
      simp only [event, Option.map_eq_some_iff] at due
      obtain ⟨fn, failed, rfl⟩ := due
      exact .inr ⟨error, rfl, failed⟩

/-- What is due was registered for it. -/
theorem Registered.due {net : Net} (registered : Registered net) {index : Nat}
    {call : Call ServerFn ServerArg} (row : rowCall net index = some call) : Due net call := by
  obtain ⟨slot, found, called⟩ := Option.bind_eq_some_iff.mp row
  obtain ⟨_, arg, _, _⟩ := slotCall_some called
  have fns := slotCall_fn called
  have member : (slot.1, slot.2.fd) ∈ net.dispatch.rows :=
    List.mem_map.mpr ⟨slot, List.mem_of_getElem? found, rfl⟩
  obtain ⟨registration, fn, argument, failure⟩ := call
  -- The kind of the row decides on its functions and on its argument.
  cases registered.rows _ member with
  | connection conn connection there fd named readyfn errorfn =>
    have known := registered.listed conn connection there
    obtain rfl := arg.trans named
    rcases fns with ⟨plain, own⟩ | ⟨error, failed, own⟩
    · obtain rfl : failure = none := plain
      obtain rfl : fn = .connectionReady := Option.some.inj (own.symm.trans readyfn)
      exact .ready registration conn known
    · obtain rfl : failure = some error := failed
      obtain rfl : fn = .connectionError := Option.some.inj (own.symm.trans errorfn)
      exact .error registration conn error known
  | listener fd named readyfn errorfn =>
    obtain rfl := arg.trans named
    rcases fns with ⟨plain, own⟩ | ⟨error, failed, own⟩
    · obtain rfl : failure = none := plain
      obtain rfl : fn = .serverListenerReady := Option.some.inj (own.symm.trans readyfn)
      exact .listenerReady registration
    · obtain rfl : failure = some error := failed
      obtain rfl : fn = .serverListenerError := Option.some.inj (own.symm.trans errorfn)
      exact .listenerError registration error
  | usb fd named readyfn errorfn =>
    obtain rfl := arg.trans named
    rcases fns with ⟨plain, own⟩ | ⟨error, failed, own⟩
    · obtain rfl : failure = none := plain
      obtain rfl : fn = .usbdaliDispatchReady := Option.some.inj (own.symm.trans readyfn)
      exact .usbReady registration
    · obtain rfl : failure = some error := failed
      obtain rfl : fn = .usbdaliDispatchError := Option.some.inj (own.symm.trans errorfn)
      exact .usbError registration error
  | ipc fd named readyfn errorfn =>
    obtain rfl := arg.trans named
    rcases fns with ⟨plain, own⟩ | ⟨error, failed, own⟩
    · obtain rfl : failure = none := plain
      obtain rfl : fn = .ipcReadZero := Option.some.inj (own.symm.trans readyfn)
      exact .ipc registration
    · rw [errorfn] at own
      cases own

/-- The program when a callback is about to be invoked. -/
def calling (call : Call ServerFn ServerArg) (world : World) : World :=
  onNet (fun net => { net with dispatch := net.dispatch.log (.called call) }) world

/-- An event at a row invokes the callback that is due there, if any. -/
theorem systemStep_row (broadcaster : Broadcaster) (world : World) (index : Nat)
    (input : Input) :
    systemStep broadcaster world (.row index input) =
      if input.possible world.2 then
        match rowCall world.2 index with
        | none => world
        | some call => callServer broadcaster input call (calling call world)
      else world := by
  -- Looking up the row and asking what it is due are joined into one lookup.
  simp only [systemStep, rowCall, dispatchRow, serverClient]
  by_cases possible : input.possible world.2 = true
  · rw [if_pos possible, if_pos possible]
    cases world.2.dispatch.slots[index]? with
    | none => rfl
    | some slot =>
      simp only [Option.bind_some]
      cases slotCall slot <;> rfl
  · rw [if_neg possible, if_neg possible]

/-- Noting a callback changes no reference. -/
theorem Tidy.calling {world : World} (tidy : Tidy world) (call : Call ServerFn ServerArg) :
    Tidy (calling call world) :=
  ⟨tidy.registered.congr rfl rfl rfl rfl rfl, tidy.books.congr rfl rfl rfl rfl rfl,
    tidy.bound.args, tidy.bound.dry⟩

/-- Removing a connection the server knows leaves everything in order. -/
theorem Tidy.removed {world : World} (tidy : Tidy world) {conn : ConnPtr}
    (member : conn ∈ world.2.server.connections) : Tidy (serverConnectionRemove conn world) := by
  -- A listed connection is alive, so its removal has the explicit form.
  obtain ⟨connection, found⟩ := tidy.found member
  rw [serverConnectionRemove_eq found]
  exact tidy.remove found

/-- Reading a frame is a change of the flag, and then the frame is handled. -/
theorem connectionReady_eq {input : Input} {conn : ConnPtr} {connection : Connection}
    {world : World} (found : world.2.heap conn = some connection) :
    connectionReady input conn world =
      match input.buffer with
      | none => serverConnectionRemove conn world
      | some buffer =>
        if buffer.length < world.2.server.framesize then serverConnectionRemove conn world
        else netFrameHandler input.memory input.submit world.2.server.arg buffer conn
          (onNet (·.heard conn connection buffer) world) := by
  unfold connectionReady
  rw [found]
  rfl

/-- A frame from a connection the server knows leaves everything in order. -/
theorem Tidy.frame {world : World} (tidy : Tidy world) {conn : ConnPtr}
    (member : conn ∈ world.2.server.connections) (memory : Bool) (submit : Int) (buffer : Bytes) :
    Tidy (netFrameHandler memory submit world.2.server.arg buffer conn world) := by
  rw [netFrameHandler_eq]
  split
  · cases device : world.2.server.arg with
    | none => exact tidy.reply member (by simp)
    | some device' =>
      cases device'
      -- The request is owed to the connection it came from, which the server knows.
      refine ⟨tidy.registered, tidy.books, ⟨?_, ?_⟩⟩
      · intro owner owed
        simp only [onDali, owners_queue] at owed
        split at owed
        · rcases List.mem_append.mp owed with old | new
          · exact tidy.bound.args owner old
          · simp only [List.mem_singleton, Option.some.injEq] at new
            rw [new]
            exact member
        · exact tidy.bound.args owner owed
      · intro dry
        change world.2.server.arg = none at dry
        rw [device] at dry
        cases dry
  · exact tidy

/-- Reading from a connection the server knows leaves everything in order. -/
theorem Tidy.read {world : World} (tidy : Tidy world) {conn : ConnPtr}
    (member : conn ∈ world.2.server.connections) (input : Input) :
    Tidy (connectionReady input conn world) := by
  -- A bad read removes the connection, and a full frame raises its flag first.
  obtain ⟨connection, found⟩ := tidy.found member
  rw [connectionReady_eq found]
  cases input.buffer with
  | none => exact tidy.removed member
  | some buffer =>
    dsimp only
    split
    · exact tidy.removed member
    · have heard : Tidy (onNet (·.heard conn connection buffer) world) :=
        tidy.flag (flagged_heard found buffer)
      have handled := heard.frame member input.memory input.submit buffer
      exact handled

/-- A report of the device reaches only connections the server knows. -/
theorem Tidy.carryOut {world : World} (tidy : Tidy world) (service : InService world.1)
    (alive : ActiveAlive world.1) (broadcaster : Broadcaster) (report : Report) :
    Tidy (report.carryOut (serverHandlers broadcaster) world) := by
  cases report with
  | silent => exact tidy
  | broadcast error frame status =>
    simp only [Report.carryOut, callBcast, service.bcast, if_true, serverHandlers]
    have noted : Tidy (onDali (fun dali => dali.log
        (.bcastCallback error frame status dali.bcastArg)) world) :=
      tidy.device_same (owners_congr rfl rfl)
    obtain ⟨address, command, visits, walk, live⟩ :=
      daliOutbandHandler_walk broadcaster error frame world.1.bcastArg noted.books.open_
    rw [walk]
    exact Tidy.walk (List.cons_ne_nil _ _) noted (live noted.registered.linked)
  | finished error frame response status =>
    cases active : world.1.transaction with
    | none =>
      simp only [Report.carryOut, finishTransaction, active]
      exact tidy.device_same (owners_congr rfl rfl)
    | some transaction =>
      rw [carryOut_finished active alive service.req]
      have noted : Tidy (onDali (·.log (.reqCallback transaction error
          (frame.getD transaction.request) response status)) world) :=
        tidy.device_same (owners_congr rfl rfl)
      have answered : Tidy ((serverHandlers broadcaster).reqCallback error
          (frame.getD transaction.request) response status transaction.arg
          (onDali (·.log (.reqCallback transaction error (frame.getD transaction.request)
            response status)) world)) := by
        simp only [serverHandlers]
        cases arg : transaction.arg with
        | none => exact noted
        | some conn =>
          -- The active transaction is one of those that are owed an answer.
          have owed : some conn ∈ owners world.1 := by simp [owners, pendingRequests, active, arg]
          apply noted.reply (tidy.bound.args conn owed)
          unfold replyFrame
          split
          · simp
          · split <;> simp
      refine answered.device ?_ ?_
      · intro conn owed
        rw [owners_freed] at owed
        rw [owners, pendingRequests, List.map_append]
        exact List.mem_append_right _ owed
      · intro nobody
        rw [owners_freed]
        rw [owners, pendingRequests, List.map_append, List.append_eq_nil_iff] at nobody
        exact nobody.2

/-- What libusb does to the program when it reports a completion to a sound device. -/
theorem libusbComplete_world (broadcaster : Broadcaster) {world : World}
    (sound : UsbSound world.1) (completion : Completion) :
    (world.1.context.inflight.find? (·.id = completion.transfer) = none ∧
      libusbComplete (serverHandlers broadcaster) completion world = world) ∨
    ∃ transfer, world.1.context.inflight.find? (·.id = completion.transfer) = some transfer ∧
      libusbComplete (serverHandlers broadcaster) completion world =
        onDali (fun dali => usbdaliNext completion.submit (clearSlot transfer.endpoint dali))
          ((transferReport world.1 transfer completion).carryOut (serverHandlers broadcaster)
            (onDali (retire transfer) world)) := by
  cases held : world.1.context.inflight.find? (·.id = completion.transfer) with
  | none => exact .inl ⟨rfl, by simp [libusbComplete, held]⟩
  | some transfer =>
    exact .inr ⟨transfer, rfl, sound.libusbComplete_held held _⟩

/-- The device is in order, and so are all references to connections. -/
structure Sound (world : World) : Prop where
  usb : UsbSound world.1
  tidy : Tidy world

/-- All that happened to the device is a session of requests, cancellations, and completions. -/
def InSession (before after : UsbDali ConnPtr) : Prop :=
  ∃ events, after = run usbStep before events

/-- A device to which nothing happened. -/
theorem InSession.refl (dali : UsbDali ConnPtr) : InSession dali dali := ⟨[], rfl⟩

/-- A session may be continued. -/
theorem InSession.trans {first second third : UsbDali ConnPtr} (one : InSession first second)
    (two : InSession second third) : InSession first third := by
  -- Two stretches of device events follow each other.
  obtain ⟨events, rfl⟩ := one
  obtain ⟨more, rfl⟩ := two
  exact ⟨events ++ more, (run_append ..).symm⟩

/-- Cancelling arguments is a session. -/
theorem InSession.cancel (args : List (Option ConnPtr)) (dali : UsbDali ConnPtr) :
    InSession dali (cancelAll args dali) :=
  ⟨args.map .cancel, by simp [run, cancelAll, List.foldl_map, usbStep]⟩

/-- A session leaves a sound device sound. -/
theorem InSession.sound {before after : UsbDali ConnPtr} (session : InSession before after)
    (sound : UsbSound before) : UsbSound after := by
  -- Soundness is an invariant of single device events.
  obtain ⟨events, rfl⟩ := session
  exact run_invariant (fun _ event sound => sound.step event) sound events

/-- Seen from the device, a completion in the program is one in a session. -/
theorem Sound.complete_session {world : World} (sound : Sound world) (broadcaster : Broadcaster)
    (completion : Completion) :
    InSession world.1 (libusbComplete (serverHandlers broadcaster) completion world).1 := by
  cases held : world.1.context.inflight.find? (·.id = completion.transfer) with
  | none =>
    simp only [libusbComplete, held]
    exact InSession.refl _
  | some transfer =>
    -- The callbacks have cancelled some arguments on the way.
    obtain ⟨args, seen⟩ := sound.usb.libusbComplete_held_fst held (serverHandlers broadcaster)
    refine ⟨[.complete completion args], ?_⟩
    rw [seen, run_cons, run_nil, sound.usb.usbStep_held held]

/-- A completion leaves the program in order. -/
theorem Sound.complete {world : World} (sound : Sound world) (broadcaster : Broadcaster)
    (completion : Completion) :
    Sound (libusbComplete (serverHandlers broadcaster) completion world) := by
  -- The report goes to the server's handlers, and the scheduling after it keeps all owners.
  rcases libusbComplete_world broadcaster sound.usb completion with
    ⟨_, same⟩ | ⟨transfer, held, done⟩
  · rwa [same]
  · have service := sound.usb.coherent.service
    refine ⟨(sound.complete_session broadcaster completion).sound sound.usb, ?_⟩
    rw [done]
    have retired : Tidy (onDali (retire transfer) world) :=
      sound.tidy.device_same (owners_congr rfl rfl)
    have reported := retired.carryOut ⟨service.req, service.bcast, service.open_⟩
      sound.usb.ledger.activeAlive broadcaster (transferReport world.1 transfer completion)
    apply reported.device_same
    rw [owners_next]
    cases transfer.endpoint <;> exact owners_congr rfl rfl

/-- A notice of libusb leaves the program in order. -/
theorem Sound.notify {world : World} (sound : Sound world) {notice : Option PollNotice}
    (added : ∀ fd events, notice = some (.added fd events) → 0 ≤ fd ∧ fd ∉ openFds world.2)
    (removed : ∀ fd, notice = some (.removed fd) → fd ∈ world.2.usbFds) :
    Sound (onNet (notify notice) world) := by
  -- A notice changes the table and the adapter's descriptors together.
  refine ⟨sound.usb, ?_⟩
  cases notice with
  | none => exact sound.tidy
  | some notice =>
    cases notice with
    | added fd events =>
      obtain ⟨valid, fresh⟩ := added fd events rfl
      exact ⟨sound.tidy.registered.addPollfd valid fresh events,
        sound.tidy.books.congr rfl rfl rfl rfl rfl, sound.tidy.bound.args, sound.tidy.bound.dry⟩
    | removed fd =>
      exact ⟨sound.tidy.registered.removePollfd (removed fd rfl),
        sound.tidy.books.congr rfl rfl rfl rfl rfl, sound.tidy.bound.args, sound.tidy.bound.dry⟩

/-- Nothing new is opened, and the server keeps its device. -/
structure NoNewFds (before after : Net) : Prop where
  usbFds : after.usbFds = before.usbFds
  fds : openFds after ⊆ openFds before
  device : after.server.arg = before.server.arg

/-- What opens nothing twice opens nothing. -/
theorem NoNewFds.trans {first second third : Net} (one : NoNewFds first second)
    (two : NoNewFds second third) : NoNewFds first third :=
  ⟨two.usbFds.trans one.usbFds, fun _ member => one.fds (two.fds member),
    two.device.trans one.device⟩

/-- Removing a connection closes its socket. -/
theorem noNewFds_without (net : Net) (conn : ConnPtr) (connection : Connection) :
    NoNewFds net (net.without conn connection) := by
  refine ⟨rfl, ?_, rfl⟩
  unfold openFds
  refine List.cons_subset_cons _ (List.cons_subset_cons _ ?_)
  refine List.append_subset.mpr ⟨List.subset_append_left _ _, ?_⟩
  intro fd member
  apply List.mem_append_right _
  obtain ⟨other, listed, socket⟩ := List.mem_filterMap.mp member
  refine List.mem_filterMap.mpr ⟨other, List.mem_of_mem_erase listed, ?_⟩
  -- The removed connection has no socket any more, and all others keep theirs.
  by_cases same : other = conn
  · simp [Net.without, same] at socket
  · simpa only [Net.without, Function.update_of_ne same] using socket

/-- A reply opens nothing. -/
theorem noNewFds_reply (conn : ConnPtr) (buffer : Bytes) (world : World) :
    NoNewFds world.2 (connectionReply conn buffer world).2 := by
  -- A reply rewrites a flag, and on a failed write it closes one descriptor.
  have same : NoNewFds world.2 world.2 := ⟨rfl, List.Subset.refl _, rfl⟩
  cases found : world.2.heap conn with
  | none =>
    rw [connectionReply_dead found]
    exact ⟨rfl, List.Subset.refl _, rfl⟩
  | some connection =>
    have answered : ∀ buffer, NoNewFds world.2 (world.2.answered conn connection buffer) :=
      fun buffer => ⟨rfl, by rw [(flagged_answered found buffer).openFds]; exact same.fds, rfl⟩
    by_cases empty : buffer = []
    · subst empty
      unfold connectionReply
      rw [found]
      exact ⟨rfl, (answered []).fds, rfl⟩
    · rw [connectionReply_eq found empty]
      split
      · exact answered buffer
      · exact (answered buffer).trans (noNewFds_without _ conn connection)

/-- Neither callback of the device opens anything. -/
theorem serverHandlers_noNewFds (broadcaster : Broadcaster) :
    (serverHandlers broadcaster).Respect NoNewFds := by
  have same : ∀ net, NoNewFds net net := fun net => ⟨rfl, List.Subset.refl _, rfl⟩
  have keep : RepliesKeep fun before after => NoNewFds before.2 after.2 :=
    ⟨fun world => same world.2, NoNewFds.trans, noNewFds_reply,
      fun _ _ => ⟨rfl, List.Subset.refl _, rfl⟩⟩
  refine ⟨same, ?_, ?_⟩
  · intro error frame response status arg world
    exact keep.inband error response arg world
  · intro error frame status arg world
    exact keep.outband broadcaster error frame arg world

/-- What the operating system promises about its answers. -/
theorem Input.possible_spec {input : Input} {net : Net} (possible : input.possible net = true) :
    (∀ socket, input.socket = some socket →
      0 ≤ socket ∧ socket ∉ openFds net ∧ net.heap input.pointer = none) ∧
    (∀ fd events, input.notice = some (.added fd events) → 0 ≤ fd ∧ fd ∉ openFds net) ∧
    ∀ fd, input.notice = some (.removed fd) → fd ∈ net.usbFds := by
  -- The check is a conjunction of one part for the socket and one for the notice.
  unfold Input.possible at possible
  rw [Bool.and_eq_true] at possible
  refine ⟨?_, ?_, ?_⟩
  · intro socket accepted
    have promise := possible.1
    simp only [accepted, Bool.and_eq_true, decide_eq_true_eq, Option.isNone_iff_eq_none] at promise
    exact ⟨promise.1.1, promise.1.2, promise.2⟩
  · intro fd events added
    have promise := possible.2
    simpa only [added, Bool.and_eq_true, decide_eq_true_eq] using promise
  · intro fd removed
    have promise := possible.2
    simpa only [removed, decide_eq_true_eq] using promise

/-- Whatever libusb does, the program stays in order. -/
theorem Sound.usbReady {world : World} (sound : Sound world) (broadcaster : Broadcaster)
    {input : Input} (possible : input.possible world.2 = true) :
    Sound (usbdaliDispatchReady broadcaster input world) := by
  obtain ⟨_, added, removed⟩ := Input.possible_spec possible
  unfold usbdaliDispatchReady
  cases input.completion with
  | none => exact sound.notify added removed
  | some completion =>
    -- The completion opens nothing, so the promises still hold after it.
    have closed := (serverHandlers_noNewFds broadcaster).complete completion world
    refine (sound.complete broadcaster completion).notify ?_ ?_
    · intro fd events named
      obtain ⟨valid, fresh⟩ := added fd events named
      exact ⟨valid, fun member => fresh (closed.fds member)⟩
    · intro fd named
      rw [closed.usbFds]
      exact removed fd named

/-- Seen from the device, a frame is a request or a cancellation at most. -/
theorem frame_session (memory : Bool) (submit : Int) (arg : Option UsbPtr) (buffer : Bytes)
    (conn : ConnPtr) (world : World) :
    InSession world.1 (netFrameHandler memory submit arg buffer conn world).1 := by
  -- A request is queued with the connection as its owner; without a device only replies happen.
  rw [netFrameHandler_eq]
  split
  · cases arg with
    | none =>
      obtain ⟨args, cancelled⟩ := connectionReply_cancels conn
        [defaultNetProtocol, netStatusResponse, 0, 0] world
      simp only [cancelled]
      exact InSession.cancel args _
    | some device =>
      cases device
      exact ⟨[.queue _ (some conn) memory submit], rfl⟩
  · exact InSession.refl _

/-- Seen from the device, removing a connection is a cancellation at most. -/
theorem removed_session {world : World} {conn : ConnPtr} {connection : Connection}
    (found : world.2.heap conn = some connection) :
    InSession world.1 (serverConnectionRemove conn world).1 := by
  -- Freeing a connection cancels its requests, which is a device event for each.
  rw [serverConnectionRemove_eq found]
  obtain ⟨args, cancelled⟩ := forgotten_cancels conn connection world.1
  simp only [cancelled]
  exact InSession.cancel args _

/-- Seen from the device, a read is a request or a cancellation at most. -/
theorem read_session {world : World} {conn : ConnPtr} {connection : Connection}
    (found : world.2.heap conn = some connection) (input : Input) :
    InSession world.1 (connectionReady input conn world).1 := by
  -- Reading itself does not touch the device.
  rw [connectionReady_eq found]
  cases input.buffer with
  | none => exact removed_session found
  | some buffer =>
    dsimp only
    split
    · exact removed_session found
    · exact frame_session _ _ _ buffer conn (onNet (·.heard conn connection buffer) world)

/-- Seen from the device, whatever callback is invoked continues the session. -/
theorem Sound.call_session {world : World} (sound : Sound world) (broadcaster : Broadcaster)
    (input : Input) {call : Call ServerFn ServerArg} (due : Due world.2 call) :
    InSession world.1 (callServer broadcaster input call (calling call world)).1 := by
  -- One case for each callback that a row can be due.
  have called : Sound (calling call world) := ⟨sound.usb, sound.tidy.calling call⟩
  cases due with
  | listenerReady registration => exact InSession.refl _
  | listenerError registration error => exact InSession.refl _
  | ready registration conn member =>
    obtain ⟨connection, found⟩ := called.tidy.found member
    exact read_session found input
  | error registration conn error member =>
    obtain ⟨connection, found⟩ := called.tidy.found member
    have removed := removed_session found
    cases error <;> exact removed
  | usbReady registration =>
    simp only [callServer, usbdaliDispatchReady, onNet]
    cases input.completion with
    | none => exact InSession.refl _
    | some completion => exact called.complete_session broadcaster completion
  | usbError registration error => exact InSession.refl _
  | ipc registration => exact InSession.refl _

/-- Invoking the callback that is due leaves the program in order. -/
theorem Sound.call {world : World} (sound : Sound world) (broadcaster : Broadcaster)
    {input : Input} (possible : input.possible world.2 = true)
    {call : Call ServerFn ServerArg} (due : Due world.2 call) :
    Sound (callServer broadcaster input call (calling call world)) := by
  -- The device side is covered by the session, so only the server side is left.
  refine ⟨(sound.call_session broadcaster input due).sound sound.usb, ?_⟩
  have called : Sound (calling call world) := ⟨sound.usb, sound.tidy.calling call⟩
  cases due with
  | listenerReady registration =>
    obtain ⟨accepts, _, _⟩ := Input.possible_spec possible
    simp only [callServer, serverListenerReady, onNet]
    cases accepted : input.socket with
    | none => exact called.tidy
    | some socket =>
      obtain ⟨valid, fresh, free⟩ := accepts socket accepted
      dsimp only
      split
      · refine ⟨called.tidy.registered.open valid fresh free,
          called.tidy.books.open input.pointer socket, ⟨?_, ?_⟩⟩
        · intro owner owed
          exact List.mem_append_left _ (sound.tidy.bound.args owner owed)
        · exact sound.tidy.bound.dry
      · exact called.tidy
  | listenerError registration error => exact called.tidy
  | ready registration conn member => exact called.tidy.read member input
  | error registration conn error member =>
    have removed := called.tidy.removed member
    cases error <;> exact removed
  | usbReady registration => exact (called.usbReady broadcaster possible).tidy
  | usbError registration error => exact called.tidy
  | ipc registration => exact called.tidy

/-- One event leaves the program in order. -/
theorem Sound.step {world : World} (sound : Sound world) (broadcaster : Broadcaster)
    (event : SystemEvent) : Sound (systemStep broadcaster world event) := by
  -- Polling writes no row, and a visited row is due by the registrations.
  cases event with
  | polled revents =>
    exact ⟨sound.usb, sound.tidy.registered.congr (Dispatch.rows_poll revents _) rfl rfl rfl rfl,
      sound.tidy.books.congr rfl rfl rfl rfl rfl, sound.tidy.bound.args, sound.tidy.bound.dry⟩
  | row index input =>
    rw [systemStep_row]
    by_cases possible : input.possible world.2 = true
    · rw [if_pos possible]
      cases row : rowCall world.2 index with
      | none => exact sound
      | some call => exact sound.call broadcaster possible (sound.tidy.registered.due row)
    · rw [if_neg possible]
      exact sound

/-- The rows of libusb when the program starts. -/
theorem rows_addUsbFds (fds : List (Int × BitVec 16)) (valid : ∀ fd ∈ fds, 0 ≤ fd.1)
    (table : Dispatch ServerFn ServerArg) :
    (fds.foldl addUsbFd table).rows.map Prod.snd = table.rows.map Prod.snd ++ fds.map Prod.fst ∧
      ∀ row ∈ (fds.foldl addUsbFd table).rows, row ∈ table.rows ∨
        row.2 ∈ fds.map Prod.fst ∧ row.1.arg = some .usb ∧
        row.1.readyfn = some .usbdaliDispatchReady ∧
        row.1.errorfn = some .usbdaliDispatchError := by
  -- Rows are appended in the order of the list, each with the callbacks of the adapter.
  induction fds generalizing table with
  | nil => exact ⟨by simp, fun row member => .inl member⟩
  | cons fd rest ih =>
    have rows : (addUsbFd table fd).rows = _ := rows_dispatchAdd (valid fd (by simp)) ..
    obtain ⟨order, kinds⟩ := ih (fun other member => valid other (by simp [member]))
      (addUsbFd table fd)
    refine ⟨by rw [List.foldl_cons, order, rows]; simp, ?_⟩
    intro row member
    rcases kinds row member with before | ⟨named, kind⟩
    · rw [rows] at before
      rcases List.mem_append.mp before with old | new
      · exact .inl old
      · rw [List.mem_singleton.mp new]
        exact .inr ⟨by simp, rfl, rfl, rfl⟩
    · exact .inr ⟨List.mem_cons_of_mem _ named, kind⟩

/-- The descriptors at the start are valid and distinct, with or without a device. -/
theorem Config.startFds_spec (config : Config) :
    (config.listener :: config.ipcFd :: config.startFds.map Prod.fst).Nodup ∧
      ∀ fd ∈ config.listener :: config.ipcFd :: config.startFds.map Prod.fst, 0 ≤ fd := by
  -- A dry run uses none of the adapter's descriptors, and the rest stay distinct.
  have fewer : (config.listener :: config.ipcFd :: config.startFds.map Prod.fst).Sublist
      (config.listener :: config.ipcFd :: config.usbFds.map Prod.fst) := by
    refine (List.Sublist.cons_cons _ (List.Sublist.cons_cons _ (List.Sublist.map _ ?_)))
    unfold startFds
    split
    · exact List.nil_sublist _
    · exact List.Sublist.refl _
  exact ⟨config.distinct.sublist fewer, fun fd member => config.valid fd (fewer.subset member)⟩

/-- The program is in order when it enters its event loop. -/
theorem sound_start (config : Config) : Sound (mainStart config) := by
  obtain ⟨distinct, valid⟩ := config.startFds_spec
  obtain ⟨order, kinds⟩ := rows_addUsbFds config.startFds
    (fun fd member => valid fd.1 (List.mem_cons_of_mem _ (List.mem_cons_of_mem _
      (List.mem_map_of_mem member)))) dispatchNew
  obtain ⟨first, second, table⟩ : ∃ first second, (mainStart config).2.dispatch.rows =
      (config.startFds.foldl addUsbFd dispatchNew).rows ++
        [(⟨first, some .server, some .serverListenerReady, some .serverListenerError, none⟩,
            config.listener),
          (⟨second, some .ipc, some .ipcReadZero, none, none⟩, config.ipcFd)] := by
    let usb := config.startFds.foldl addUsbFd dispatchNew
    refine ⟨usb.registrations, (serverOpen config usb).dispatch.registrations, ?_⟩
    -- The notifier comes last, after the listening socket.
    show (dispatchAdd config.ipcFd ..).rows = _
    rw [rows_dispatchAdd (valid _ (by simp))]
    show (dispatchAdd config.listener ..).rows ++ _ = _
    rw [rows_dispatchAdd (valid _ (by simp)), List.append_assoc]
    rfl
  have fds : openFds (mainStart config).2 =
      config.listener :: config.ipcFd :: config.startFds.map Prod.fst := by
    show config.listener :: config.ipcFd :: (config.startFds.map Prod.fst ++ []) = _
    rw [List.append_nil]
  refine ⟨usbSound_start config.submit, ⟨?_, ?_, ?_, ?_, ⟨List.nodup_nil, ?_⟩, ?_⟩,
    ⟨?_, ?_, ?_, ?_, ?_, List.nodup_nil, ?_, ⟨rfl, rfl⟩, rfl, rfl⟩, ⟨?_, ?_⟩⟩
  · -- The rows come in another order than the descriptors are listed.
    rw [table, List.map_append, order]
    have shuffled : ([] ++ config.startFds.map Prod.fst ++
        [config.listener, config.ipcFd]).Perm
        (config.listener :: config.ipcFd :: config.startFds.map Prod.fst) := by
      rw [List.nil_append]
      exact List.perm_append_comm
    exact shuffled.nodup_iff.mpr distinct
  · intro row member
    rw [table] at member
    rcases List.mem_append.mp member with usb | others
    · rcases kinds row usb with none | ⟨fd, arg, ready, error⟩
      · cases none
      · exact .usb fd arg ready error
    · simp only [List.mem_cons, List.not_mem_nil, or_false] at others
      rcases others with rfl | rfl
      · exact .listener rfl rfl rfl rfl
      · exact .ipc rfl rfl rfl rfl
  · intro conn connection found
    cases found
  · rw [fds]
    exact distinct
  · intro conn member
    cases member
  · intro conn connection found
    cases found
  · intro conn connection found
    cases found
  · intro conn connection found
    cases found
  · intro conn other first second found
    cases found
  · intro effect member
    cases member
  · intro serial member
    cases member
  · intro fault member
    cases member
  · intro conn owed
    rw [mainStart, owners_usbStart] at owed
    cases owed
  · intro _
    rw [mainStart, owners_usbStart]

/-- The program is in order in every state it can reach. -/
theorem sound_run (broadcaster : Broadcaster) (config : Config) (events : List SystemEvent) :
    Sound (run (systemStep broadcaster) (mainStart config) events) :=
  run_invariant (fun _ event sound => sound.step broadcaster event) (sound_start config) events

/-- Seen from the device, one event of the program continues the session. -/
theorem Sound.step_session {world : World} (sound : Sound world) (broadcaster : Broadcaster)
    (event : SystemEvent) : InSession world.1 (systemStep broadcaster world event).1 := by
  -- Only a due callback reaches the device.
  cases event with
  | polled revents => exact InSession.refl _
  | row index input =>
    rw [systemStep_row]
    split
    · cases row : rowCall world.2 index with
      | none => exact InSession.refl _
      | some call => exact sound.call_session broadcaster input (sound.tidy.registered.due row)
    · exact InSession.refl _

/--
The program uses the device in sessions.

Whatever is true of every session of the device is thus true of the device in the program.
-/
theorem session_run (broadcaster : Broadcaster) (config : Config) (events : List SystemEvent) :
    InSession (usbStart config.submit)
      (run (systemStep broadcaster) (mainStart config) events).1 := by
  -- The device of a sound program is matched by the same device on its own.
  let matched : World → UsbDali ConnPtr → Prop := fun world dali => Sound world ∧ world.1 = dali
  have simulates : ∀ world dali event, matched world dali →
      ∃ below, matched (systemStep broadcaster world event) (run usbStep dali below) := by
    rintro world _ event ⟨sound, rfl⟩
    obtain ⟨below, same⟩ := sound.step_session broadcaster event
    exact ⟨below, sound.step broadcaster event, same⟩
  obtain ⟨below, _, same⟩ := run_simulates simulates ⟨sound_start config, rfl⟩ events
  exact ⟨below, same⟩

/-- Removing a connection does not change the server's device. -/
theorem removed_device {world : World} {conn : ConnPtr} {connection : Connection}
    (found : world.2.heap conn = some connection) :
    (serverConnectionRemove conn world).2.server.arg = world.2.server.arg := by
  rw [serverConnectionRemove_eq found]
  rfl

/-- Handling a frame does not change the server's device. -/
theorem frame_device (memory : Bool) (submit : Int) (arg : Option UsbPtr) (buffer : Bytes)
    (conn : ConnPtr) (world : World) :
    (netFrameHandler memory submit arg buffer conn world).2.server.arg = world.2.server.arg := by
  -- Neither queueing nor replying writes the server's argument.
  rw [netFrameHandler_eq]
  split
  · cases arg with
    | none => exact (noNewFds_reply conn _ world).device
    | some device =>
      cases device
      rfl
  · rfl

/-- Reading from a connection does not change the server's device. -/
theorem read_device {world : World} {conn : ConnPtr} {connection : Connection}
    (found : world.2.heap conn = some connection) (input : Input) :
    (connectionReady input conn world).2.server.arg = world.2.server.arg := by
  rw [connectionReady_eq found]
  cases input.buffer with
  | none => exact removed_device found
  | some buffer =>
    dsimp only
    split
    · exact removed_device found
    · exact frame_device _ _ _ buffer conn (onNet (·.heard conn connection buffer) world)

/-- The server has the device it was opened with, or none. -/
theorem device_run (broadcaster : Broadcaster) (config : Config) (events : List SystemEvent) :
    (run (systemStep broadcaster) (mainStart config) events).2.server.arg = config.usb := by
  have step : ∀ world event, Sound world →
      (systemStep broadcaster world event).2.server.arg = world.2.server.arg := by
    intro world event sound
    cases event with
    | polled revents => rfl
    | row index input =>
      rw [systemStep_row]
      split
      · cases row : rowCall world.2 index with
        | none => rfl
        | some call =>
          have called := sound.tidy.calling call
          cases sound.tidy.registered.due row with
          | listenerReady registration =>
            simp only [callServer, serverListenerReady, onNet]
            split
            · rfl
            · split <;> rfl
          | listenerError registration error => rfl
          | ready registration conn member =>
            obtain ⟨connection, found⟩ := called.found member
            exact read_device found input
          | error registration conn error member =>
            obtain ⟨connection, found⟩ := called.found member
            have removed := removed_device found
            cases error <;> exact removed
          | usbReady registration =>
            -- Neither a completion nor a notice of libusb reaches the server object itself.
            simp only [callServer, usbdaliDispatchReady, onNet]
            have noticed : ∀ net, (notify input.notice net).server = net.server := by
              intro net
              cases input.notice with
              | none => rfl
              | some notice => cases notice <;> rfl
            rw [noticed]
            cases input.completion with
            | none => rfl
            | some completion =>
              exact ((serverHandlers_noNewFds broadcaster).complete completion _).device
          | usbError registration error => rfl
          | ipc registration => rfl
      · rfl
  have kept : ∀ world event, Sound world ∧ world.2.server.arg = config.usb →
      Sound (systemStep broadcaster world event) ∧
        (systemStep broadcaster world event).2.server.arg = config.usb :=
    fun world event before => ⟨before.1.step broadcaster event,
      (step world event before.1).trans before.2⟩
  exact (run_invariant kept ⟨sound_start config, rfl⟩ events).2

/-- A connection has exactly one row in the table. -/
theorem Registered.single {net : Net} (registered : Registered net) {conn : ConnPtr}
    {connection : Connection} (found : net.heap conn = some connection) :
    ∃ row, net.dispatch.rows.filter (fun row => row.1.arg = some (.connection conn)) = [row] ∧
      row.2 = connection.socket ∧ row.1.readyfn = some .connectionReady ∧
      row.1.errorfn = some .connectionError := by
  -- A row that is registered with the connection is registered for it.
  have own : ∀ row ∈ net.dispatch.rows, row.1.arg = some (.connection conn) →
      row.2 = connection.socket ∧ row.1.readyfn = some .connectionReady ∧
      row.1.errorfn = some .connectionError := by
    intro row member named
    cases registered.rows row member with
    | connection other value there fd arg ready error =>
      rw [named, Option.some.injEq, ServerArg.connection.injEq] at arg
      subst arg
      rw [found, Option.some.injEq] at there
      subst there
      exact ⟨fd, ready, error⟩
    | listener _ arg => simp [named] at arg
    | usb _ arg => simp [named] at arg
    | ipc _ arg => simp [named] at arg
  obtain ⟨row, member, named⟩ := registered.known conn connection found
  refine ⟨row, List.perm_singleton.mp ?_, own row member named⟩
  -- Two rows of the connection would have the same descriptor.
  refine (List.perm_ext_iff_of_nodup ((registered.once.of_map _).filter _)
    (List.nodup_singleton row)).mpr fun other => ?_
  rw [List.mem_filter, List.mem_singleton, decide_eq_true_eq]
  constructor
  · rintro ⟨listed, alike⟩
    apply List.inj_on_of_nodup_map registered.once listed member
    rw [(own other listed alike).1, (own row member named).1]
  · rintro rfl
    exact ⟨member, named⟩

/-- No row is left behind by a connection that the server does not know. -/
theorem Registered.nobodyElse {net : Net} (registered : Registered net)
    {row : DispatchEntry ServerFn ServerArg × Int} (member : row ∈ net.dispatch.rows)
    (callback : row.1.readyfn = some .connectionReady ∨ row.1.errorfn = some .connectionError) :
    ∃ conn ∈ net.server.connections, row.1.arg = some (.connection conn) := by
  -- The callbacks of the other three kinds of row are different ones.
  cases registered.rows row member with
  | connection conn connection found _ arg =>
    exact ⟨conn, registered.listed conn connection found, arg⟩
  | listener _ _ ready error => simp [ready, error] at callback
  | usb _ _ ready error => simp [ready, error] at callback
  | ipc _ _ ready error => simp [ready, error] at callback

/--
No connection is referred to once it has been released.

Pending requests and rows of the table belong to connections that the server knows,
each of which has exactly one row.
No connection is released twice, and none is used after it was released.
-/
theorem connections_never_dangle (broadcaster : Broadcaster) (config : Config)
    (events : List SystemEvent) :
    let world := run (systemStep broadcaster) (mainStart config) events
    (∀ transaction ∈ world.1.transaction.toList ++ world.1.queue, ∀ conn,
      transaction.arg = some conn → conn ∈ world.2.server.connections) ∧
    world.2.server.connections.Nodup ∧
    (∀ conn ∈ world.2.server.connections, ∃ connection row,
      world.2.heap conn = some connection ∧
      world.2.dispatch.rows.filter (fun row => row.1.arg = some (.connection conn)) = [row] ∧
      row.2 = connection.socket ∧ row.1.readyfn = some .connectionReady ∧
      row.1.errorfn = some .connectionError) ∧
    (∀ row ∈ world.2.dispatch.rows,
      row.1.readyfn = some .connectionReady ∨ row.1.errorfn = some .connectionError →
      ∃ conn ∈ world.2.server.connections, row.1.arg = some (.connection conn)) ∧
    (releasedSerials world.2.log).Nodup ∧
    (∀ serial ∈ releasedSerials world.2.log, ∀ conn connection,
      world.2.heap conn = some connection → connection.serial ≠ serial) ∧
    (∀ conn, .fault (.freedConnection conn) ∉ world.2.log) ∧
    .fault .wrongArgument ∉ world.2.log := by
  intro world
  have tidy : Tidy world := (sound_run broadcaster config events).tidy
  refine ⟨?_, tidy.registered.linked.distinct, ?_, fun row => tidy.registered.nobodyElse,
    tidy.books.once, ?_, ?_, ?_⟩
  · intro transaction pending conn named
    apply tidy.bound.args conn
    rw [← named, owners]
    exact List.mem_map_of_mem pending
  · intro conn member
    obtain ⟨connection, found⟩ := tidy.found member
    obtain ⟨row, single, own⟩ := tidy.registered.single found
    exact ⟨connection, row, found, single, own⟩
  · intro serial released
    exact tidy.books.released serial (mem_releasedSerials.mp released)
  -- The only fault on record is one that involves no connection.
  · intro conn member
    obtain ⟨node, same⟩ := tidy.books.faultless _ member
    cases same
  · intro member
    obtain ⟨node, same⟩ := tidy.books.faultless _ member
    cases same

end Daliserver

import Daliserver.Net.Service
import Daliserver.Usb.Conservation

/-! The memory of requests: every frame is released, held, or lost with a refused request. -/

namespace Daliserver

open Machine

/-- The frame that `net_frame_handler` allocates for what it was passed, given a device. -/
@[simp] def NetEffect.frameMade : NetEffect → Option DaliFrame
  | .received _ buffer => if isRequest buffer then some (requestFrame buffer) else none
  | _ => none

/-- The frames allocated for requests, oldest first. -/
def framesMade (log : List NetEffect) : List DaliFrame := log.filterMap NetEffect.frameMade

/-- The frame that `usbdali_queue` was passed. -/
@[simp] def UsbEffect.frameQueued {α : Type} : UsbEffect α → Option DaliFrame
  | .accepted transaction => some transaction.request
  -- The caller does not look at the result, and so does not know that it still owns the frame.
  | .rejected frame _ => some frame
  | _ => none

/-- The frame of a request that was refused, which nobody refers to from then on. -/
@[simp] def UsbEffect.frameLost {α : Type} : UsbEffect α → Option DaliFrame
  | .rejected frame _ => some frame
  | _ => none

/-- The frames passed to the device, oldest first. -/
def framesQueued {α : Type} (trace : List (UsbEffect α)) : List DaliFrame :=
  trace.filterMap UsbEffect.frameQueued

/-- The frames of the requests that were refused, oldest first. -/
def framesLost {α : Type} (trace : List (UsbEffect α)) : List DaliFrame :=
  trace.filterMap UsbEffect.frameLost

@[simp] theorem framesMade_concat (log : List NetEffect) (effect : NetEffect) :
    framesMade (log ++ [effect]) = framesMade log ++ effect.frameMade.toList :=
  filterMap_concat _ _ _

@[simp] theorem framesQueued_concat {α : Type} (trace : List (UsbEffect α))
    (effect : UsbEffect α) :
    framesQueued (trace ++ [effect]) = framesQueued trace ++ effect.frameQueued.toList :=
  filterMap_concat _ _ _

@[simp] theorem framesQueued_next {α : Type} (submit : Int) (dali : UsbDali α) :
    framesQueued (usbdaliNext submit dali).trace = framesQueued dali.trace :=
  filterMap_trace_next (fun _ _ _ => rfl) (fun _ => rfl) submit dali

/-- What is passed to the device is accepted or refused. -/
theorem framesQueued_perm {α : Type} (trace : List (UsbEffect α)) :
    (framesQueued trace).Perm ((acceptedRequests trace).map Prod.snd ++ framesLost trace) := by
  -- By induction on the trace; an accepted frame has to pass those that were refused.
  induction trace using List.reverseRecOn with
  | nil => exact .nil
  | append_singleton trace effect ih =>
    rw [framesQueued_concat, acceptedRequests_concat, framesLost, filterMap_concat,
      List.map_append]
    show (framesQueued trace ++ _).Perm (_ ++ _ ++ (framesLost trace ++ _))
    cases effect with
    | accepted transaction =>
      refine (ih.append_right _).trans ?_
      simp only [UsbEffect.frameQueued, UsbEffect.acceptedRequest, UsbEffect.frameLost,
        UsbDaliTransaction.key, Option.toList_some, Option.toList_none, List.map_cons,
        List.map_nil, List.append_nil, List.append_assoc, List.singleton_append]
      exact (List.perm_append_singleton _ _).append_left _
    | rejected frame error => simpa using ih.append_right [frame]
    | _ => simpa using ih

/-- A report has nothing to do with new requests. -/
theorem framesQueued_afterReport {α : Type} [DecidableEq α] (args : List (Option α))
    (report : Report) (dali : UsbDali α) :
    framesQueued (afterReport args report dali).trace = framesQueued dali.trace := by
  -- All that a report adds to the trace is a callback or a fault.
  cases report with
  | silent => rfl
  | broadcast error frame status => simp [afterReport, cancelAll_eq, UsbDali.log]
  | finished error frame response status =>
    cases active : dali.transaction <;> simp [afterReport, active, cancelAll_eq, UsbDali.log]

/-- Replying reads nothing. -/
theorem framesMade_reply (conn : ConnPtr) (buffer : Bytes) (world : World) :
    framesMade (connectionReply conn buffer world).2.log = framesMade world.2.log := by
  -- Writes, releases and faults are no frames that were read.
  cases found : world.2.heap conn with
  | none => simp [connectionReply_dead found, onNet, Net.record]
  | some connection =>
    by_cases empty : buffer = []
    · obtain ⟨heap, reply⟩ := connectionReply_empty found
      rw [empty, reply]
      rfl
    · rw [connectionReply_eq found empty]
      split
      · simp [onNet, Net.answered]
      · simp [Net.without, Net.answered, framesMade]

/-- Neither callback of the device reads anything. -/
theorem framesMade_handlers (broadcaster : Broadcaster) :
    (serverHandlers broadcaster).Respect fun before after =>
      framesMade after.log = framesMade before.log := by
  -- Both of them end in replies.
  have keep : RepliesKeep fun before after =>
      framesMade after.2.log = framesMade before.2.log :=
    ⟨fun _ => rfl, fun one two => two.trans one, framesMade_reply,
      fun _ _ => by simp [onNet, Net.record]⟩
  refine ⟨fun _ => rfl, ?_, ?_⟩
  · intro error frame response status arg world
    exact keep.inband error response arg world
  · intro error frame status arg world
    exact keep.outband broadcaster error frame arg world

/-- Whatever is allocated for a request is passed to the device. -/
def PassedOn (world : World) : Prop := framesMade world.2.log = framesQueued world.1.trace

namespace PassedOn

variable {world : World}

/-- Neither side does anything with frames. -/
theorem congr {before after : World} (passed : PassedOn before)
    (made : framesMade after.2.log = framesMade before.2.log)
    (queued : framesQueued after.1.trace = framesQueued before.1.trace) : PassedOn after :=
  made.trans (Eq.trans passed queued.symm)

theorem removed (passed : PassedOn world) {conn : ConnPtr} {connection : Connection}
    (found : world.2.heap conn = some connection) :
    PassedOn (serverConnectionRemove conn world) := by
  -- The device forgets the connection, but not its requests.
  rw [serverConnectionRemove_eq found]
  refine passed.congr ?_ ?_
  · simp [Net.without]
  · rw [forgotten_trace]

/-- A request that is read is passed to the device, which accepts or refuses it. -/
theorem read (passed : PassedOn world) (device : world.2.server.arg = some .usb)
    {conn : ConnPtr} {connection : Connection} (found : world.2.heap conn = some connection)
    (input : Input) : PassedOn (connectionReady input conn world) := by
  -- Both lists grow by the same frame, or neither does.
  rw [connectionReady_eq found]
  cases input.buffer with
  | none => exact passed.removed found
  | some buffer =>
    dsimp only
    split
    · exact passed.removed found
    · rw [netFrameHandler_eq, device]
      split
      · rename_i request
        have made : framesMade (world.2.heard conn connection buffer).log =
            framesMade world.2.log ++ [requestFrame buffer] := by
          simp [Net.heard, request]
        show framesMade (world.2.heard conn connection buffer).log =
          framesQueued (usbdaliQueue input.memory input.submit (requestFrame buffer) (some conn)
            world.1).1.trace
        rw [made, usbdaliQueue_eq]
        split
        · simp [enqueued, newTransaction, passed.symm]
        · simp [passed.symm]
      · rename_i other
        refine passed.congr ?_ rfl
        simp [onNet, Net.heard, other]

/-- Completions allocate nothing for a request. -/
theorem usbReady (passed : PassedOn world) (sound : Sound world) (broadcaster : Broadcaster)
    (input : Input) : PassedOn (usbdaliDispatchReady broadcaster input world) := by
  -- The frames of answers and of messages from the bus are freed where they are made.
  have noticed : ∀ after : World, PassedOn after →
      PassedOn (onNet (notify input.notice) after) := by
    intro after passed
    rcases input.notice with _ | ⟨fd, events⟩ | fd <;> exact passed
  unfold usbdaliDispatchReady
  apply noticed
  cases input.completion with
  | none => exact passed
  | some completion =>
    refine passed.congr ((framesMade_handlers broadcaster).complete completion world) ?_
    dsimp only
    rcases libusbComplete_world broadcaster sound.usb completion with
      ⟨_, same⟩ | ⟨transfer, _, done⟩
    · rw [same]
    · obtain ⟨_, service, alive⟩ := sound.retired transfer
      obtain ⟨args, reported⟩ := carryOut_fst (serverHandlers broadcaster)
        (transferReport world.1 transfer completion) _ service.req service.bcast alive
      rw [done]
      show framesQueued (usbdaliNext _ (clearSlot _ (Report.carryOut _ _ _).1)).trace = _
      rw [framesQueued_next, (clearSlot_rest ..).1, reported, framesQueued_afterReport]
      rfl

/-- One event passes on what it allocates. -/
theorem step (passed : PassedOn world) (sound : Sound world)
    (device : world.2.server.arg = some .usb) (broadcaster : Broadcaster) (event : SystemEvent) :
    PassedOn (systemStep broadcaster world event) := by
  -- One case for each callback that can be due.
  cases event with
  | polled revents => exact passed
  | row index input =>
    rw [systemStep_row]
    split
    · cases row : rowCall world.2 index with
      | none => exact passed
      | some call =>
        have called : PassedOn (calling call world) := passed
        have tidy := sound.tidy.calling call
        cases sound.tidy.registered.due row with
        | listenerReady registration =>
          simp only [callServer, serverListenerReady, onNet]
          cases input.socket with
          | none => exact called
          | some socket =>
            dsimp only
            split
            · refine called.congr ?_ rfl
              simp [Net.withConnections, connectionNew]
            · exact called
        | ready registration conn member =>
          obtain ⟨connection, found⟩ := tidy.found member
          exact called.read device found input
        | error registration conn error member =>
          obtain ⟨connection, found⟩ := tidy.found member
          cases error <;> exact called.removed found
        | usbReady registration => exact called.usbReady ⟨sound.usb, tidy⟩ broadcaster input
        | listenerError registration error => exact called
        | usbError registration error => exact called
        | ipc registration => exact called
    · exact passed

end PassedOn

/-- In every run with a device, all that is allocated for requests is passed on. -/
theorem passedOn_run (broadcaster : Broadcaster) {config : Config}
    (device : config.dryrun = false) (events : List SystemEvent) :
    PassedOn (run (systemStep broadcaster) (mainStart config) events) := by
  -- The past is carried along, since the device is known from the whole run.
  let good : List SystemEvent → World → Prop := fun past world =>
    world = run (systemStep broadcaster) (mainStart config) past ∧ PassedOn world
  have start : good [] (mainStart config) := by
    refine ⟨rfl, ?_⟩
    show [] = framesQueued (usbdaliNext config.submit usbdaliNew).trace
    rw [framesQueued_next]
    rfl
  refine (run_history start ?_ events).2
  rintro past world event ⟨rfl, passed⟩
  have usb : config.usb = some .usb := by simp [Config.usb, device]
  refine ⟨by rw [run_append]; rfl, ?_⟩
  exact passed.step (sound_run broadcaster config past)
    ((device_run broadcaster config past).trans usb) broadcaster event

/--
The memory of requests is accounted for.

At any time, the frames that were allocated for requests are those whose requests were reported,
which have been released once, those of pending requests, of which there are at most 256, and those
of requests that were refused, which are lost.
-/
theorem frames_accounted (broadcaster : Broadcaster) (config : Config)
    (device : config.dryrun = false) (events : List SystemEvent) :
    let world := run (systemStep broadcaster) (mainStart config) events
    let released := reportedRequests world.1.trace
    let held := pendingRequests world.1
    (framesMade world.2.log).Perm (released.map Prod.snd ++ held.map (·.request) ++
        framesLost world.1.trace) ∧
      world.1.freed = released.map Prod.fst ∧ world.1.freed.Nodup ∧
      (∀ transaction ∈ held, transaction.id ∉ world.1.freed) ∧ held.length ≤ 256 := by
  intro world released held
  have passed := passedOn_run broadcaster device events
  have ledger : Ledger world.1 := (sound_run broadcaster config events).usb.ledger
  -- What was accepted is on the books of the device.
  have accepted : (acceptedRequests world.1.trace).map Prod.snd =
      released.map Prod.snd ++ held.map (·.request) := by
    rw [ledger.history]
    cases active : world.1.transaction <;>
      simp [Fifo.history, fifoOf, released, held, pendingRequests, active,
        UsbDaliTransaction.key]
  refine ⟨?_, ledger.freed, ?_, fun transaction pending => ledger.pending_alive pending, ?_⟩
  · rw [← accepted, show framesMade world.2.log = framesQueued world.1.trace from passed]
    exact framesQueued_perm world.1.trace
  · have distinct := ledger.distinct
    simp only [Fifo.history, fifoOf, List.append_assoc, List.map_append] at distinct
    rw [ledger.freed]
    exact distinct.of_append_left
  · have room := ledger.room
    rw [ledger.size] at room
    have queued : world.1.queue.length ≤ 255 := room
    have single : world.1.transaction.toList.length ≤ 1 := by
      cases world.1.transaction <;> simp
    simp only [held, pendingRequests, List.length_append]
    omega

/-- A client asks twice, and there is no memory for its second request. -/
def clientIsRefused : List SystemEvent :=
  clientConnects ++ [.row 3 clientAsks,
    .row 3 { clientAsks with buffer := some [2, 0, 3, 4], memory := false }]

/-- Of the two frames that were allocated, one is held and the other one is lost. -/
theorem frames_accounted_refused :
    plainConfig.dryrun = false ∧
      (framesMade (run (systemStep serverBroadcaster) (mainStart plainConfig)
        clientIsRefused).2.log).Perm ([] ++ [daliframeNew 1 2] ++ [daliframeNew 3 4]) := by
  -- The refusal is recorded, and the first request waits behind the idle receive.
  have accounted := (frames_accounted serverBroadcaster plainConfig rfl clientIsRefused).1
  refine ⟨rfl, accounted.trans (List.Perm.of_eq ?_)⟩
  decide +kernel

end Daliserver

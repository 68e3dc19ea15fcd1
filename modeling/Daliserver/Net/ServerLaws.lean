import Daliserver.Net.Server

/-! What each operation of the server does to the device, the table, and the connections. -/

namespace Daliserver

/-- The connection an effect is about. A fault is about none. -/
@[simp] def NetEffect.subject : NetEffect → Option Nat
  | .opened serial => some serial
  | .received serial _ => some serial
  | .sent serial _ _ => some serial
  | .released serial => some serial
  -- A fault is logged with an address, which belongs to no connection.
  | .fault _ => none

/-- The device state once a connection has been forgotten by its destroy callback. -/
def forgotten (conn : ConnPtr) (connection : Connection) (dali : UsbDali ConnPtr) :
    UsbDali ConnPtr :=
  if connection.destroy = true ∧ connection.destroyarg ≠ none then usbdaliCancel (some conn) dali
  else dali

/-- The server once a connection has been removed. -/
def Net.without (conn : ConnPtr) (connection : Connection) (net : Net) : Net :=
  { net with
    server := { net.server with connections := net.server.connections.erase conn }
    dispatch := dispatchRemoveFd connection.socket net.dispatch
    heap := Function.update net.heap conn none
    log := net.log ++ [.released connection.serial] }

/-- The server once a frame has been passed to `write` for a connection. -/
def Net.answered (conn : ConnPtr) (connection : Connection) (buffer : Bytes) (net : Net) : Net :=
  { net with
    -- The flag goes down before the write and whatever the write returns.
    heap := Function.update net.heap conn (some { connection with waiting := false })
    written := net.written + 1
    log := net.log ++ [.sent connection.serial buffer (net.writes net.written)] }

/-- The server once a frame has been read from a connection. -/
def Net.heard (conn : ConnPtr) (connection : Connection) (buffer : Bytes) (net : Net) : Net :=
  { net with
    -- The flag goes up for every full frame, requests and others alike.
    heap := Function.update net.heap conn (some { connection with waiting := true })
    log := net.log ++ [.received connection.serial buffer] }

/-- Whether the next call of `write` takes a whole frame. -/
def Net.writable (net : Net) : Bool :=
  writeSucceeds net.server.framesize (net.writes net.written)

/-- Removing a connection that is alive. -/
theorem serverConnectionRemove_eq {conn : ConnPtr} {connection : Connection} {world : World}
    (found : world.2.heap conn = some connection) :
    serverConnectionRemove conn world =
      (forgotten conn connection world.1, world.2.without conn connection) := by
  have alive : (onNet (·.withConnections (·.erase conn)) world).2.heap conn = some connection :=
    found
  unfold serverConnectionRemove connectionFree forgotten
  rw [alive]
  obtain ⟨serial, socket, waiting, destroy, destroyarg⟩ := connection
  -- The destroy callback only reaches the device, and only if there is one.
  cases destroy with
  | false => rfl
  | true =>
    cases destroyarg with
    | none => rfl
    | some device => cases device; rfl

/-- Replying to a connection that is alive. -/
theorem connectionReply_eq {conn : ConnPtr} {connection : Connection} {world : World}
    (found : world.2.heap conn = some connection) {buffer : Bytes} (nonempty : buffer ≠ []) :
    connectionReply conn buffer world =
      if world.2.writable then onNet (·.answered conn connection buffer) world
      else (forgotten conn connection world.1,
        (world.2.answered conn connection buffer).without conn connection) := by
  unfold connectionReply
  rw [found]
  simp only [if_neg nonempty]
  by_cases taken : world.2.writable = true
  · have taken' : writeSucceeds world.2.server.framesize (world.2.writes world.2.written) = true :=
      taken
    rw [if_pos taken]
    exact if_pos taken'
  · have refused : ¬ writeSucceeds world.2.server.framesize
        (world.2.writes world.2.written) = true := taken
    -- The released connection is the one whose flag has just been cleared.
    have alive : (onNet (·.answered conn connection buffer) world).2.heap conn =
        some { connection with waiting := false } := by
      simp [onNet, Net.answered]
    have removed := serverConnectionRemove_eq alive
    rw [if_neg taken]
    exact (if_neg refused).trans removed

/-- Replying to a connection that was released is a fault. -/
theorem connectionReply_dead {conn : ConnPtr} {world : World} (dead : world.2.heap conn = none)
    (buffer : Bytes) : connectionReply conn buffer world =
      onNet (·.record (.fault (.freedConnection conn))) world := by
  unfold connectionReply
  rw [dead]

/-- Seen from the device, forgetting a connection is a cancellation at most. -/
theorem forgotten_cancels (conn : ConnPtr) (connection : Connection) (dali : UsbDali ConnPtr) :
    ∃ args, forgotten conn connection dali = cancelAll args dali := by
  -- Without a destroy callback the list of cancellations is empty.
  unfold forgotten
  split
  · exact ⟨[some conn], rfl⟩
  · exact ⟨[], rfl⟩

/-- A reply without contents writes nothing. -/
theorem connectionReply_empty {conn : ConnPtr} {connection : Connection} {world : World}
    (found : world.2.heap conn = some connection) :
    ∃ heap, connectionReply conn [] world = onNet (fun net => { net with heap := heap }) world := by
  unfold connectionReply
  rw [found]
  exact ⟨_, rfl⟩

/-- Seen from the device, a reply is a cancellation at most. -/
theorem connectionReply_cancels (conn : ConnPtr) (buffer : Bytes) (world : World) :
    ∃ args, (connectionReply conn buffer world).1 = cancelAll args world.1 := by
  -- Only a failed write frees the connection, and freeing cancels its requests.
  cases found : world.2.heap conn with
  | none => exact ⟨[], by rw [connectionReply_dead found]; rfl⟩
  | some connection =>
    by_cases empty : buffer = []
    · obtain ⟨heap, reply⟩ := connectionReply_empty found
      exact ⟨[], by rw [empty, reply]; rfl⟩
    · rw [connectionReply_eq found empty]
      split
      · exact ⟨[], rfl⟩
      · exact forgotten_cancels conn connection world.1

/-- Seen from the dispatch table, a reply is a removal at most. -/
theorem connectionReply_operations (conn : ConnPtr) (buffer : Bytes) (world : World) :
    ∃ ops : List (TableOp ServerFn ServerArg),
      (connectionReply conn buffer world).2.dispatch = ops.foldl applyOp world.2.dispatch := by
  -- Only a failed write reaches the table, through the removal of the socket.
  cases found : world.2.heap conn with
  | none => exact ⟨[], by rw [connectionReply_dead found]; rfl⟩
  | some connection =>
    by_cases empty : buffer = []
    · obtain ⟨heap, reply⟩ := connectionReply_empty found
      exact ⟨[], by rw [empty, reply]; rfl⟩
    · rw [connectionReply_eq found empty]
      split
      · exact ⟨[], rfl⟩
      · exact ⟨[.removeFd connection.socket], rfl⟩

/-- Cancelling twice is cancelling once with more arguments. -/
theorem cancelAll_append (first second : List (Option ConnPtr)) (dali : UsbDali ConnPtr) :
    cancelAll second (cancelAll first dali) = cancelAll (first ++ second) dali := by
  simp [cancelAll]

/-- What relates the program before and after a reply or a fault, one after another. -/
structure RepliesKeep (related : World → World → Prop) : Prop where
  same : ∀ world, related world world
  trans : ∀ {first second third}, related first second → related second third →
    related first third
  reply : ∀ conn buffer world, related world (connectionReply conn buffer world)
  record : ∀ fault world, related world (onNet (·.record (.fault fault)) world)

/-- A walk over the connections is a sequence of replies and faults. -/
theorem RepliesKeep.walk {related : World → World → Prop} (keep : RepliesKeep related)
    (buffer : Bytes) (visits : List Visit) (world : World) :
    related world (visits.foldl (visit buffer) world) := by
  -- Each visit is one of the two, and the rest of the walk starts where it ended.
  induction visits generalizing world with
  | nil => exact keep.same world
  | cons step rest ih =>
    cases step with
    | reply conn => exact keep.trans (keep.reply conn buffer world) (ih _)
    | stray conn => exact keep.trans (keep.record (.freedNode conn) world) (ih _)

/-- Whatever way the broadcast of a device takes, it is a walk. -/
theorem RepliesKeep.outband {related : World → World → Prop} (keep : RepliesKeep related)
    (broadcaster : Broadcaster) (error : UsbDaliError) (frame : Option DaliFrame)
    (arg : Option ServerPtr) (world : World) :
    related world (daliOutbandHandler broadcaster.send error frame arg world) := by
  unfold daliOutbandHandler
  split
  · split
    · split
      · exact keep.record .freedServer world
      · obtain ⟨visits, walk, _⟩ := broadcaster.visits
          [defaultNetProtocol, netStatusBroadcast, _, _] world
        rw [walk]
        exact keep.walk _ visits world
    · exact keep.same world
  · exact keep.same world

/-- The answer to a request is one reply at most. -/
theorem RepliesKeep.inband {related : World → World → Prop} (keep : RepliesKeep related)
    (error : UsbDaliError) (response : Nat) (arg : Option ConnPtr) (world : World) :
    related world (daliInbandHandler error response arg world) := by
  cases arg with
  | none => exact keep.same world
  | some conn => exact keep.reply conn _ world

/-- Seen from the device, the server only cancels. -/
theorem repliesKeep_cancels :
    RepliesKeep fun before after => ∃ args, after.1 = cancelAll args before.1 where
  same := fun _ => ⟨[], rfl⟩
  trans := by
    rintro first second third ⟨args, made⟩ ⟨more, later⟩
    exact ⟨args ++ more, by rw [later, made, cancelAll_append]⟩
  reply := connectionReply_cancels
  record := fun _ _ => ⟨[], rfl⟩

/-- Seen from the dispatch table, the server only operates on it. -/
theorem repliesKeep_operations :
    RepliesKeep fun before after => ∃ ops : List (TableOp ServerFn ServerArg),
      after.2.dispatch = ops.foldl applyOp before.2.dispatch where
  same := fun _ => ⟨[], rfl⟩
  trans := by
    rintro first second third ⟨ops, made⟩ ⟨more, later⟩
    exact ⟨ops ++ more, by rw [later, made, List.foldl_append]⟩
  reply := connectionReply_operations
  record := fun _ _ => ⟨[], rfl⟩

/-- A server that lost a connection is still in order. -/
theorem Linked.without {net : Net} (linked : Linked net) (conn : ConnPtr)
    (connection : Connection) : Linked (net.without conn connection) := by
  -- The list holds the connection once, so the rest of it avoids the freed address.
  refine ⟨linked.distinct.erase conn, ?_⟩
  intro other member
  obtain ⟨apart, before⟩ := (linked.distinct.mem_erase_iff).mp member
  simp only [Net.without, Function.update_of_ne apart]
  exact linked.alive other before

/-- A server that wrote a frame is still in order. -/
theorem Linked.answered {net : Net} (linked : Linked net) (conn : ConnPtr)
    (connection : Connection) (buffer : Bytes) :
    Linked (net.answered conn connection buffer) := by
  -- The connection is rewritten in place and stays alive.
  refine ⟨linked.distinct, ?_⟩
  intro other member
  by_cases same : other = conn
  · simp [Net.answered, same]
  · simp only [Net.answered, Function.update_of_ne same]
    exact linked.alive other member

/-- A reply that keeps its connection keeps all of them. -/
theorem connectionReply_keeps {conn : ConnPtr} {buffer : Bytes} {world : World}
    (nonempty : buffer ≠ []) (linked : Linked world.2)
    (member : conn ∈ world.2.server.connections)
    (kept : conn ∈ (connectionReply conn buffer world).2.server.connections) :
    Linked (connectionReply conn buffer world).2 ∧
      (connectionReply conn buffer world).2.server.connections =
        world.2.server.connections := by
  obtain ⟨connection, found⟩ := Option.ne_none_iff_exists'.mp (linked.alive conn member)
  rw [connectionReply_eq found nonempty] at kept ⊢
  split at kept
  · rename_i taken
    rw [if_pos taken]
    exact ⟨linked.answered conn connection buffer, rfl⟩
  · -- A removed connection is no longer on the list.
    exact absurd kept (List.Nodup.not_mem_erase linked.distinct)

/-- The walk of a broadcast replies only to connections that are alive. -/
theorem broadcastFrom_visits {buffer : Bytes} (nonempty : buffer ≠ []) (nodes : List ConnPtr)
    (world : World) :
    ∃ visits, broadcastFrom buffer nodes world = visits.foldl (visit buffer) world ∧
      (Linked world.2 → (∀ conn ∈ nodes, conn ∈ world.2.server.connections) →
        LiveVisits buffer world visits) := by
  induction nodes generalizing world with
  | nil => exact ⟨[], rfl, fun _ _ => trivial⟩
  | cons conn rest ih =>
    unfold broadcastFrom
    cases found : world.2.heap conn with
    | none =>
      refine ⟨[.reply conn], ?_, fun _ listed => ⟨listed conn (List.mem_cons_self ..), trivial⟩⟩
      simp [visit, connectionReply_dead found]
    | some connection =>
      cases waits : connection.waiting with
      | true =>
        -- A connection that waits is passed over, and its node is still there.
        simp only [waits, if_true]
        by_cases here : conn ∈ world.2.server.connections
        · simp only [here, if_true]
          obtain ⟨visits, walk, live⟩ := ih world
          exact ⟨visits, walk, fun linked listed =>
            live linked fun other member => listed other (List.mem_cons_of_mem _ member)⟩
        · simp only [here, if_false]
          exact ⟨[.stray conn], rfl, fun _ _ => trivial⟩
      | false =>
        simp only [waits, Bool.false_eq_true, if_false]
        by_cases here : conn ∈ (connectionReply conn buffer world).2.server.connections
        · simp only [here, if_true]
          obtain ⟨visits, walk, live⟩ := ih (connectionReply conn buffer world)
          refine ⟨.reply conn :: visits, walk, fun linked listed => ?_⟩
          have member := listed conn (List.mem_cons_self ..)
          obtain ⟨linked', same⟩ := connectionReply_keeps nonempty linked member here
          refine ⟨member, live linked' fun other later => ?_⟩
          rw [same]
          exact listed other (List.mem_cons_of_mem _ later)
        · simp only [here, if_false]
          exact ⟨[.reply conn, .stray conn], rfl,
            fun _ listed => ⟨listed conn (List.mem_cons_self ..), trivial⟩⟩

/-- The broadcast of the server. -/
def serverBroadcaster : Broadcaster where
  send := serverBroadcast
  visits := by
    intro buffer world
    -- The guard on the buffer makes the walk empty.
    by_cases empty : buffer = []
    · exact ⟨[], by simp [serverBroadcast, empty], fun _ => trivial⟩
    · obtain ⟨visits, walk, live⟩ := broadcastFrom_visits empty world.2.server.connections world
      refine ⟨visits, ?_, fun linked => live linked fun _ member => member⟩
      simpa [serverBroadcast, empty] using walk

/-- The callbacks that `main` installs on the device. -/
def serverHandlers (broadcaster : Broadcaster) : Handlers ConnPtr Net where
  reqCallback error _ response _ arg world := daliInbandHandler error response arg world
  bcastCallback error frame _ arg world :=
    daliOutbandHandler broadcaster.send error frame arg world
  reqCancels error _ response _ arg world := repliesKeep_cancels.inband error response arg world
  bcastCancels error frame _ arg world :=
    repliesKeep_cancels.outband broadcaster error frame arg world

/-- A request as the protocol has it: a whole frame with version 2 and type 0. -/
def isRequest (frame : Bytes) : Bool :=
  decide (defaultNetFramesize ≤ frame.length) && frame.getD 0 0 == defaultNetProtocol &&
    frame.getD 1 0 == netTypeSend

/-- The three tests that make a frame a request. -/
theorem isRequest_iff (frame : Bytes) :
    isRequest frame = true ↔ defaultNetFramesize ≤ frame.length ∧
      frame.getD 0 0 = defaultNetProtocol ∧ frame.getD 1 0 = netTypeSend := by
  simp only [isRequest, Bool.and_eq_true, decide_eq_true_eq, beq_iff_eq, and_assoc]

/-- A request is a whole frame. -/
theorem isRequest_length {frame : Bytes} (request : isRequest frame = true) :
    ¬ frame.length < defaultNetFramesize :=
  Nat.not_lt.mpr ((isRequest_iff frame).mp request).1

/-- Only requests are handled at all. -/
theorem netFrameHandler_eq (memory : Bool) (submit : Int) (arg : Option UsbPtr) (buffer : Bytes)
    (conn : ConnPtr) (world : World) :
    netFrameHandler memory submit arg buffer conn world =
      if isRequest buffer then
        match arg with
        | some .usb => onDali (fun dali => (usbdaliQueue memory submit
            (daliframeNew (buffer.getD 2 0) (buffer.getD 3 0)) (some conn) dali).1) world
        | none => connectionReply conn [defaultNetProtocol, netStatusResponse, 0, 0] world
      else world := by
  by_cases request : isRequest buffer = true
  · -- The tests stand in the order in which the source makes them.
    obtain ⟨whole, version, type⟩ := (isRequest_iff buffer).mp request
    rw [if_pos request]
    cases arg with
    | none => exact (if_pos whole).trans ((if_pos version).trans (if_pos type))
    | some device =>
      cases device
      exact (if_pos whole).trans ((if_pos version).trans (if_pos type))
  · rw [if_neg request]
    unfold netFrameHandler
    -- Whichever test fails, nothing happens.
    split
    · split
      · split
        · rename_i whole version type
          exact absurd ((isRequest_iff buffer).mpr ⟨whole, version, type⟩) request
        · rfl
      · rfl
    · rfl

/-- The frame that tells clients of a message on the bus. -/
def broadcastFrame (address command : UInt8) : Bytes :=
  [defaultNetProtocol, netStatusBroadcast, address, command]

/-- While the server is open, a message from the bus leads to a walk over the connections. -/
theorem daliOutbandHandler_walk (broadcaster : Broadcaster) (error : UsbDaliError)
    (frame : Option DaliFrame) (arg : Option ServerPtr) {world : World}
    (running : world.2.closed = false) :
    ∃ address command visits,
      daliOutbandHandler broadcaster.send error frame arg world =
        visits.foldl (visit (broadcastFrame address command)) world ∧
      (Linked world.2 → LiveVisits (broadcastFrame address command) world visits) := by
  -- Errors and missing arguments lead nowhere.
  have nowhere : ∃ address command visits,
      world = visits.foldl (visit (broadcastFrame address command)) world ∧
      (Linked world.2 → LiveVisits (broadcastFrame address command) world visits) :=
    ⟨0, 0, [], rfl, fun _ => trivial⟩
  unfold daliOutbandHandler
  by_cases success : error = .success
  · rw [if_pos success]
    cases arg with
    | none => exact nowhere
    | some pointer =>
      cases pointer
      cases frame with
      | none => exact nowhere
      | some frame =>
        simp only [running, Bool.false_eq_true, if_false]
        obtain ⟨visits, walk, live⟩ := broadcaster.visits
          (broadcastFrame frame.address frame.command) world
        exact ⟨frame.address, frame.command, visits, walk, live⟩
  · rw [if_neg success]
    exact nowhere

end Daliserver

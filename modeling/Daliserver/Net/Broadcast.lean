import Daliserver.Net.Requests

/-! When a broadcast reaches all the connections it is meant for. -/

namespace Daliserver

open Machine

/-- The frames passed to `write`, each with the connection it was for. -/
def attempts (log : List NetEffect) : List (Nat × Bytes) :=
  log.filterMap fun effect => match effect with
    | .sent serial frame _ => some (serial, frame)
    | _ => none

namespace Net

/-- A connection is there and does not wait for a reply. -/
def free (net : Net) (conn : ConnPtr) : Bool := (net.heap conn).any fun connection =>
  !connection.waiting

/-- The connections that a broadcast is for, in the order of the list. -/
def targets (net : Net) : List ConnPtr := net.server.connections.filter net.free

/-- The serial number of the connection at an address. -/
def serialOf (net : Net) (conn : ConnPtr) : Nat := ((net.heap conn).map (·.serial)).getD 0

/-- Whether a call of `write` from now on takes a whole frame. -/
def taken (net : Net) (turn : Nat) : Bool :=
  writeSucceeds net.server.framesize (net.writes (net.written + turn))

/-- The connections whose write does not fail, if each target is written to in turn. -/
def survivors (net : Net) : Nat → List ConnPtr → List ConnPtr
  | _, [] => []
  | turn, conn :: rest =>
    -- Nothing is written to a connection that waits.
    if net.free conn then
      if net.taken turn then conn :: net.survivors (turn + 1) rest
      else net.survivors (turn + 1) rest
    else conn :: net.survivors turn rest

/-- The server once a frame was written to a connection that does not wait. -/
def wrote (serial : Nat) (buffer : Bytes) (net : Net) : Net :=
  { net with
    written := net.written + 1
    log := net.log ++ [.sent serial buffer (net.writes net.written)] }

/-- One write later, the turns are counted from the next one. -/
theorem taken_wrote {net : Net} (serial : Nat) (buffer : Bytes) {turn : Nat} :
    net.taken (turn + 1) = (net.wrote serial buffer).taken turn := by
  have shifted : net.written + (turn + 1) = net.written + 1 + turn := by omega
  simp only [taken, wrote, shifted]

/-- If no write fails, all connections stay. -/
theorem survivors_all {net : Net} {turn : Nat} {nodes : List ConnPtr}
    (succeeds : ∀ later < (nodes.filter net.free).length, net.taken (turn + later) = true) :
    net.survivors turn nodes = nodes := by
  induction nodes generalizing turn with
  | nil => rfl
  | cons conn rest ih =>
    unfold survivors
    cases waits : net.free conn with
    | false =>
      -- A connection that waits uses up no turn.
      rw [List.filter_cons_of_neg (by simp [waits])] at succeeds
      simp [ih succeeds]
    | true =>
      rw [List.filter_cons_of_pos waits, List.length_cons] at succeeds
      have first := succeeds 0 (Nat.succ_pos _)
      have others : ∀ later < (rest.filter net.free).length,
          net.taken (turn + 1 + later) = true := by
        intro later below
        have shifted : turn + 1 + later = turn + (later + 1) := by omega
        rw [shifted]
        exact succeeds (later + 1) (by omega)
      rw [Nat.add_zero] at first
      simp [first, ih others]

end Net

/-- Writing to a connection that does not wait changes nothing but the log, if it succeeds. -/
theorem connectionReply_free {conn : ConnPtr} {connection : Connection} {world : World}
    (found : world.2.heap conn = some connection) (free : connection.waiting = false)
    {buffer : Bytes} (nonempty : buffer ≠ []) (taken : world.2.taken 0 = true) :
    connectionReply conn buffer world = onNet (·.wrote connection.serial buffer) world := by
  have writable : world.2.writable = true := taken
  rw [connectionReply_eq found nonempty, if_pos writable]
  -- The flag that the reply lowers is down already.
  have same : { connection with waiting := false } = connection := by rw [← free]
  have heap : Function.update world.2.heap conn (some connection) = world.2.heap := by
    rw [← found, Function.update_eq_self]
  simp only [onNet, Net.answered, Net.wrote, same, heap]

/-- A connection whose write fails is taken off the list. -/
theorem connectionReply_refused {conn : ConnPtr} {connection : Connection} {world : World}
    (found : world.2.heap conn = some connection) (distinct : world.2.server.connections.Nodup)
    {buffer : Bytes} (nonempty : buffer ≠ []) (refused : world.2.taken 0 = false) :
    conn ∉ (connectionReply conn buffer world).2.server.connections ∧
      (connectionReply conn buffer world).2.log = world.2.log ++
        [.sent connection.serial buffer (world.2.writes world.2.written),
          .released connection.serial] := by
  have failed : ¬ world.2.writable = true := by
    have same : world.2.writable = world.2.taken 0 := rfl
    simp [same, refused]
  rw [connectionReply_eq found nonempty, if_neg failed]
  refine ⟨fun member => ?_, ?_⟩
  · -- The list had the connection once, so it does not have it after the removal.
    exact (distinct.mem_erase_iff.mp member).1 rfl
  · simp [Net.without, Net.answered]

/-- The rest of a broadcast whose writes succeed, from a list node on. -/
theorem broadcastFrom_delivers {buffer : Bytes} (nonempty : buffer ≠ []) {nodes : List ConnPtr}
    {world : World} (listed : ∀ conn ∈ nodes, conn ∈ world.2.server.connections)
    (alive : ∀ conn ∈ nodes, world.2.heap conn ≠ none)
    (succeeds : ∀ turn < (nodes.filter world.2.free).length, world.2.taken turn = true) :
    ∃ added, (broadcastFrom buffer nodes world).2.log = world.2.log ++ added ∧
      attempts added =
        (nodes.filter world.2.free).map (fun conn => (world.2.serialOf conn, buffer)) ∧
      (∀ conn, .fault (.freedNode conn) ∉ added) ∧
      (broadcastFrom buffer nodes world).2.server = world.2.server := by
  -- The connections already written to are still listed, so the walk finds its next node.
  induction nodes generalizing world with
  | nil => exact ⟨[], by simp [broadcastFrom], rfl, by simp, rfl⟩
  | cons conn rest ih =>
    obtain ⟨connection, found⟩ := Option.ne_none_iff_exists'.mp (alive conn (by simp))
    have member := listed conn (by simp)
    have listed' : ∀ other ∈ rest, other ∈ world.2.server.connections :=
      fun other inside => listed other (by simp [inside])
    have alive' : ∀ other ∈ rest, world.2.heap other ≠ none :=
      fun other inside => alive other (by simp [inside])
    have flag : world.2.free conn = !connection.waiting := by simp [Net.free, found]
    unfold broadcastFrom
    simp only [found]
    cases waits : connection.waiting with
    | true =>
      -- The walk passes a connection that waits, and no write is used up.
      rw [List.filter_cons_of_neg (by simp [flag, waits])] at succeeds ⊢
      simp only [if_true, member]
      exact ih listed' alive' succeeds
    | false =>
      have free : world.2.free conn = true := by simp [flag, waits]
      rw [List.filter_cons_of_pos free, List.length_cons] at succeeds
      rw [List.filter_cons_of_pos free, List.map_cons]
      simp only [Bool.false_eq_true, if_false]
      rw [connectionReply_free found waits nonempty (succeeds 0 (Nat.succ_pos _))]
      have kept : conn ∈ (onNet (·.wrote connection.serial buffer) world).2.server.connections :=
        member
      rw [if_pos kept]
      -- One write later, the world differs in the log and the count of writes only.
      have succeeds' : ∀ turn < (rest.filter world.2.free).length,
          (world.2.wrote connection.serial buffer).taken turn = true := by
        intro turn below
        rw [← Net.taken_wrote]
        exact succeeds (turn + 1) (Nat.succ_lt_succ below)
      obtain ⟨added, log, sent, clean, server⟩ :=
        @ih (onNet (·.wrote connection.serial buffer) world) listed' alive' succeeds'
      refine ⟨.sent connection.serial buffer (world.2.writes world.2.written) :: added, ?_, ?_,
        ?_, server⟩
      · rw [log]
        simp [onNet, Net.wrote]
      · have serial : world.2.serialOf conn = connection.serial := by simp [Net.serialOf, found]
        rw [serial]
        exact congrArg ((connection.serial, buffer) :: ·) sent
      · intro other fault
        rcases List.mem_cons.mp fault with here | later
        · cases here
        · exact clean other later

/-- A broadcast one of whose writes fails ends up at a list node that was freed. -/
theorem broadcastFrom_strays {buffer : Bytes} (nonempty : buffer ≠ []) {nodes : List ConnPtr}
    {world : World} (linked : Linked world.2)
    (listed : ∀ conn ∈ nodes, conn ∈ world.2.server.connections) {turn : Nat}
    (inside : turn < (nodes.filter world.2.free).length) (refused : world.2.taken turn = false) :
    ∃ added, (broadcastFrom buffer nodes world).2.log = world.2.log ++ added ∧
      ∃ conn, .fault (.freedNode conn) ∈ added := by
  induction nodes generalizing world turn with
  | nil => exact absurd inside (Nat.not_lt_zero _)
  | cons conn rest ih =>
    have member := listed conn (by simp)
    obtain ⟨connection, found⟩ := Option.ne_none_iff_exists'.mp (linked.alive conn member)
    have listed' : ∀ other ∈ rest, other ∈ world.2.server.connections :=
      fun other node => listed other (by simp [node])
    have flag : world.2.free conn = !connection.waiting := by simp [Net.free, found]
    unfold broadcastFrom
    simp only [found]
    cases waits : connection.waiting with
    | true =>
      rw [List.filter_cons_of_neg (by simp [flag, waits])] at inside
      simp only [if_true, member]
      exact ih linked listed' inside refused
    | false =>
      rw [List.filter_cons_of_pos (by simp [flag, waits]), List.length_cons] at inside
      simp only [Bool.false_eq_true, if_false]
      cases first : world.2.taken 0 with
      | false =>
        -- The node that the walk stands on is freed along with its connection.
        obtain ⟨gone, log⟩ := connectionReply_refused found linked.distinct nonempty first
        rw [if_neg gone]
        refine ⟨[.sent connection.serial buffer (world.2.writes world.2.written),
          .released connection.serial, .fault (.freedNode conn)], ?_, conn, by simp⟩
        simp [onNet, Net.record, log]
      | true =>
        -- This write succeeds, so the one that fails comes later.
        cases turn with
        | zero => simp [first] at refused
        | succ turn =>
          rw [connectionReply_free found waits nonempty first]
          have kept :
              conn ∈ (onNet (·.wrote connection.serial buffer) world).2.server.connections :=
            member
          rw [if_pos kept]
          rw [Net.taken_wrote connection.serial buffer] at refused
          obtain ⟨added, log, conn', stray⟩ :=
            @ih (onNet (·.wrote connection.serial buffer) world)
              ⟨linked.distinct, linked.alive⟩ listed' turn (Nat.lt_of_succ_lt_succ inside) refused
          refine ⟨.sent connection.serial buffer (world.2.writes world.2.written) :: added, ?_,
            conn', List.mem_cons_of_mem _ stray⟩
          rw [log]
          simp [onNet, Net.wrote]

/-- What a broadcast should do, from the list of connections and the results of the writes. -/
structure Delivered (buffer : Bytes) (before after : Net) : Prop where
  -- One write of the whole buffer for each connection that does not wait, in order.
  attempted : attempts (after.log.drop before.log.length) =
    before.targets.map fun conn => (before.serialOf conn, buffer)
  unstrayed : ∀ conn, .fault (.freedNode conn) ∉ after.log.drop before.log.length
  left : after.server.connections = before.survivors 0 before.server.connections

/--
A broadcast is delivered exactly if every write succeeds.

A failed write removes the connection along with the list node the loop stands on.
-/
theorem broadcast_delivered_iff_written {buffer : Bytes} (nonempty : buffer ≠ []) (world : World)
    (linked : Linked world.2) :
    Delivered buffer world.2 (serverBroadcast buffer world).2 ↔
      ∀ turn < world.2.targets.length, world.2.taken turn = true := by
  have walk : serverBroadcast buffer world =
      broadcastFrom buffer world.2.server.connections world := if_neg nonempty
  rw [walk]
  constructor
  · -- A failed write would leave a fault behind that a delivery has not.
    intro delivered turn below
    by_contra wrong
    have refused : world.2.taken turn = false := by simpa using wrong
    obtain ⟨added, log, conn, stray⟩ :=
      broadcastFrom_strays nonempty linked (fun _ member => member) below refused
    have clean := delivered.unstrayed conn
    rw [log, List.drop_left] at clean
    exact clean stray
  · intro succeeds
    obtain ⟨added, log, sent, clean, server⟩ :=
      broadcastFrom_delivers nonempty (fun _ member => member) linked.alive succeeds
    refine ⟨?_, ?_, ?_⟩
    · rw [log, List.drop_left]
      exact sent
    · rw [log, List.drop_left]
      exact clean
    · rw [server, Net.survivors_all]
      intro turn below
      rw [Nat.zero_add]
      exact succeeds turn below

/-- Three clients connect, and the one in the middle waits for the reply to a request. -/
def threeConnect : List SystemEvent :=
  let connects socket pointer : List SystemEvent :=
    [.polled fun _ => pollIn, .row 1 { calmInput with socket := some socket, pointer := pointer }]
  connects 6 0 ++ connects 7 1 ++ connects 8 2 ++ [.polled fun _ => pollIn, .row 4 clientAsks]

/-- A broadcast to the two of three connections that do not wait, which take it. -/
theorem broadcast_delivered_to_client :
    let world := run (systemStep serverBroadcaster) (mainStart plainConfig) threeConnect
    world.2.server.connections = [0, 1, 2] ∧ world.2.targets = [0, 2] ∧
      Delivered [2, 2, 1, 2] world.2 (serverBroadcast [2, 2, 1, 2] world).2 := by
  have linked := (sound_run serverBroadcaster plainConfig threeConnect).tidy.registered.linked
  refine ⟨by decide +kernel, by decide +kernel, ?_⟩
  refine (broadcast_delivered_iff_written (by decide) _ linked).mpr ?_
  decide +kernel

/-- The client is gone when the broadcast is written to it. -/
def goneConfig : Config := { plainConfig with writes := fun _ => none }

/-- A broadcast to the only connection follows its list node after it was freed. -/
theorem broadcast_follows_freed_node :
    let world := run (systemStep serverBroadcaster) (mainStart goneConfig) clientConnects
    ¬ Delivered [2, 2, 1, 2] world.2 (serverBroadcast [2, 2, 1, 2] world).2 := by
  intro world delivered
  apply delivered.unstrayed 0
  decide +kernel

end Daliserver

import Daliserver.Net.Requests

/-! How the stream of a client is cut into frames, however `read` hands it out. -/

namespace Daliserver

open Machine

/-- Reads from a connection, whose socket is off the table once it is removed. -/
def readFrom (conn : ConnPtr) (world : World) (input : Input) : World :=
  match world.2.heap conn with
  | none => world
  | some _ => connectionReady input conn world

/-- The bytes that a read takes out of the stream. -/
def Input.chunk (input : Input) : Bytes := input.buffer.getD []

/-- The stream that a number of reads take their bytes from. -/
def streamOf (inputs : List Input) : Bytes := inputs.flatMap Input.chunk

/-- The reads are served with pieces of at most the requested size, and none is empty. -/
def Segmented (framesize : Nat) (inputs : List Input) : Prop :=
  ∀ input ∈ inputs, input.buffer = some input.chunk ∧ input.chunk ≠ [] ∧
    input.chunk.length ≤ framesize

/-- A stream cut into blocks of the same size, without an incomplete one at the end. -/
def blocks (framesize : Nat) (stream : Bytes) : List Bytes :=
  (List.range (stream.length / framesize)).map fun index =>
    (stream.drop (index * framesize)).take framesize

/-- A read removes the connection at the end of the stream or on an error only. -/
def RemovedAtEnd (conn : ConnPtr) (world : World) (input : Input) : Prop :=
  world.2.heap conn ≠ none → (readFrom conn world input).2.heap conn = none →
    input.buffer = none ∨ input.buffer = some []

/-- The frames are the blocks of the stream, and the connection stays up to its end. -/
structure Framed (conn : ConnPtr) (serial : Nat) (world : World) (inputs : List Input) :
    Prop where
  frames : receivedFrames serial (run (readFrom conn) world inputs).2.log =
    receivedFrames serial world.2.log ++ blocks world.2.server.framesize (streamOf inputs)
  removal : StepsMeet (readFrom conn) (RemovedAtEnd conn) world inputs

/-- In a dry run, the reply that a request gets at once is taken by the client. -/
def ReplyTaken (world : World) (input : Input) : Prop :=
  world.2.server.arg = none → isRequest input.chunk = true → world.2.writable = true

/-- An empty stream has no blocks. -/
@[simp] theorem blocks_nil (framesize : Nat) : blocks framesize [] = [] := by
  simp [blocks]

/-- The first block of a stream that starts with a whole frame is this frame. -/
theorem blocks_append {framesize : Nat} (positive : 0 < framesize) {frame : Bytes}
    (whole : frame.length = framesize) (stream : Bytes) :
    blocks framesize (frame ++ stream) = frame :: blocks framesize stream := by
  have count : (frame ++ stream).length / framesize = stream.length / framesize + 1 := by
    rw [List.length_append, whole, Nat.add_comm, Nat.add_div_right _ positive]
  rw [blocks, count, List.range_succ_eq_map, List.map_cons, List.map_map]
  congr 1
  · simp [← whole]
  · -- Behind the first frame, the blocks are those of the rest.
    refine List.map_congr_left fun index _ => ?_
    have behind : (index + 1) * framesize = frame.length + index * framesize := by
      rw [whole, Nat.succ_mul, Nat.add_comm]
    simp only [Function.comp_apply, Nat.succ_eq_add_one, behind, List.drop_length_add_append]

section Reading

variable {conn : ConnPtr} {connection : Connection} {world : World} {input : Input}

/-- Reading from a connection that is alive. -/
theorem readFrom_alive (found : world.2.heap conn = some connection) :
    readFrom conn world input = connectionReady input conn world := by
  simp only [readFrom, found]

/-- Removing a connection passes no frame on. -/
theorem receivedFrames_without (serial : Nat) :
    receivedFrames serial (world.2.without conn connection).log =
      receivedFrames serial world.2.log := by
  simp [Net.without, receivedFrames]

/-- Anything less than a frame removes the connection. -/
theorem readFrom_short (found : world.2.heap conn = some connection)
    (read : input.buffer = some input.chunk)
    (short : input.chunk.length < world.2.server.framesize) :
    (readFrom conn world input).2 = world.2.without conn connection := by
  rw [readFrom_alive found, connectionReady_eq found, read]
  simp only [short, if_true]
  rw [serverConnectionRemove_eq found]

/-- A whole frame goes to the handler, once the connection waits for a reply. -/
theorem readFrom_handled (found : world.2.heap conn = some connection)
    (read : input.buffer = some input.chunk)
    (whole : input.chunk.length = world.2.server.framesize) :
    readFrom conn world input =
      netFrameHandler input.memory input.submit world.2.server.arg input.chunk conn
        (onNet (·.heard conn connection input.chunk) world) := by
  have long : ¬ input.chunk.length < world.2.server.framesize := by omega
  rw [readFrom_alive found, connectionReady_eq found, read]
  simp only [long, if_false]

/-- The connection is still there when the handler gets its frame. -/
theorem heard_alive :
    (onNet (·.heard conn connection input.chunk) world).2.heap conn =
      some { connection with waiting := true } :=
  Function.update_self ..

/-- A whole frame is passed on, whatever the handler makes of it. -/
theorem readFrom_whole (found : world.2.heap conn = some connection)
    (read : input.buffer = some input.chunk)
    (whole : input.chunk.length = world.2.server.framesize) :
    receivedFrames connection.serial (readFrom conn world input).2.log =
        receivedFrames connection.serial world.2.log ++ [input.chunk] ∧
      (readFrom conn world input).2.server.framesize = world.2.server.framesize := by
  rw [readFrom_handled found read whole, netFrameHandler_eq]
  split
  · cases device : world.2.server.arg with
    | some pointer =>
      cases pointer
      simp [onDali, onNet, Net.heard, receivedFrames]
    | none =>
      -- The reply is no frame that was read, and it leaves the size alone.
      simp only
      rw [connectionReply_eq heard_alive (by simp)]
      split
      · simp [onNet, Net.answered, Net.heard, receivedFrames]
      · simp [onNet, Net.without, Net.answered, Net.heard, receivedFrames]
  · simp [onNet, Net.heard, receivedFrames]

/-- Behind a whole frame, the connection stays if the client takes the reply. -/
theorem readFrom_stays (found : world.2.heap conn = some connection)
    (read : input.buffer = some input.chunk)
    (whole : input.chunk.length = world.2.server.framesize) (taken : ReplyTaken world input) :
    ∃ next, (readFrom conn world input).2.heap conn = some next ∧
      next.serial = connection.serial := by
  rw [readFrom_handled found read whole, netFrameHandler_eq]
  split
  · rename_i request
    cases device : world.2.server.arg with
    | some pointer =>
      -- The request is queued, and the server does not touch the connection.
      cases pointer
      exact ⟨_, heard_alive, rfl⟩
    | none =>
      have writable : (onNet (·.heard conn connection input.chunk) world).2.writable = true :=
        taken device request
      simp only
      rw [connectionReply_eq heard_alive (by simp), if_pos writable]
      exact ⟨_, Function.update_self .., rfl⟩
  · -- A frame that is no request is dropped.
    exact ⟨_, heard_alive, rfl⟩

/-- A reply that is not taken removes the connection. -/
theorem readFrom_refused (found : world.2.heap conn = some connection)
    (read : input.buffer = some input.chunk)
    (whole : input.chunk.length = world.2.server.framesize) (refused : ¬ ReplyTaken world input) :
    (readFrom conn world input).2.heap conn = none := by
  simp only [ReplyTaken, Classical.not_imp] at refused
  obtain ⟨device, request, failed⟩ := refused
  -- Marking the connection does not change what the next write returns.
  have failed' : ¬ (onNet (·.heard conn connection input.chunk) world).2.writable = true := failed
  rw [readFrom_handled found read whole, netFrameHandler_eq, if_pos request, device]
  simp only
  rw [connectionReply_eq heard_alive (by simp), if_neg failed']
  exact Function.update_self ..

/-- Behind a whole frame, the rest of the stream is framed on its own. -/
theorem framed_cons_iff (found : world.2.heap conn = some connection)
    (positive : 0 < world.2.server.framesize) (read : input.buffer = some input.chunk)
    (whole : input.chunk.length = world.2.server.framesize) (taken : ReplyTaken world input)
    (rest : List Input) :
    Framed conn connection.serial world (input :: rest) ↔
      Framed conn connection.serial (readFrom conn world input) rest := by
  obtain ⟨next, alive, -⟩ := readFrom_stays found read whole taken
  obtain ⟨heard, size⟩ := readFrom_whole found read whole
  have stream : streamOf (input :: rest) = input.chunk ++ streamOf rest := rfl
  -- The frame that was read is the first block on the one side, and in the log on the other.
  have shifted : receivedFrames connection.serial world.2.log ++
        blocks world.2.server.framesize (streamOf (input :: rest)) =
      receivedFrames connection.serial (readFrom conn world input).2.log ++
        blocks (readFrom conn world input).2.server.framesize (streamOf rest) := by
    rw [stream, blocks_append positive whole, heard, size]
    simp
  have stays : RemovedAtEnd conn world input := by
    intro _ gone
    rw [alive] at gone
    cases gone
  constructor
  · rintro ⟨frames, removal⟩
    exact ⟨frames.trans shifted, removal.2⟩
  · rintro ⟨frames, removal⟩
    exact ⟨frames.trans shifted.symm, stays, removal⟩

end Reading

/--
The frames are independent of how the stream is handed out exactly if it comes in whole frames.

In a dry run, the client also has to take the replies, which are written before the next read.
-/
theorem framed_iff_whole {conn : ConnPtr} {connection : Connection} {world : World}
    (found : world.2.heap conn = some connection) (positive : 0 < world.2.server.framesize)
    {inputs : List Input} (segmented : Segmented world.2.server.framesize inputs)
    {ending : Input} (ended : ending.buffer = some []) :
    Framed conn connection.serial world (inputs ++ [ending]) ↔
      (∀ input ∈ inputs, input.chunk.length = world.2.server.framesize) ∧
        StepsMeet (readFrom conn) ReplyTaken world inputs := by
  -- Each read moves the world on, and its connection with it.
  induction inputs generalizing world connection with
  | nil =>
    -- The end of the stream is a short read, and removing the connection is right then.
    have empty : ending.chunk = [] := by simp [Input.chunk, ended]
    have last : (readFrom conn world ending).2 = world.2.without conn connection :=
      readFrom_short found (by simp [Input.chunk, ended]) (by simpa [empty] using positive)
    refine iff_of_true ⟨?_, ?_, trivial⟩ ⟨by simp, trivial⟩
    · simp [streamOf, empty, last, receivedFrames_without]
    · exact fun _ _ => .inr ended
  | cons input rest ih =>
    obtain ⟨read, nonempty, most⟩ := segmented input (by simp)
    have others : Segmented world.2.server.framesize rest :=
      fun other member => segmented other (by simp [member])
    -- A removal by this read is one too many, since it took bytes from the stream.
    have early : (readFrom conn world input).2.heap conn = none →
        ¬ Framed conn connection.serial world (input :: rest ++ [ending]) := by
      intro gone framed
      have atEnd := framed.removal.1 (by simp [found]) gone
      rw [read] at atEnd
      simp [nonempty] at atEnd
    by_cases whole : input.chunk.length = world.2.server.framesize
    · by_cases taken : ReplyTaken world input
      · obtain ⟨next, alive, same⟩ := readFrom_stays found read whole taken
        obtain ⟨_, size⟩ := readFrom_whole found read whole
        have later := ih alive (size ▸ positive) (size ▸ others)
        rw [same, size] at later
        rw [List.cons_append, framed_cons_iff found positive read whole taken, later]
        simp only [List.forall_mem_cons, StepsMeet, whole, taken, true_and]
      · -- The reply fails, and with it the connection goes before its next frame.
        refine iff_of_false (early (readFrom_refused found read whole taken)) ?_
        exact fun ⟨_, met⟩ => taken met.1
    · -- Less than a frame is not kept for the next read.
      have gone : (readFrom conn world input).2.heap conn = none := by
        rw [readFrom_short found read (by omega)]
        exact Function.update_self ..
      exact iff_of_false (early gone) fun ⟨all, _⟩ => whole (all input (by simp))

/-- Two requests that arrive in one piece each are two frames. -/
theorem two_requests_framed :
    let world := run (systemStep serverBroadcaster) (mainStart plainConfig) clientConnects
    Framed 0 0 world ([clientAsks, clientAsks] ++ [{ calmInput with buffer := some [] }]) := by
  intro world
  have found : world.2.heap 0 = some ⟨0, 6, false, true, some .usb⟩ := by decide +kernel
  have size : world.2.server.framesize = 4 := by decide +kernel
  have device : world.2.server.arg = some .usb := by decide +kernel
  have device' : (readFrom 0 world clientAsks).2.server.arg = some .usb := by decide +kernel
  have segmented : Segmented world.2.server.framesize [clientAsks, clientAsks] := by
    rw [size]
    exact fun input member => by simp_all [clientAsks, Input.chunk]
  refine (framed_iff_whole found (by rw [size]; decide) segmented rfl).mpr ⟨?_, ?_, ?_, trivial⟩
  · rw [size]
    exact fun input member => by simp_all [clientAsks, Input.chunk]
  -- There is a device, so no request is answered at once.
  · intro dry
    rw [device] at dry
    cases dry
  · intro dry
    rw [device'] at dry
    cases dry

/-- A request whose two halves arrive one after the other is lost, and so is the connection. -/
theorem split_request_lost :
    let world := run (systemStep serverBroadcaster) (mainStart plainConfig) clientConnects
    let halves : List Input :=
      [{ calmInput with buffer := some [2, 0] }, { calmInput with buffer := some [1, 2] }]
    let ending : Input := { calmInput with buffer := some [] }
    world.2.heap 0 = some ⟨0, 6, false, true, some .usb⟩ ∧
      Segmented world.2.server.framesize halves ∧
      streamOf halves = streamOf [clientAsks] ∧
      receivedFrames 0 (run (readFrom 0) world (halves ++ [ending])).2.log ≠
        receivedFrames 0 (run (readFrom 0) world ([clientAsks] ++ [ending])).2.log ∧
      ¬ Framed 0 0 world (halves ++ [ending]) := by
  intro world halves ending
  have size : world.2.server.framesize = 4 := by decide +kernel
  have found : world.2.heap 0 = some ⟨0, 6, false, true, some .usb⟩ := by decide +kernel
  have gone : (readFrom 0 world { calmInput with buffer := some [2, 0] }).2.heap 0 = none := by
    decide +kernel
  refine ⟨found, ?_, rfl, by decide +kernel, fun framed => ?_⟩
  · rw [size]
    exact fun input member => by
      simp only [halves, List.mem_cons, List.not_mem_nil, or_false] at member
      rcases member with rfl | rfl <;> simp [Input.chunk]
  · have atEnd := framed.removal.1 (by rw [found]; exact Option.some_ne_none _) gone
    simp at atEnd

end Daliserver

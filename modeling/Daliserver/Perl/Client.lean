import Daliserver.Net.DryRun
import Daliserver.Net.Streams
import Daliserver.Perl.Commands
import Daliserver.Usb.Conservation

/-! The Perl client at the other end of a connection (usbdali.pm). -/

namespace Daliserver

open Machine

namespace Usbdali

/-- The version of the protocol, as `new` sets it. -/
def protocol : UInt8 := 2

/-- The low eight bits of a number, as `pack` takes them. -/
def packByte (number : Nat) : UInt8 := (uv number).toUInt8

/-- `send`: the packet for a command. -/
def send (address cmd : Nat) : Bytes := [protocol, 0, packByte address, packByte cmd]

/-- What `receive` makes of a packet. Bytes that were not read are undefined. -/
inductive Received where
  -- There is a warning about the version, and the value of `warn` is returned.
  | invalid (protocol : Option UInt8)
  | success
  | response (response : Option UInt8)
  | broadcast (address command : Option UInt8)
  | error
  -- Another status is passed on along with both bytes.
  | other (status data0 data1 : Option UInt8)
deriving DecidableEq, Repr

/--
What `receive` makes of the bytes that it has read, of which there may be less than a packet.

Whether an undefined status is the same as 0 for `when` is left open.
-/
def interpret (undefIsZero : Bool) (packet : Bytes) : Received :=
  let status := packet[1]?
  let response := packet[2]?
  let pad := packet[3]?
  -- An undefined version is taken for 0, which is no version either.
  if packet[0]? ≠ some protocol then .invalid packet[0]?
  else if status = some 0 ∨ (status = none ∧ undefIsZero) then .success
  else if status = some 1 then .response response
  else if status = some 2 then .broadcast response pad
  else if status = some 255 then .error
  else .other status response pad

/-- `receive`, with what is left to be read. It may find that the stream has ended. -/
def receive (undefIsZero ended : Bool) (stream : Bytes) : Option (Received × Bytes) :=
  -- At the end of the stream `read` returns at once, and otherwise it waits for a whole packet.
  if stream.length < 4 ∧ ended = false then none
  else some (interpret undefIsZero (stream.take 4), stream.drop 4)

/-- What is returned by so many calls of `receive` in turn, up to one that has to wait. -/
def receiveAll (undefIsZero ended : Bool) : Nat → Bytes → List Received
  | 0, _ => []
  | calls + 1, stream =>
    match receive undefIsZero ended stream with
    | none => []
    | some (received, rest) => received :: receiveAll undefIsZero ended calls rest

/-- What is returned at the end of a stream: what a part of a packet looks like, then nothing. -/
def atEnd (undefIsZero : Bool) (rest : Bytes) (calls : Nat) : List Received :=
  ((if rest = [] then [] else [interpret undefIsZero rest]) ++
    List.replicate calls (Received.invalid none)).take calls

/-- Whether this was not meant for this client in particular. -/
def Received.isBroadcast : Received → Bool
  | .broadcast _ _ => true
  | _ => false

/-- What a client is to hear about the outcome of its request. -/
def told (outcome : Outcome) : Received :=
  match outcome with
  -- Only an answer from the bus has a value.
  | (.response, response) => .response (some response.toUInt8)
  | (.success, _) => .success
  | _ => .error

/-- What the client hears is what the server meant. -/
inductive Conveys : Bytes → Received → Prop where
  | reply (outcome : Outcome) : Conveys (replyFrame outcome.1 outcome.2) (told outcome)
  | broadcast (address command : UInt8) :
    Conveys (broadcastFrame address command) (.broadcast (some address) (some command))

/-- A frame conveys one thing only, which does not depend on how anything undefined is read. -/
theorem Conveys.eq {frame : Bytes} {received : Received} (meant : Conveys frame received)
    (undefIsZero : Bool) : received = interpret undefIsZero frame := by
  -- The kind of the outcome decides on the status byte, which decides on what is heard.
  cases meant with
  | reply outcome =>
    obtain ⟨error, response⟩ := outcome
    cases error <;> rfl
  | broadcast address command => rfl

/-- Every message conveys something, which is for all clients alike if it is no reply. -/
theorem Conveys.of_message {frame : Bytes} (message : ClientMessage frame) (undefIsZero : Bool) :
    Conveys frame (interpret undefIsZero frame) ∧
      (interpret undefIsZero frame).isBroadcast = !isReply frame := by
  -- Each message is one of the two that can be conveyed.
  cases message with
  | reply error response =>
    have meant := Conveys.reply (error, response)
    rw [isReply_replyFrame, ← meant.eq undefIsZero]
    refine ⟨meant, ?_⟩
    cases error <;> rfl
  | broadcast address command => exact ⟨.broadcast address command, rfl⟩

section Reading

variable (undefIsZero ended : Bool)

/-- A packet at the front of the stream is read, and the rest of the stream follows. -/
theorem receive_append {packet : Bytes} (whole : packet.length = defaultNetFramesize)
    (stream : Bytes) :
    receive undefIsZero ended (packet ++ stream) = some (interpret undefIsZero packet, stream) := by
  match packet, whole with
  | [_, _, _, _], _ => rfl

/-- At the end of the stream nothing is read, again and again. -/
theorem receiveAll_nil (calls : Nat) :
    receiveAll undefIsZero true calls [] = List.replicate calls (.invalid none) := by
  induction calls with
  | zero => rfl
  | succ calls ih => rw [List.replicate_succ, ← ih]; rfl

/-- Less than a packet is waited for, unless the stream has ended. -/
theorem receiveAll_short {rest : Bytes} (short : rest.length < defaultNetFramesize) (calls : Nat) :
    receiveAll undefIsZero ended calls rest =
      if ended then atEnd undefIsZero rest calls else [] := by
  have less : rest.length < 4 := short
  cases calls with
  | zero => cases ended <;> simp [receiveAll, atEnd]
  | succ calls =>
    cases ended with
    | false => simp [receiveAll, receive, less]
    | true =>
      -- The part of a packet is read first, and the stream is empty behind it.
      have read : receive undefIsZero true rest = some (interpret undefIsZero rest, []) := by
        simp [receive, List.take_of_length_le less.le, List.drop_of_length_le less.le]
      simp only [receiveAll, read, receiveAll_nil, if_true, atEnd]
      by_cases empty : rest = []
      · subst empty
        simp [List.replicate_succ, interpret]
      · simp [empty, List.take_replicate]

/-- Packets one after the other are read one after the other, and then the rest. -/
theorem receiveAll_flatten {packets : List Bytes}
    (whole : ∀ packet ∈ packets, packet.length = defaultNetFramesize) (rest : Bytes)
    (calls : Nat) :
    receiveAll undefIsZero ended calls (packets.flatten ++ rest) =
      (packets.map (interpret undefIsZero)).take calls ++
        receiveAll undefIsZero ended (calls - packets.length) rest := by
  -- By induction on the packets; each of them takes one call.
  induction packets generalizing calls with
  | nil => simp
  | cons first others ih =>
    cases calls with
    | zero => simp [receiveAll]
    | succ calls =>
      have later := ih (fun packet member => whole packet (List.mem_cons_of_mem _ member)) calls
      rw [List.flatten_cons, List.append_assoc, receiveAll,
        receive_append undefIsZero ended (whole first (by simp))]
      simp only [later, List.map_cons, List.take_succ_cons, List.cons_append, List.length_cons,
        Nat.add_sub_add_right]

end Reading

/-- The frames of a stream are the contents of its writes. -/
theorem sentFrames_eq (serial : Nat) (log : List NetEffect) :
    sentFrames serial log = (writesTo serial log).map (·.contents) := by
  -- Both lists are made of the same entries of the log.
  rw [sentFrames, writesTo, List.map_filterMap]
  congr 1
  funext effect
  cases effect with
  | sent target frame result =>
    simp only [NetEffect.sentTo, NetEffect.writeTo]
    split <;> rfl
  | _ => rfl

end Usbdali

open Usbdali

/-- The stream to a client is all of its frames, except for a part of the last one. -/
theorem Streams.cut {net : Net} (streams : Streams net) (serial : Nat) :
    ∃ frames torn rest, sentFrames serial net.log = frames ++ torn ∧ torn.length ≤ 1 ∧
      ((∃ conn, clientAt net conn = some serial) → torn = []) ∧
      (∀ frame ∈ frames, ClientMessage frame) ∧ rest.length < defaultNetFramesize ∧
      delivered (writesTo serial net.log) = frames.flatten ++ rest := by
  -- The stream is cut behind its last whole frame.
  obtain ⟨frames, rest, ⟨torn, written, single⟩, stream, short, all⟩ :=
    (streams.unbroken serial).cut (by decide : 0 < defaultNetFramesize)
      fun write member => (streams.messages serial write member).length
  rw [sentFrames_eq]
  refine ⟨frames, torn, rest, written, single, ?_, fun frame member => ?_, short, stream⟩
  · -- As long as the client is there, all frames were whole.
    rintro ⟨conn, there⟩
    rw [← all (streams.whole conn serial there)] at written
    exact List.append_right_eq_self.mp written.symm
  · have sent : frame ∈ (writesTo serial net.log).map (·.contents) :=
      written ▸ List.mem_append_left _ member
    obtain ⟨write, there, rfl⟩ := List.mem_map.mp sent
    exact streams.messages serial write there

/-- What has arrived of frames is heard frame by frame, and then comes the end of the stream. -/
theorem receiveAll_of_prefix {frames : List Bytes}
    (even : ∀ frame ∈ frames, frame.length = defaultNetFramesize) {rest : Bytes}
    (short : rest.length < defaultNetFramesize) {stream : Bytes}
    (arrived : stream <+: frames.flatten ++ rest) (undefIsZero ended : Bool) (calls : Nat) :
    let whole := stream.length / 4
    whole ≤ frames.length ∧
      receiveAll undefIsZero ended calls stream =
        ((frames.take whole).take calls).map (interpret undefIsZero) ++
          if ended then atEnd undefIsZero (stream.drop (4 * whole)) (calls - whole) else [] := by
  intro whole
  obtain ⟨split, bound⟩ := front_of_blocks even short arrived
  -- Less than a packet is left behind the whole ones.
  have left : (stream.drop (4 * whole)).length < defaultNetFramesize := by
    rw [List.length_drop]
    show stream.length - 4 * (stream.length / 4) < 4
    omega
  have count : (frames.take whole).length = whole := List.length_take_of_le bound
  refine ⟨bound, ?_⟩
  calc receiveAll undefIsZero ended calls stream
    _ = receiveAll undefIsZero ended calls
        ((frames.take whole).flatten ++ stream.drop (4 * whole)) := congrArg _ split
    _ = _ := by
      rw [receiveAll_flatten undefIsZero ended
        (fun frame member => even frame (List.mem_of_mem_take member)), count,
        receiveAll_short undefIsZero ended left, ← List.map_take]

/-- The first calls return what the whole packets mean. -/
theorem receiveAll_take {frames : List Bytes}
    (even : ∀ frame ∈ frames, frame.length = defaultNetFramesize) {rest : Bytes}
    (short : rest.length < defaultNetFramesize) {stream : Bytes}
    (arrived : stream <+: frames.flatten ++ rest) (undefIsZero ended : Bool) (calls : Nat) :
    (receiveAll undefIsZero ended calls stream).take (stream.length / 4) =
      ((frames.take (stream.length / 4)).take calls).map (interpret undefIsZero) := by
  obtain ⟨bound, all⟩ := receiveAll_of_prefix even short arrived undefIsZero ended calls
  rw [all]
  by_cases enough : stream.length / 4 ≤ calls
  · refine List.take_left' ?_
    rw [List.length_map, List.length_take, List.length_take]
    omega
  · -- With fewer calls there is no end of the stream to be seen.
    have none : calls - stream.length / 4 = 0 := by omega
    have nothing : (if ended then
        atEnd undefIsZero (stream.drop (4 * (stream.length / 4))) (calls - stream.length / 4)
      else []) = [] := by simp [none, atEnd]
    rw [nothing, List.append_nil]
    refine List.take_of_length_le ?_
    rw [List.length_map, List.length_take, List.length_take]
    omega

/--
A client never gets out of step with the server.

Whatever happens to the writes of the server, the whole packets that a client reads are the frames
that were written to it, from the first one on, and each of them is understood as it was meant.
Only the last frame can be incomplete, and only after the client was disconnected.
Anything else is read behind the end of the stream: first the part of a packet that is there, and
nothing from then on, which has no version.
-/
theorem client_in_step (broadcaster : Broadcaster) (config : Config) (events : List SystemEvent)
    (serial : Nat) :
    let net := (run (systemStep broadcaster) (mainStart config) events).2
    let all := delivered (writesTo serial net.log)
    ∃ frames torn, sentFrames serial net.log = frames ++ torn ∧ torn.length ≤ 1 ∧
      ((∃ conn, clientAt net conn = some serial) → torn = []) ∧ all.length / 4 = frames.length ∧
      ∀ (undefIsZero ended : Bool) (calls : Nat) (stream : Bytes), stream <+: all →
        let whole := stream.length / 4
        ∃ meant, List.Forall₂ Conveys ((frames.take whole).take calls) meant ∧
          receiveAll undefIsZero ended calls stream = meant ++
            if ended then atEnd undefIsZero (stream.drop (4 * whole)) (calls - whole) else [] := by
  intro net all
  obtain ⟨frames, torn, rest, sent, single, whole, messages, short, delivers⟩ :=
    (streams_run broadcaster config events).cut serial
  have even := fun frame member => (messages frame member).length
  have delivers : all = frames.flatten ++ rest := delivers
  have count : all.length / 4 = frames.length :=
    (congrArg (fun stream : Bytes => stream.length / 4) delivers).trans (blocks_count even short)
  refine ⟨frames, torn, sent, single, whole, count, ?_⟩
  intro undefIsZero ended calls stream arrived
  obtain ⟨-, heard⟩ := receiveAll_of_prefix even short (delivers ▸ arrived) undefIsZero ended calls
  refine ⟨_, ?_, heard⟩
  -- All frames that are whole are messages.
  rw [List.forall₂_map_right_iff, List.forall₂_same]
  intro frame member
  exact (Conveys.of_message (messages frame
    (List.mem_of_mem_take (List.mem_of_mem_take member))) undefIsZero).1

-- Half of a reply is read as a response without a value, and nothing as no version at all.
example : receiveAll false true 3 [2, 1, 7, 0, 2, 1] =
    [.response (some 7), .response none, .invalid none] := by decide

/-- While the stream goes on, no more than the whole packets are read from it. -/
theorem Streams.received_length {net : Net} (streams : Streams net) (serial : Nat)
    (undefIsZero : Bool) {ended : Bool} (calls : Nat) {stream : Bytes}
    (arrived : stream <+: delivered (writesTo serial net.log)) (going : ended = false) :
    (receiveAll undefIsZero ended calls stream).length ≤ stream.length / 4 := by
  obtain ⟨frames, -, rest, -, -, -, messages, short, delivers⟩ := streams.cut serial
  obtain ⟨-, heard⟩ := receiveAll_of_prefix (fun frame member => (messages frame member).length)
    short (delivers ▸ arrived) undefIsZero ended calls
  rw [heard, going, List.length_append, List.length_map, List.length_take, List.length_take]
  simp only [Bool.false_eq_true, if_false, List.length_nil]
  omega

/-- The replies among the frames written to a client. -/
theorem replies_sent (serial : Nat) (log : List NetEffect) :
    (replyLog log).filter (·.1 = serial) =
      ((sentFrames serial log).filter isReply).map fun frame => (serial, frame) := by
  -- By induction on the log: an entry counts on both sides or on neither.
  induction log using List.reverseRecOn with
  | nil => rfl
  | append_singleton log effect ih =>
    rw [replyLog_concat, sentFrames, filterMap_concat, List.filter_append, List.filter_append,
      List.map_append, ih]
    congr 1
    cases effect with
    | sent target frame result =>
      by_cases own : target = serial <;> by_cases reply : isReply frame = true <;>
        simp [own, reply]
    | _ => rfl

/-- What a client hears in whole packets besides broadcasts are the replies written to it. -/
theorem Streams.heard_replies {net : Net} (streams : Streams net) (serial : Nat)
    (undefIsZero ended : Bool) (calls : Nat) {stream : Bytes}
    (arrived : stream <+: delivered (writesTo serial net.log)) :
    let whole := stream.length / 4
    let heard := ((receiveAll undefIsZero ended calls stream).take whole).filter (!·.isBroadcast)
    let replies := ((replyLog net.log).filter (·.1 = serial)).map fun entry =>
      interpret undefIsZero entry.2
    heard <+: replies ∧ ((∃ conn, clientAt net conn = some serial) →
      stream = delivered (writesTo serial net.log) → whole ≤ calls → heard = replies) := by
  -- What is heard is selected as what is written, and only the end can be missing.
  intro whole heard replies
  obtain ⟨frames, torn, rest, sent, -, present, messages, short, delivers⟩ := streams.cut serial
  have even := fun frame member => (messages frame member).length
  have heardEq : heard = (((frames.take whole).take calls).filter isReply).map
      (interpret undefIsZero) := by
    simp only [heard, whole,
      receiveAll_take even short (delivers ▸ arrived) undefIsZero ended calls, List.filter_map]
    congr 1
    refine List.filter_congr fun frame member => ?_
    have message := messages frame (List.mem_of_mem_take (List.mem_of_mem_take member))
    simp [(Conveys.of_message message undefIsZero).2]
  have repliesEq : replies =
      ((sentFrames serial net.log).filter isReply).map (interpret undefIsZero) := by
    simp only [replies, replies_sent, List.map_map]
    rfl
  rw [heardEq, repliesEq, sent]
  constructor
  · refine ((List.IsPrefix.filter _ ?_).map _)
    exact ((List.take_prefix _ _).trans (List.take_prefix _ _)).trans (List.prefix_append _ _)
  · intro there complete enough
    -- All frames have arrived, and all of them are read.
    have count : whole = frames.length := by
      simp only [whole, complete, delivers]
      exact blocks_count even short
    rw [present there, List.append_nil, List.take_of_length_le (by omega : frames.length ≤ whole),
      List.take_of_length_le (by omega : frames.length ≤ calls)]

/-- What the client sends is a request, for what it was told to send. -/
theorem send_request (address cmd : Nat) :
    isRequest (send address cmd) = true ∧
      requestFrame (send address cmd) = daliframeNew (packByte address) (packByte cmd) :=
  ⟨rfl, rfl⟩

/-- The tickets of a client are commands that it has sent. -/
theorem Serves.commands_sublist {world : World} {service : Service Nat DaliFrame Outcome}
    (serves : Serves world service) {serial : Nat} {commands : List (Nat × Nat)}
    (sent : receivedFrames serial world.2.log <+: commands.map fun cmd => send cmd.1 cmd.2) :
    ((service.asked.filter (·.1 = serial)).map Prod.snd).Sublist
      (commands.map fun cmd => daliframeNew (packByte cmd.1) (packByte cmd.2)) := by
  -- Each ticket is a request that was read, and each frame that was read is a command.
  refine (serves.heard serial).trans (((sent.filter isRequest).map requestFrame).sublist.trans ?_)
  have all : (commands.map fun cmd => send cmd.1 cmd.2).filter isRequest =
      commands.map fun cmd => send cmd.1 cmd.2 := by
    refine List.filter_eq_self.mpr fun packet member => ?_
    obtain ⟨cmd, -, rfl⟩ := List.mem_map.mp member
    exact (send_request cmd.1 cmd.2).1
  rw [all, List.map_map]
  exact List.Sublist.refl _

/--
A client learns what became of its own commands.

All that it hears in whole packets besides broadcasts are the outcomes of commands of its own, in
the order in which it sent them, and while it is connected it hears all of those that there are.
It hears nothing else unless it goes on reading when the stream has ended.
Other clients, broadcasts, refused writes and connections that come and go make no difference.
-/
theorem client_learns_outcomes (broadcaster : Broadcaster) (config : Config)
    (device : config.dryrun = false) (events : List SystemEvent) (serial : Nat)
    (undefIsZero ended : Bool) (calls : Nat) (stream : Bytes)
    (arrived : stream <+: delivered (writesTo serial
      (run (systemStep broadcaster) (mainStart config) events).2.log)) :
    let world := run (systemStep broadcaster) (mainStart config) events
    let asked := outputs (systemStep broadcaster) asks (mainStart config) events
    let own := Service.concerning serial
      (List.zipWith Service.entry asked (reportedOutcomes world.1.trace))
    let received := receiveAll undefIsZero ended calls stream
    let whole := stream.length / 4
    let heard := (received.take whole).filter (!·.isBroadcast)
    heard <+: own.map (fun entry => told entry.2.2) ∧
      ((∃ conn, clientAt world.2 conn = some serial) →
        stream = delivered (writesTo serial world.2.log) → whole ≤ calls →
        heard = own.map fun entry => told entry.2.2) ∧
      (ended = false → received.length ≤ whole) ∧
      ∀ commands : List (Nat × Nat),
        receivedFrames serial world.2.log <+: (commands.map fun cmd => send cmd.1 cmd.2) →
        (own.map fun entry => entry.2.1).Sublist
          (commands.map fun cmd => daliframeNew (packByte cmd.1) (packByte cmd.2)) := by
  intro world asked own received whole heard
  obtain ⟨service, fair, serves, taken⟩ := serves_run broadcaster device events
  have streams : Streams world.2 := streams_run broadcaster config events
  have ownEq : own = Service.concerning serial service.answered := by
    simp only [own, asked, ← taken, Service.answered, ← serves.outcomes]
    rfl
  -- What the server has written is what the counter has told.
  have repliesEq : ((replyLog world.2.log).filter (·.1 = serial)).map (fun entry =>
      interpret undefIsZero entry.2) = (Service.concerning serial service.told).map fun entry =>
        told entry.2.2 := by
    have replies : replyLog world.2.log = service.told.map fun entry =>
      (entry.1, replyFrame entry.2.2.1 entry.2.2.2) := serves.replies
    rw [replies, List.filter_map, List.map_map]
    exact List.map_congr_left fun entry _ => ((Conveys.reply entry.2.2).eq undefIsZero).symm
  obtain ⟨front, complete⟩ := streams.heard_replies serial undefIsZero ended calls arrived
  refine ⟨?_, fun present all enough => ?_, fun going => ?_, fun commands sent => ?_⟩
  · rw [ownEq]
    exact front.trans (repliesEq ▸ (fair.front serial).map _)
  · have there : serial ∈ service.present := (serves.present serial).mpr present
    rw [ownEq, ← fair.whole serial there, ← repliesEq]
    exact complete present all enough
  · exact streams.received_length serial undefIsZero calls arrived going
  · rw [ownEq]
    exact (Service.concerning_answered_prefix serial service).sublist.trans
      (serves.commands_sublist sent)

/-- The client has sent two commands, and hears the response to the first one. -/
theorem client_learns_outcomes_twice :
    let world := run (systemStep serverBroadcaster) (mainStart plainConfig) clientAsksTwice
    let stream := delivered (writesTo 0 world.2.log)
    plainConfig.dryrun = false ∧
      receivedFrames 0 world.2.log <+: [send 1 2, send 3 4] ∧
      ((receiveAll false false 5 stream).take (stream.length / 4)).filter (!·.isBroadcast) =
        [.response (some 7)] := by
  -- The client is still there, so it has heard all outcomes.
  intro world stream
  have present : clientAt world.2 0 = some 0 := by decide +kernel
  have enough : stream.length / 4 ≤ 5 := by decide +kernel
  have hears := (client_learns_outcomes serverBroadcaster plainConfig rfl clientAsksTwice 0 false
    false 5 stream (List.prefix_refl _)).2.1 ⟨0, present⟩ rfl enough
  refine ⟨rfl, by decide +kernel, hears.trans ?_⟩
  decide +kernel

/-- Every outcome is that of a request. -/
theorem reportedOutcomes_length {α : Type} (trace : List (UsbEffect α)) :
    (reportedOutcomes trace).length = (reportedRequests trace).length := by
  -- By induction on the trace: both are read off the same callbacks.
  induction trace using List.reverseRecOn with
  | nil => rfl
  | append_singleton trace effect ih =>
    rw [reportedOutcomes_concat, reportedRequests_concat, List.length_append, List.length_append,
      ih]
    cases effect <;> rfl

/--
The commands of all clients reach the adapter, and nothing else does.

The packets for the adapter are those of the requests that were taken from clients, in the order
in which they were taken, and each packet carries the two bytes that a client has sent.
Only the last packet can be without an outcome.
-/
theorem commands_reach_adapter (broadcaster : Broadcaster) (config : Config)
    (device : config.dryrun = false) (events : List SystemEvent) :
    let world := run (systemStep broadcaster) (mainStart config) events
    let asked := outputs (systemStep broadcaster) asks (mainStart config) events
    let packets := (submittedPackets world.1.trace).map Prod.snd
    packets = ((asked.take packets.length).mapIdx fun turn ticket =>
        outPacket ((turn + 1) % 256) ticket.2) ∧
      (reportedOutcomes world.1.trace).length ≤ packets.length ∧
      packets.length ≤ (reportedOutcomes world.1.trace).length + 1 ∧
      ∀ (serial : Nat) (commands : List (Nat × Nat)),
        receivedFrames serial world.2.log <+: (commands.map fun cmd => send cmd.1 cmd.2) →
        ((asked.filter (·.1 = serial)).map Prod.snd).Sublist
          (commands.map fun cmd => daliframeNew (packByte cmd.1) (packByte cmd.2)) := by
  intro world asked packets
  obtain ⟨service, fair, serves, taken⟩ := serves_run broadcaster device events
  have ledger : Ledger world.1 := (sound_run broadcaster config events).usb.ledger
  have started : packets.length = (fifoOf world.1).started.length := by
    simp [packets, ledger.packets]
  -- Service has begun on what was reported and on the active request.
  have begun : (fifoOf world.1).started.length =
      (reportedOutcomes world.1.trace).length + world.1.transaction.toList.length := by
    cases active : world.1.transaction <;>
      simp [Fifo.started, fifoOf, reportedOutcomes_length, active]
  have single : world.1.transaction.toList.length ≤ 1 := by
    cases world.1.transaction <;> simp
  refine ⟨?_, by omega, by omega, fun serial commands sent => ?_⟩
  · -- The requests on which service has begun are the first ones that were taken.
    have first : (fifoOf world.1).started.map Prod.snd =
        (asked.take packets.length).map Prod.snd := by
      obtain ⟨rest, whole⟩ := ledger.started_first
      have frames : (acceptedRequests world.1.trace).map Prod.snd = asked.map Prod.snd := by
        simp only [asked, ← taken]
        exact serves.frames
      rw [List.map_take, ← frames, ← whole, List.map_append, started]
      exact (List.take_left' (by simp)).symm
    calc packets
      _ = ((fifoOf world.1).started.map Prod.snd).mapIdx fun turn request =>
          outPacket ((turn + 1) % 256) request := by
        refine List.ext_getElem? fun turn => ?_
        simp only [packets, ledger.packets, List.getElem?_map, List.getElem?_mapIdx, Option.map_map]
        rfl
      _ = (asked.take packets.length).mapIdx fun turn ticket =>
          outPacket ((turn + 1) % 256) ticket.2 := by
        refine List.ext_getElem? fun turn => ?_
        simp only [first, List.getElem?_map, List.getElem?_mapIdx, Option.map_map]
        rfl
  · simp only [asked, ← taken]
    exact serves.commands_sublist sent

/-- The second command is on its way once there is an outcome of the first one. -/
theorem commands_reach_adapter_twice :
    let world := run (systemStep serverBroadcaster) (mainStart plainConfig) clientAsksTwice
    plainConfig.dryrun = false ∧
      (submittedPackets world.1.trace).map Prod.snd =
        [outPacket 1 (daliframeNew 1 2), outPacket 2 (daliframeNew 3 4)] := by
  intro world
  have packets := (commands_reach_adapter serverBroadcaster plainConfig rfl clientAsksTwice).1
  refine ⟨rfl, packets.trans ?_⟩
  decide +kernel

/--
A dry run answers every command by itself.

The client hears a response of zero for each of its commands in whole packets, and nothing else
unless it goes on reading when the stream has ended.
Only the last response can be missing once all that was delivered has arrived, after the client was
disconnected, and the device is left alone.
-/
theorem dry_run_answers (broadcaster : Broadcaster) (config : Config)
    (dryrun : config.dryrun = true) (events : List SystemEvent) (serial : Nat)
    (undefIsZero ended : Bool) (calls : Nat) (stream : Bytes)
    (arrived : stream <+: delivered (writesTo serial
      (run (systemStep broadcaster) (mainStart config) events).2.log)) :
    let world := run (systemStep broadcaster) (mainStart config) events
    let received := receiveAll undefIsZero ended calls stream
    let whole := stream.length / 4
    let requests := requestsFrom serial world.2.log
    world.1 = (mainStart config).1 ∧
      received.take whole = List.replicate (min calls whole) (.response (some 0)) ∧
      (ended = false → received.length ≤ whole) ∧ whole ≤ requests.length ∧
      (stream = delivered (writesTo serial world.2.log) → requests.length ≤ whole + 1 ∧
        ((∃ conn, clientAt world.2 conn = some serial) → whole = requests.length)) := by
  intro world received whole requests
  have dry := dry_run broadcaster dryrun events
  have streams : Streams world.2 := streams_run broadcaster config events
  obtain ⟨frames, torn, rest, sent, single, present, messages, short, delivers⟩ :=
    streams.cut serial
  have even := fun frame member => (messages frame member).length
  -- There are as many replies as requests.
  have count : requests.length = frames.length + torn.length := by
    rw [← List.length_append, ← sent, dry.answered serial, List.length_map]
  obtain ⟨bound, -⟩ := receiveAll_of_prefix even short (delivers ▸ arrived) undefIsZero ended calls
  have bound : whole ≤ frames.length := bound
  refine ⟨dry.untouched, ?_, streams.received_length serial undefIsZero calls arrived, by omega,
    fun complete => ?_⟩
  · have front : received.take whole = ((frames.take whole).take calls).map _ :=
      receiveAll_take even short (delivers ▸ arrived) undefIsZero ended calls
    rw [front]
    refine List.eq_replicate_iff.mpr ⟨?_, fun item member => ?_⟩
    · rw [List.length_map, List.length_take, List.length_take]
      omega
    · obtain ⟨frame, there, rfl⟩ := List.mem_map.mp member
      have written : frame ∈ sentFrames serial world.2.log :=
        sent ▸ List.mem_append_left _ (List.mem_of_mem_take (List.mem_of_mem_take there))
      rw [dry.answered serial] at written
      obtain ⟨-, -, rfl⟩ := List.mem_map.mp written
      rfl
  · have all : whole = frames.length := by
      simp only [whole, complete, delivers]
      exact blocks_count even short
    refine ⟨by omega, fun there => ?_⟩
    rw [count, present there, all]
    rfl

/-- A client of a dry run, which sends a command. -/
def dryClientAsks : List SystemEvent :=
  -- There are no descriptors of libusb in front of the listener.
  [.polled fun _ => pollIn, .row 0 { calmInput with socket := some 6 }, .polled fun _ => pollIn,
    .row 2 clientAsks]

/-- The client hears a response that was made up. -/
theorem dry_run_answers_once :
    let config : Config := { plainConfig with dryrun := true }
    let world := run (systemStep serverBroadcaster) (mainStart config) dryClientAsks
    let stream := delivered (writesTo 0 world.2.log)
    config.dryrun = true ∧
      (receiveAll false false 5 stream).take (stream.length / 4) = [.response (some 0)] := by
  intro config world stream
  obtain ⟨-, answers, -, -, complete⟩ :=
    dry_run_answers serverBroadcaster config rfl dryClientAsks 0
    false false 5 stream (List.prefix_refl _)
  have present : clientAt world.2 0 = some 0 := by decide +kernel
  have asked : (requestsFrom 0 world.2.log).length = 1 := by decide +kernel
  have whole := (complete rfl).2 ⟨0, present⟩
  refine ⟨rfl, answers.trans ?_⟩
  rw [whole, asked]
  rfl

end Daliserver

import Daliserver.Net.Broadcast
import Daliserver.Usb.Answers
import Daliserver.Usb.Closing

/-! From a packet of the adapter to the frames that the clients get for it. -/

namespace Daliserver

open Machine

/-- A packet of the given type that answers the request with a sequence number. -/
def AnswersTo (kind : UInt8) (seqNum : Nat) (packet : Bytes) : Prop :=
  9 ≤ packet.length ∧ packet.getD 0 0 = directionUsb ∧ packet.getD 1 0 = kind ∧
    seqNum = (packet.getD 8 0).toNat

/-- A packet about a message between control devices on the bus. -/
def Overheard (packet : Bytes) : Prop :=
  9 ≤ packet.length ∧ packet.getD 0 0 = directionDali ∧
    (packet.getD 1 0 = typeComplete ∨ packet.getD 1 0 = typeBroadcast)

section Packets

variable {α : Type} {active : Option (UsbDaliTransaction α)} {packet : Bytes}

/-- An answer without a response ends the transaction successfully. -/
theorem packetReport_noResponse {transaction : UsbDaliTransaction α}
    (answers : AnswersTo typeNoResponse transaction.seqNum packet) :
    ∃ frame status, packetReport (some transaction) packet =
      .finished .success (some frame) 0xff status := by
  obtain ⟨long, direction, kind, seqNum⟩ := answers
  -- The source tests for messages on the bus first.
  have other : directionUsb ≠ directionDali := by decide
  simp only [packetReport, unpackIn_eq, Nat.not_lt.mpr long, direction, kind, seqNum, other,
    if_true, if_false]
  exact ⟨_, _, rfl⟩

/-- An answer with a response ends it with the response byte. -/
theorem packetReport_response {transaction : UsbDaliTransaction α}
    (answers : AnswersTo typeResponse transaction.seqNum packet) :
    ∃ frame status, packetReport (some transaction) packet =
      .finished .response (some frame) (packet.getD 5 0).toNat status := by
  obtain ⟨long, direction, kind, seqNum⟩ := answers
  have other : directionUsb ≠ directionDali := by decide
  have apart : typeResponse ≠ typeNoResponse := by decide
  simp only [packetReport, unpackIn_eq, Nat.not_lt.mpr long, direction, kind, seqNum, other,
    apart, if_true, if_false]
  exact ⟨_, _, rfl⟩

/-- A message on the bus is passed on with its address and command. -/
theorem packetReport_overheard (active : Option (UsbDaliTransaction α))
    (overheard : Overheard packet) :
    ∃ frame status, packetReport active packet = .broadcast .success (some frame) status ∧
      frame.address = packet.getD 4 0 ∧ frame.command = packet.getD 5 0 := by
  obtain ⟨long, direction, kind⟩ := overheard
  simp only [packetReport, unpackIn_eq, Nat.not_lt.mpr long, if_false, direction, if_true]
  rcases kind with complete | broadcast
  · simp only [complete, if_true]
    exact ⟨_, _, rfl, rfl, rfl⟩
  · have other : typeBroadcast ≠ typeComplete := by decide
    simp only [other, broadcast, if_false, if_true]
    exact ⟨_, _, rfl, rfl, rfl⟩

/-- Every other packet means nothing. -/
theorem packetReport_silent
    (noAnswer : ∀ transaction, active = some transaction →
      ¬ AnswersTo typeNoResponse transaction.seqNum packet ∧
        ¬ AnswersTo typeResponse transaction.seqNum packet)
    (unheard : ¬ Overheard packet) : packetReport active packet = .silent := by
  unfold packetReport
  rw [unpackIn_eq]
  by_cases short : packet.length < 9
  · -- Such a packet is not even unpacked.
    simp [short]
  · have long : 9 ≤ packet.length := Nat.le_of_not_lt short
    simp only [short, if_false]
    by_cases bus : packet.getD 0 0 = directionDali
    · have neither : ¬ packet.getD 1 0 = typeComplete ∧ ¬ packet.getD 1 0 = typeBroadcast := by
        refine ⟨fun complete => unheard ⟨long, bus, .inl complete⟩, fun broadcast => ?_⟩
        exact unheard ⟨long, bus, .inr broadcast⟩
      simp only [bus, neither.1, neither.2, if_true, if_false]
    · by_cases usb : packet.getD 0 0 = directionUsb
      · rw [usb] at bus
        cases active with
        -- An answer without a request is dropped.
        | none => simp only [bus, usb, if_true, if_false]
        | some transaction =>
          obtain ⟨other, another⟩ := noAnswer transaction rfl
          simp only [bus, usb, if_true, if_false]
          by_cases mine : transaction.seqNum = (packet.getD 8 0).toNat
          · have neither : ¬ packet.getD 1 0 = typeNoResponse ∧
                ¬ packet.getD 1 0 = typeResponse :=
              ⟨fun kind => other ⟨long, usb, kind, mine⟩,
                fun kind => another ⟨long, usb, kind, mine⟩⟩
            simp only [mine, neither.1, neither.2, if_true, if_false]
          · -- The answer is to another request.
            simp only [mine, if_false]
      · simp only [bus, usb, if_false]

end Packets

section Network

/-- What a reply does to the network does not depend on the device. -/
theorem connectionReply_snd (conn : ConnPtr) (buffer : Bytes) {world other : World}
    (same : world.2 = other.2) :
    (connectionReply conn buffer world).2 = (connectionReply conn buffer other).2 := by
  obtain ⟨dali, net⟩ := world
  obtain ⟨device, _⟩ := other
  obtain rfl : net = _ := same
  cases found : net.heap conn with
  | none => rw [connectionReply_dead found, connectionReply_dead found]; rfl
  | some connection =>
    by_cases empty : buffer = []
    · simp [connectionReply, found, empty, onNet]
    · rw [connectionReply_eq found empty, connectionReply_eq found empty]
      split <;> rfl

/-- What a broadcast does to the network does not depend on the device. -/
theorem broadcastFrom_snd (buffer : Bytes) (nodes : List ConnPtr) {world other : World}
    (same : world.2 = other.2) :
    (broadcastFrom buffer nodes world).2 = (broadcastFrom buffer nodes other).2 := by
  induction nodes generalizing world other with
  | nil => exact same
  | cons conn rest ih =>
    -- From either world, the walk goes on or strays depending on the same list.
    have further : ∀ first second : World, first.2 = second.2 →
        (if conn ∈ first.2.server.connections then broadcastFrom buffer rest first
          else onNet (·.record (.fault (.freedNode conn))) first).2 =
        (if conn ∈ second.2.server.connections then broadcastFrom buffer rest second
          else onNet (·.record (.fault (.freedNode conn))) second).2 := by
      intro first second alike
      rw [alike]
      split
      · exact ih alike
      · simp [onNet, alike]
    simp only [broadcastFrom, same]
    cases other.2.heap conn with
    | none => simp [onNet, same]
    | some connection =>
      by_cases waits : connection.waiting = true
      · simp only [waits, if_true]
        exact further world other same
      · simp only [waits]
        exact further _ _ (connectionReply_snd conn buffer same)

end Network

section Device

variable {α : Type} [DecidableEq α] {args : List (Option α)} {transfer : Transfer}
  {completion : Completion} {dali : UsbDali α}

/-- A completion that means nothing makes no callback and leaves the active transaction alone. -/
theorem completed_silent (silent : transferReport dali transfer completion = .silent) :
    callbacks ((completed args transfer completion dali).trace.drop dali.trace.length) = [] ∧
      ∀ transaction, dali.transaction = some transaction →
        (completed args transfer completion dali).transaction = some transaction := by
  -- What is left to do is to clear the slot and to start the next transfer.
  obtain ⟨trace, -, slot⟩ := clearSlot_rest transfer.endpoint (retire transfer dali)
  unfold completed
  rw [silent, afterReport]
  obtain ⟨⟨effects, added, quiet⟩, -⟩ := usbdaliNext_quiet completion.submit
    (clearSlot transfer.endpoint (retire transfer dali))
  refine ⟨?_, fun transaction active => usbdaliNext_active _ _ (slot.trans active)⟩
  rw [added, trace]
  exact (congrArg callbacks List.drop_left).trans quiet

/-- A broadcast keeps the active transaction, although its client may be gone by then. -/
theorem completed_broadcast {error : UsbDaliError} {frame : Option DaliFrame} {status : Nat}
    (overheard : transferReport dali transfer completion = .broadcast error frame status)
    {transaction : UsbDaliTransaction α} (active : dali.transaction = some transaction) :
    (completed args transfer completion dali).transaction = some (clearArgs args transaction) := by
  unfold completed
  rw [overheard]
  apply usbdaliNext_active
  rw [(clearSlot_rest _ _).2.2]
  simp [afterReport, cancelAll_eq, UsbDali.log, retire, active]

/-- A transaction that is finished is freed. -/
theorem completed_finished {error : UsbDaliError} {frame : Option DaliFrame}
    {response status : Nat}
    (finished : transferReport dali transfer completion = .finished error frame response status)
    {transaction : UsbDaliTransaction α} (active : dali.transaction = some transaction) :
    transaction.id ∈ (completed args transfer completion dali).freed := by
  -- Retiring the transfer leaves the transaction for its callback.
  have still : (retire transfer dali).transaction = some transaction := active
  unfold completed
  rw [finished, (usbdaliNext_quiet _ _).2, (clearSlot_rest _ _).2.1, afterReport, still]
  simp

end Device

/-- A request is settled: its client, if it is still there, gets one frame, and it is over. -/
structure Settled (frame : Bytes) (transaction : UsbDaliTransaction ConnPtr)
    (before after : World) : Prop where
  nobody : transaction.arg = none → after.2 = before.2
  sent : ∀ conn, transaction.arg = some conn →
    after.2 = (connectionReply conn frame before).2 ∧
    ∃ connection, before.2.heap conn = some connection ∧
      attempts (after.2.log.drop before.2.log.length) = [(connection.serial, frame)]
  ended : transaction.id ∈ after.1.freed ∧
    ∀ next, after.1.transaction = some next → next.id ≠ transaction.id

/-- A reply is one write. -/
theorem attempts_connectionReply {conn : ConnPtr} {connection : Connection} {world : World}
    (found : world.2.heap conn = some connection) {buffer : Bytes} (nonempty : buffer ≠ []) :
    attempts ((connectionReply conn buffer world).2.log.drop world.2.log.length) =
      [(connection.serial, buffer)] := by
  rw [connectionReply_eq found nonempty]
  split
  · simp [onNet, Net.answered, attempts]
  · simp [Net.without, Net.answered, attempts]

/-- A report of success or a response settles the active request. -/
theorem Sound.settles {world : World} (sound : Sound world) {completion : Completion}
    {transfer : Transfer}
    (held : world.1.context.inflight.find? (·.id = completion.transfer) = some transfer)
    {transaction : UsbDaliTransaction ConnPtr} (active : world.1.transaction = some transaction)
    {error : UsbDaliError} {frame : Option DaliFrame} {response status : Nat}
    (finished : transferReport world.1 transfer completion =
      .finished error frame response status) :
    Settled (replyFrame error response) transaction world
      (libusbComplete (serverHandlers serverBroadcaster) completion world) := by
  have service := sound.usb.coherent.service
  have alive := sound.usb.ledger.activeAlive
  have done := sound.usb.libusbComplete_held held (serverHandlers serverBroadcaster)
  obtain ⟨args, device⟩ :=
    sound.usb.libusbComplete_held_fst held (serverHandlers serverBroadcaster)
  have still : (onDali (retire transfer) world).1.transaction = some transaction := active
  have installed : (onDali (retire transfer) world).1.reqCallback = true := service.req
  rw [finished, carryOut_finished still alive installed] at done
  -- The handler finds the network as it was before.
  have network : ∃ noted : World, noted.2 = world.2 ∧
      (libusbComplete (serverHandlers serverBroadcaster) completion world).2 =
        (daliInbandHandler error response transaction.arg noted).2 :=
    ⟨onDali (·.log (.reqCallback transaction error (frame.getD transaction.request) response
      status)) (onDali (retire transfer) world), rfl, by rw [done]; rfl⟩
  obtain ⟨noted, same, after⟩ := network
  refine ⟨fun nobody => ?_, fun conn client => ?_, ?_, ?_⟩
  · rw [after, nobody]
    exact same
  · -- A client that is owed a reply has a connection.
    have owed : some conn ∈ owners world.1 := by simp [owners, pendingRequests, active, client]
    obtain ⟨connection, found⟩ := sound.tidy.found (sound.tidy.bound.args conn owed)
    have replied : (libusbComplete (serverHandlers serverBroadcaster) completion world).2 =
        (connectionReply conn (replyFrame error response) world).2 := by
      rw [after, client]
      exact connectionReply_snd conn _ same
    refine ⟨replied, connection, found, ?_⟩
    rw [replied]
    exact attempts_connectionReply found (replyFrame_ne_nil error response)
  · rw [device]
    exact completed_finished finished active
  · -- The next transaction is alive, and this one is freed.
    intro next there clash
    apply (sound.complete serverBroadcaster completion).usb.ledger.activeAlive next there
    rw [clash, device]
    exact completed_finished finished active

/-- A message on the bus is broadcast. -/
theorem Sound.passes_on {world : World} (sound : Sound world)
    (addressed : world.1.bcastArg = some .server) {completion : Completion} {transfer : Transfer}
    (held : world.1.context.inflight.find? (·.id = completion.transfer) = some transfer)
    {frame : DaliFrame} {status : Nat}
    (overheard : transferReport world.1 transfer completion =
      .broadcast .success (some frame) status) :
    (libusbComplete (serverHandlers serverBroadcaster) completion world).2 =
      (serverBroadcast [2, 2, frame.address, frame.command] world).2 := by
  have service := sound.usb.coherent.service
  have done := sound.usb.libusbComplete_held held (serverHandlers serverBroadcaster)
  rw [overheard] at done
  have installed : (onDali (retire transfer) world).1.bcastCallback = true := service.bcast
  have running : world.2.closed = false := sound.tidy.books.open_
  -- The handler finds the network as it was before, and its server open.
  have network : ∃ noted : World, noted.2 = world.2 ∧
      (libusbComplete (serverHandlers serverBroadcaster) completion world).2 =
        (daliOutbandHandler serverBroadcast .success (some frame) world.1.bcastArg noted).2 := by
    simp only [Report.carryOut, callBcast, installed, if_true] at done
    exact ⟨onDali (fun dali => dali.log (.bcastCallback .success (some frame) status
      dali.bcastArg)) (onDali (retire transfer) world), rfl, by rw [done]; rfl⟩
  obtain ⟨noted, same, after⟩ := network
  have handled : daliOutbandHandler serverBroadcast .success (some frame) (some .server) noted =
      broadcastFrom [2, 2, frame.address, frame.command] world.2.server.connections noted := by
    simp only [daliOutbandHandler, same, running, Bool.false_eq_true, if_true, if_false]
    rw [serverBroadcast, if_neg (List.cons_ne_nil _ _), same]
    rfl
  rw [after, addressed, handled]
  exact broadcastFrom_snd _ _ same

/--
What a packet of the adapter makes the network send, in every state of the program.

A packet of any length is taken; of those that are longer than nine bytes the rest is not read.
-/
theorem packet_to_frames (config : Config) (events : List SystemEvent) (completion : Completion)
    (transfer : Transfer) :
    let world := run (systemStep serverBroadcaster) (mainStart config) events
    let after := libusbComplete (serverHandlers serverBroadcaster) completion world
    let packet := completion.received
    world.1.context.inflight.find? (·.id = completion.transfer) = some transfer →
    transfer.endpoint = .input → completion.status = .completed →
    (∀ transaction, world.1.transaction = some transaction →
      (AnswersTo typeNoResponse transaction.seqNum packet →
        Settled [2, 0, 0, 0] transaction world after) ∧
      (AnswersTo typeResponse transaction.seqNum packet →
        Settled [2, 1, packet.getD 5 0, 0] transaction world after)) ∧
    (Overheard packet →
      after.2 = (serverBroadcast [2, 2, packet.getD 4 0, packet.getD 5 0] world).2 ∧
      ∀ transaction, world.1.transaction = some transaction →
        ∃ still, after.1.transaction = some still ∧ still.id = transaction.id ∧
          still.seqNum = transaction.seqNum ∧ still.request = transaction.request) ∧
    ((∀ transaction, world.1.transaction = some transaction →
        ¬ AnswersTo typeNoResponse transaction.seqNum packet ∧
          ¬ AnswersTo typeResponse transaction.seqNum packet) →
      ¬ Overheard packet →
      after.2 = world.2 ∧ callbacks (after.1.trace.drop world.1.trace.length) = [] ∧
      ∀ transaction, world.1.transaction = some transaction →
        after.1.transaction = some transaction) := by
  intro world after packet held input status
  have sound : Sound world := sound_run serverBroadcaster config events
  obtain ⟨args, device⟩ :=
    sound.usb.libusbComplete_held_fst held (serverHandlers serverBroadcaster)
  -- For a completed input transfer, the packet alone decides what is reported.
  have report : transferReport world.1 transfer completion =
      packetReport world.1.transaction packet := by
    simp only [transferReport, input, receiveReport, status, packet]
  -- The server is told to the driver along with the callback for broadcasts.
  have addressed : world.1.bcastArg = some .server := by
    obtain ⟨session, same⟩ := session_run serverBroadcaster config events
    have closable := closable_run config.submit session
    rw [← same] at closable
    exact closable.addressed sound.usb.coherent.service.bcast
  refine ⟨fun transaction active => ⟨fun answers => ?_, fun answers => ?_⟩, fun overheard => ?_,
    fun noAnswer unheard => ?_⟩
  · rw [active] at report
    obtain ⟨frame, status, finished⟩ := packetReport_noResponse answers
    exact sound.settles held active (report.trans finished)
  · rw [active] at report
    obtain ⟨frame, status, finished⟩ := packetReport_response answers
    have settled := sound.settles held active (report.trans finished)
    simpa [replyFrame, defaultNetProtocol, netStatusResponse] using settled
  · obtain ⟨frame, status, heard, address, command⟩ :=
      packetReport_overheard world.1.transaction overheard
    rw [← address, ← command]
    -- A client that is lost in the broadcast has its requests detached, and no more than that.
    refine ⟨sound.passes_on addressed held (report.trans heard), fun transaction active => ?_⟩
    refine ⟨clearArgs args transaction, ?_, clearArgs_id .., clearArgs_seqNum ..,
      clearArgs_request ..⟩
    rw [device]
    exact completed_broadcast (report.trans heard) active
  · have silent := report.trans (packetReport_silent noAnswer unheard)
    have done := sound.usb.libusbComplete_held held (serverHandlers serverBroadcaster)
    rw [silent] at done
    have unchanged : after.2 = world.2 := by
      simp only [after, done]
      rfl
    simp only [after, device]
    exact ⟨unchanged, completed_silent silent⟩

/-- The client has asked, and the adapter is about to answer. -/
def clientWaits : List SystemEvent :=
  let completes transfer status : SystemEvent :=
    .row 0 { calmInput with completion := some ⟨transfer, status, [], 0⟩ }
  clientConnects ++ [.row 3 clientAsks, completes 0 .cancelled, completes 1 .completed]

/-- The answer of the adapter to the request of a client. -/
theorem packet_to_frames_answer :
    let world := run (systemStep serverBroadcaster) (mainStart plainConfig) clientWaits
    ∃ transaction, world.1.transaction = some transaction ∧ transaction.arg = some 0 ∧
      Settled [2, 1, 7, 0] transaction world (libusbComplete (serverHandlers serverBroadcaster)
        ⟨2, .completed, [0x12, 0x72, 0, 0, 1, 7, 0, 0, 1], 0⟩ world) := by
  have active : (run (systemStep serverBroadcaster) (mainStart plainConfig)
      clientWaits).1.transaction = some ⟨0, 1, ⟨0, 1, 2⟩, some 0⟩ := by decide +kernel
  have delivered := packet_to_frames plainConfig clientWaits
    ⟨2, .completed, [0x12, 0x72, 0, 0, 1, 7, 0, 0, 1], 0⟩ ⟨2, .input, List.replicate 64 0, false⟩
    (by decide +kernel) rfl rfl
  refine ⟨⟨0, 1, ⟨0, 1, 2⟩, some 0⟩, active, rfl, (delivered.1 _ active).2 ?_⟩
  simp [AnswersTo, directionUsb, typeResponse]

end Daliserver

import Daliserver.Machine.Writes
import Daliserver.Net.Service

/-! What a client can read: whole frames, until the first one that was not taken as a whole. -/

namespace Daliserver

open Machine

/-- The frames that the server has for its clients. -/
inductive ClientMessage : Bytes → Prop where
  | reply (error : UsbDaliError) (response : Nat) : ClientMessage (replyFrame error response)
  | broadcast (address command : UInt8) : ClientMessage (broadcastFrame address command)

/-- All of them have the size of a frame. -/
theorem ClientMessage.length {frame : Bytes} (message : ClientMessage frame) :
    frame.length = defaultNetFramesize := by
  -- Three replies and the broadcast, all of four bytes.
  cases message with
  | reply error response =>
    unfold replyFrame
    split
    · rfl
    · split <;> rfl
  | broadcast address command => rfl

theorem ClientMessage.ne_nil {frame : Bytes} (message : ClientMessage frame) : frame ≠ [] := by
  rintro rfl
  exact absurd message.length (by decide)

/-- A write to a connection, of which nothing is taken if it fails. -/
@[simp] def NetEffect.writeTo (serial : Nat) : NetEffect → Option (Write UInt8)
  | .sent target frame result => if target = serial then some ⟨frame, result.getD 0⟩ else none
  | _ => none

/-- The writes to a connection, oldest first. -/
def writesTo (serial : Nat) (log : List NetEffect) : List (Write UInt8) :=
  log.filterMap (·.writeTo serial)

@[simp] theorem writesTo_concat (serial : Nat) (log : List NetEffect) (effect : NetEffect) :
    writesTo serial (log ++ [effect]) = writesTo serial log ++ (effect.writeTo serial).toList :=
  filterMap_concat _ _ _

/-- A frame that was written as a whole was taken as a whole. -/
theorem writeSucceeds_iff {framesize : Nat} (positive : 0 < framesize) (result : Option Nat) :
    writeSucceeds framesize result = true ↔ framesize ≤ result.getD 0 := by
  -- A failed write has taken nothing, which is less than a frame.
  cases result with
  | none => simp [writeSucceeds, Nat.not_le.mpr positive]
  | some wrbytes => simp [writeSucceeds]

/--
The streams to all clients.

Nothing follows a frame that was cut short, since the connection is removed then.
-/
structure Streams (net : Net) : Prop where
  framesize : net.server.framesize = defaultNetFramesize
  numbered : ∀ conn serial, clientAt net conn = some serial → serial < net.serials
  distinct : ∀ conn other serial, clientAt net conn = some serial →
    clientAt net other = some serial → conn = other
  unwritten : ∀ serial, net.serials ≤ serial → writesTo serial net.log = []
  messages : ∀ serial, ∀ write ∈ writesTo serial net.log, ClientMessage write.contents
  whole : ∀ conn serial, clientAt net conn = some serial →
    ∀ write ∈ writesTo serial net.log, write.Whole
  unbroken : ∀ serial, Unbroken (writesTo serial net.log)

namespace Streams

variable {before after net : Net}

/-- Clients may leave as long as nothing is written. -/
theorem quiet (streams : Streams before)
    (clients : ∀ conn serial, clientAt after conn = some serial →
      clientAt before conn = some serial)
    (framesize : after.server.framesize = before.server.framesize)
    (serials : after.serials = before.serials)
    (writes : ∀ serial, writesTo serial after.log = writesTo serial before.log) :
    Streams after := by
  -- Each part is about the clients that are left, and about streams that are as before.
  refine ⟨framesize.trans streams.framesize, ?_, ?_, ?_, ?_, ?_, ?_⟩
  · intro conn serial there
    rw [serials]
    exact streams.numbered conn serial (clients conn serial there)
  · exact fun conn other serial first second =>
      streams.distinct conn other serial (clients _ _ first) (clients _ _ second)
  · intro serial large
    rw [writes]
    exact streams.unwritten serial (serials ▸ large)
  · intro serial
    rw [writes]
    exact streams.messages serial
  · intro conn serial there
    rw [writes]
    exact streams.whole conn serial (clients conn serial there)
  · intro serial
    rw [writes]
    exact streams.unbroken serial

/-- Nothing but the connections, their number, the frame size and the log matters. -/
theorem congr (streams : Streams before) (heap : after.heap = before.heap)
    (framesize : after.server.framesize = before.server.framesize)
    (serials : after.serials = before.serials) (log : after.log = before.log) : Streams after := by
  refine streams.quiet (fun conn serial there => ?_) framesize serials fun serial => by rw [log]
  rwa [clientAt, heap] at there

theorem record (streams : Streams net) (fault : NetFault) : Streams (net.record (.fault fault)) :=
  streams.quiet (fun _ _ there => there) rfl rfl fun serial => by simp [Net.record]

theorem heard (streams : Streams net) {conn : ConnPtr} {connection : Connection}
    (found : net.heap conn = some connection) (buffer : Bytes) :
    Streams (net.heard conn connection buffer) := by
  refine streams.quiet (fun other serial there => ?_) rfl rfl fun serial => by simp [Net.heard]
  rwa [clientAt_flag (flagged_heard found buffer)] at there

theorem without (streams : Streams net) (conn : ConnPtr) (connection : Connection) :
    Streams (net.without conn connection) := by
  -- The stream ends where it is.
  refine streams.quiet (fun other serial there => ?_) rfl rfl fun serial => by simp [Net.without]
  rw [clientAt_without] at there
  split at there
  · cases there
  · exact there

/-- A frame is written to a client, which stays only if it has taken all of it. -/
theorem write (streams : Streams before) {conn : ConnPtr} {connection : Connection}
    (found : before.heap conn = some connection) {buffer : Bytes} (message : ClientMessage buffer)
    (result : Option Nat)
    (clients : ∀ other serial, clientAt after other = some serial →
      clientAt before other = some serial ∧
        (other = conn → writeSucceeds before.server.framesize result = true))
    (framesize : after.server.framesize = before.server.framesize)
    (serials : after.serials = before.serials)
    (writes : ∀ serial, writesTo serial after.log = writesTo serial before.log ++
      if connection.serial = serial then [⟨buffer, result.getD 0⟩] else []) :
    Streams after := by
  have here : clientAt before conn = some connection.serial := by simp [clientAt, found]
  -- Either it is another client's stream, or this one gets the frame.
  have grown : ∀ serial, writesTo serial after.log = writesTo serial before.log ∨
      connection.serial = serial ∧
        writesTo serial after.log = writesTo serial before.log ++ [⟨buffer, result.getD 0⟩] := by
    intro serial
    rw [writes]
    split
    · exact .inr ⟨‹_›, rfl⟩
    · exact .inl (List.append_nil _)
  refine ⟨framesize.trans streams.framesize, ?_, ?_, ?_, ?_, ?_, ?_⟩
  · intro other serial there
    rw [serials]
    exact streams.numbered other serial (clients other serial there).1
  · exact fun one two serial first second =>
      streams.distinct one two serial (clients _ _ first).1 (clients _ _ second).1
  · intro serial large
    rw [serials] at large
    rcases grown serial with same | ⟨rfl, -⟩
    · rw [same, streams.unwritten serial large]
    · exact absurd (streams.numbered conn _ here) (Nat.not_lt.mpr large)
  · intro serial written member
    rcases grown serial with same | ⟨-, more⟩
    · exact streams.messages serial written (same ▸ member)
    · rw [more, List.mem_append, List.mem_singleton] at member
      rcases member with old | rfl
      · exact streams.messages serial written old
      · exact message
  · intro other serial there written member
    obtain ⟨present, taken⟩ := clients other serial there
    rcases grown serial with same | ⟨rfl, more⟩
    · exact streams.whole other serial present written (same ▸ member)
    · rw [more, List.mem_append, List.mem_singleton] at member
      rcases member with old | rfl
      · exact streams.whole other _ present written old
      · -- The client is still there, so all of the frame was taken.
        have success := taken (streams.distinct other conn _ present here)
        rw [streams.framesize, writeSucceeds_iff (by decide)] at success
        rw [Write.Whole, message.length]
        exact success
  · intro serial
    rcases grown serial with same | ⟨rfl, more⟩
    · rw [same]
      exact streams.unbroken serial
    · rw [more]
      exact unbroken_concat (streams.whole conn _ here) _

/-- A reply keeps the streams in order, whether it is taken or not. -/
theorem reply (conn : ConnPtr) {buffer : Bytes} (message : ClientMessage buffer) (world : World)
    (streams : Streams world.2) : Streams (connectionReply conn buffer world).2 := by
  cases found : world.2.heap conn with
  | none =>
    rw [connectionReply_dead found]
    exact streams.record _
  | some connection =>
    rw [connectionReply_eq found message.ne_nil]
    have same := clientAt_flag (flagged_answered found buffer)
    split
    · rename_i taken
      refine streams.write found message (world.2.writes world.2.written) ?_ rfl rfl ?_
      · exact fun other serial there => ⟨same ▸ there, fun _ => taken⟩
      · intro serial
        simp only [onNet, Net.answered, writesTo_concat, NetEffect.writeTo]
        split <;> rfl
    · refine streams.write found message (world.2.writes world.2.written) ?_ rfl rfl ?_
      · -- The client that has not taken it is gone.
        intro other serial there
        rw [clientAt_without] at there
        split at there
        · cases there
        · exact ⟨same ▸ there, fun here => absurd here ‹_›⟩
      · intro serial
        simp only [Net.without, Net.answered, writesTo_concat, NetEffect.writeTo]
        split <;> simp

theorem walk {buffer : Bytes} (message : ClientMessage buffer) (visits : List Visit) (world : World)
    (streams : Streams world.2) : Streams (visits.foldl (visit buffer) world).2 := by
  -- By induction on the visits: a stray one writes nothing.
  induction visits generalizing world with
  | nil => exact streams
  | cons first rest ih =>
    refine ih _ ?_
    cases first with
    | reply conn => exact reply conn message world streams
    | stray conn => exact streams.record _

/-- Both callbacks of the device send messages only. -/
theorem handlers (broadcaster : Broadcaster) :
    (serverHandlers broadcaster).Respect fun before after => Streams before → Streams after := by
  -- An outcome leads to one reply, and a message from the bus to a walk.
  refine ⟨fun _ streams => streams, ?_, ?_⟩
  · intro error frame response status arg world streams
    show Streams (daliInbandHandler error response arg world).2
    cases arg with
    | none => exact streams
    | some conn => exact reply conn (.reply error response) world streams
  · intro error frame status arg world streams
    show Streams (daliOutbandHandler broadcaster.send error frame arg world).2
    unfold daliOutbandHandler
    split
    · split
      · rename_i frame
        split
        · exact streams.record _
        · obtain ⟨visits, sent, -⟩ := broadcaster.visits
            (broadcastFrame frame.address frame.command) world
          rw [broadcastFrame] at sent
          rw [sent]
          exact walk (.broadcast frame.address frame.command) visits world streams
      · exact streams
    · exact streams

theorem frame (memory : Bool) (submit : Int) (arg : Option UsbPtr) (buffer : Bytes)
    (conn : ConnPtr) (world : World) (streams : Streams world.2) :
    Streams (netFrameHandler memory submit arg buffer conn world).2 := by
  rw [netFrameHandler_eq]
  split
  · cases arg with
    -- The reply that is made up in a dry run is that of an adapter that answers zero.
    | none => exact reply conn (.reply .response 0) world streams
    | some device =>
      cases device
      exact streams
  · exact streams

theorem removed (conn : ConnPtr) (world : World) (streams : Streams world.2) :
    Streams (serverConnectionRemove conn world).2 := by
  -- An address without a connection leads to a fault, which no client can see.
  cases found : world.2.heap conn with
  | some connection =>
    rw [serverConnectionRemove_eq found]
    exact streams.without conn connection
  | none =>
    have missing : (onNet (·.withConnections (·.erase conn)) world).2.heap conn = none := found
    unfold serverConnectionRemove connectionFree
    rw [missing]
    have erased : Streams (world.2.withConnections (·.erase conn)) := streams.congr rfl rfl rfl rfl
    exact erased.record _

theorem read (input : Input) (conn : ConnPtr) (world : World) (streams : Streams world.2) :
    Streams (connectionReady input conn world).2 := by
  -- Reading writes nothing; what the handler writes is a reply.
  cases found : world.2.heap conn with
  | none =>
    unfold connectionReady
    rw [found]
    exact streams.record _
  | some connection =>
    rw [connectionReady_eq found]
    cases input.buffer with
    | none => exact removed conn world streams
    | some buffer =>
      dsimp only
      split
      · exact removed conn world streams
      · exact frame _ _ _ _ conn _ (streams.heard found buffer)

theorem usbReady (broadcaster : Broadcaster) (input : Input) (world : World)
    (streams : Streams world.2) : Streams (usbdaliDispatchReady broadcaster input world).2 := by
  -- A notice is about descriptors only.
  have noticed : ∀ net : Net, Streams net → Streams (notify input.notice net) := by
    intro net streams
    rcases input.notice with _ | ⟨fd, events⟩ | fd
    · exact streams
    · exact streams.congr rfl rfl rfl rfl
    · exact streams.congr rfl rfl rfl rfl
  unfold usbdaliDispatchReady
  apply noticed
  cases input.completion with
  | none => exact streams
  | some completion => exact (handlers broadcaster).complete completion world streams

/-- A new client has an empty stream. -/
theorem «open» (streams : Streams net) (pointer : ConnPtr) (socket : Int) :
    Streams ((connectionNew pointer socket net).withConnections (· ++ [pointer])) := by
  -- A client is the new one or one that was there before.
  have before : ∀ other serial,
      clientAt ((connectionNew pointer socket net).withConnections (· ++ [pointer])) other =
        some serial →
      (other = pointer ∧ serial = net.serials) ∨ clientAt net other = some serial := by
    intro other serial there
    by_cases same : other = pointer
    · left
      simp only [clientAt, Net.withConnections, connectionNew, same, Function.update_self,
        Option.map_some, Option.some.injEq] at there
      exact ⟨same, there.symm⟩
    · right
      simpa only [clientAt, Net.withConnections, connectionNew, Function.update_of_ne same]
        using there
  have serials : ((connectionNew pointer socket net).withConnections (· ++ [pointer])).serials =
      net.serials + 1 := rfl
  have writes : ∀ serial, writesTo serial
      ((connectionNew pointer socket net).withConnections (· ++ [pointer])).log =
        writesTo serial net.log := by
    intro serial
    simp [Net.withConnections, connectionNew]
  refine ⟨streams.framesize, ?_, ?_, ?_, ?_, ?_, ?_⟩
  · intro other serial there
    rw [serials]
    rcases before other serial there with ⟨-, rfl⟩ | old
    · exact Nat.lt_succ_self _
    · exact Nat.lt_succ_of_lt (streams.numbered other serial old)
  · intro one two serial first second
    rcases before one serial first with ⟨rfl, rfl⟩ | old
    · rcases before two _ second with ⟨rfl, -⟩ | old'
      · rfl
      · exact absurd (streams.numbered two _ old') (Nat.lt_irrefl _)
    · rcases before two serial second with ⟨-, rfl⟩ | old'
      · exact absurd (streams.numbered one _ old) (Nat.lt_irrefl _)
      · exact streams.distinct one two serial old old'
  · intro serial large
    rw [writes]
    exact streams.unwritten serial (Nat.le_of_succ_le large)
  · intro serial
    rw [writes]
    exact streams.messages serial
  · intro other serial there
    rw [writes]
    rcases before other serial there with ⟨-, rfl⟩ | old
    · rw [streams.unwritten net.serials (Nat.le_refl _)]
      exact fun write member => absurd member List.not_mem_nil
    · exact streams.whole other serial old
  · intro serial
    rw [writes]
    exact streams.unbroken serial

/-- One event leaves the streams in order. -/
theorem step (broadcaster : Broadcaster) (world : World) (event : SystemEvent)
    (sound : Sound world) (streams : Streams world.2) :
    Streams (systemStep broadcaster world event).2 := by
  -- One case for each callback that can be due.
  cases event with
  | polled revents => exact streams.congr rfl rfl rfl rfl
  | row index input =>
    rw [systemStep_row]
    split
    · cases row : rowCall world.2 index with
      | none => exact streams
      | some call =>
        have called : Streams (calling call world).2 := streams.congr rfl rfl rfl rfl
        cases sound.tidy.registered.due row with
        | listenerReady registration =>
          simp only [callServer, serverListenerReady, onNet]
          cases input.socket with
          | none => exact called
          | some socket =>
            dsimp only
            split
            · exact called.open input.pointer socket
            · exact called
        | ready registration conn member => exact read input conn _ called
        | error registration conn error member =>
          cases error <;> exact removed conn _ called
        | usbReady registration => exact usbReady broadcaster input _ called
        | listenerError registration error => exact called
        | usbError registration error => exact called
        | ipc registration => exact called
    · exact streams

end Streams

/-- In every run, the streams to all clients are in order. -/
theorem streams_run (broadcaster : Broadcaster) (config : Config) (events : List SystemEvent) :
    Streams (run (systemStep broadcaster) (mainStart config) events).2 := by
  -- Soundness is carried along, since it tells which callbacks can be due.
  have step : ∀ (world : World) (event : SystemEvent), Sound world ∧ Streams world.2 →
      Sound (systemStep broadcaster world event) ∧
        Streams (systemStep broadcaster world event).2 :=
    fun world event good =>
      ⟨good.1.step broadcaster event, Streams.step broadcaster world event good.1 good.2⟩
  have start : Streams (mainStart config).2 := by
    refine ⟨rfl, ?_, ?_, fun _ _ => rfl, ?_, ?_, ?_⟩
    · exact fun conn serial there => nomatch there
    · exact fun conn other serial there => nomatch there
    · exact fun serial write member => nomatch member
    · exact fun conn serial there => nomatch there
    · exact fun serial write member => nomatch member
  exact (run_invariant step ⟨sound_start config, start⟩ events).2

end Daliserver

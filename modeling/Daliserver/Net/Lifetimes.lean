import Daliserver.Net.Teardown

/-! Every connection that was ever opened is released, and only once. -/

namespace Daliserver

open Machine

/-- A connection that is still there or was released. -/
def Known (net : Net) (serial : Nat) : Prop :=
  (∃ conn connection, net.heap conn = some connection ∧ connection.serial = serial) ∨
    .released serial ∈ net.log

/-- No connection got lost. -/
def Complete (net : Net) : Prop := ∀ serial < net.serials, Known net serial

/-- A change that opens no connection and loses none. -/
structure Carried (before after : Net) : Prop where
  serials : after.serials = before.serials
  known : ∀ serial, Known before serial → Known after serial

namespace Carried

variable {first second third before after : Net}

theorem refl (net : Net) : Carried net net := ⟨rfl, fun _ known => known⟩

theorem trans (one : Carried first second) (two : Carried second third) : Carried first third :=
  ⟨two.serials.trans one.serials, fun serial known => two.known serial (one.known serial known)⟩

/-- Only the heap and the log tell which connections are known. -/
theorem congr (heap : after.heap = before.heap) (serials : after.serials = before.serials)
    (log : before.log <+: after.log) : Carried before after := by
  -- What is on the log stays there, and the heap is the same.
  refine ⟨serials, fun serial known => ?_⟩
  rcases known with there | released
  · rw [← heap] at there
    exact .inl there
  · exact .inr (log.subset released)

/-- A connection may change as long as it keeps its number. -/
theorem rewritten {conn : ConnPtr} {connection value : Connection}
    (found : before.heap conn = some connection) (same : value.serial = connection.serial)
    (heap : after.heap = Function.update before.heap conn (some value))
    (serials : after.serials = before.serials) (log : before.log <+: after.log) :
    Carried before after := by
  -- The connection is found at its old address, under its old number.
  refine ⟨serials, fun serial known => ?_⟩
  rcases known with ⟨other, old, there, number⟩ | released
  · left
    by_cases here : other = conn
    · rw [here, found] at there
      obtain rfl := Option.some.inj there
      exact ⟨conn, value, by rw [heap, Function.update_self], same.trans number⟩
    · exact ⟨other, old, by rw [heap, Function.update_of_ne here, there], number⟩
  · exact .inr (log.subset released)

theorem flag {conn : ConnPtr} {connection : Connection}
    (flagged : Flagged conn connection before after) : Carried before after := by
  obtain ⟨waiting, heap⟩ := flagged.heap
  obtain ⟨effect, log, -⟩ := flagged.log
  refine rewritten flagged.found ?_ heap flagged.serials (log ▸ List.prefix_append _ _)
  rfl

/-- A connection that is removed is released. -/
theorem without {net : Net} {conn : ConnPtr} {connection value : Connection}
    (found : net.heap conn = some value) (same : value.serial = connection.serial) :
    Carried net (net.without conn connection) := by
  -- It moves from the heap to the log.
  refine ⟨rfl, fun serial known => ?_⟩
  rcases known with ⟨other, old, there, number⟩ | released
  · by_cases here : other = conn
    · rw [here, found] at there
      obtain rfl := Option.some.inj there
      right
      rw [← number, same]
      exact List.mem_append_right _ (List.mem_singleton_self _)
    · exact .inl ⟨other, old, (Function.update_of_ne here ..).trans there, number⟩
  · exact .inr (List.mem_append_left _ released)

theorem removed (conn : ConnPtr) (world : World) :
    Carried world.2 (serverConnectionRemove conn world).2 := by
  cases found : world.2.heap conn with
  | some connection =>
    rw [serverConnectionRemove_eq found]
    exact without found rfl
  | none =>
    -- Nothing is there to be freed, which is recorded as a fault.
    have missing : (onNet (·.withConnections (·.erase conn)) world).2.heap conn = none := found
    unfold serverConnectionRemove connectionFree
    rw [missing]
    exact congr rfl rfl (List.prefix_append _ _)

theorem reply (conn : ConnPtr) (buffer : Bytes) (world : World) :
    Carried world.2 (connectionReply conn buffer world).2 := by
  cases found : world.2.heap conn with
  | none =>
    rw [connectionReply_dead found]
    exact congr rfl rfl (List.prefix_append _ _)
  | some connection =>
    by_cases empty : buffer = []
    · -- Nothing is written, and only the flag goes down.
      have reply : (connectionReply conn buffer world).2 =
          { world.2 with
            heap := Function.update world.2.heap conn
              (some { connection with waiting := false }) } := by
        unfold connectionReply
        rw [found, empty]
        rfl
      rw [reply]
      refine rewritten found ?_ rfl rfl (List.prefix_refl _)
      rfl
    · rw [connectionReply_eq found empty]
      have answered := flag (flagged_answered found buffer)
      split
      · exact answered
      · exact answered.trans (without (Function.update_self ..) rfl)

/-- Neither callback of the device loses a connection. -/
theorem handlers (broadcaster : Broadcaster) : (serverHandlers broadcaster).Respect Carried := by
  -- Both of them end in replies, and a reply removes a connection at most.
  have keep : RepliesKeep fun before after => Carried before.2 after.2 :=
    ⟨fun world => refl world.2, trans, reply,
      fun _ _ => congr rfl rfl (List.prefix_append _ _)⟩
  refine ⟨refl, ?_, ?_⟩
  · intro error frame response status arg world
    exact keep.inband error response arg world
  · intro error frame status arg world
    exact keep.outband broadcaster error frame arg world

theorem frame (memory : Bool) (submit : Int) (arg : Option UsbPtr) (buffer : Bytes)
    (conn : ConnPtr) (world : World) :
    Carried world.2 (netFrameHandler memory submit arg buffer conn world).2 := by
  -- With a device the request goes to the queue, and the server is left alone.
  rw [netFrameHandler_eq]
  split
  · cases arg with
    | none => exact reply conn _ world
    | some device =>
      cases device
      exact refl _
  · exact refl _

theorem read (input : Input) (conn : ConnPtr) (world : World) :
    Carried world.2 (connectionReady input conn world).2 := by
  -- The read fails, or the frame is heard and then handled.
  cases found : world.2.heap conn with
  | none =>
    unfold connectionReady
    rw [found]
    exact congr rfl rfl (List.prefix_append _ _)
  | some connection =>
    rw [connectionReady_eq found]
    cases input.buffer with
    | none => exact removed conn world
    | some buffer =>
      dsimp only
      split
      · exact removed conn world
      · have heard := flag (flagged_heard found buffer)
        exact heard.trans (frame _ _ _ _ conn (onNet (·.heard conn connection buffer) world))

theorem notify (notice : Option PollNotice) (net : Net) :
    Carried net (Daliserver.notify notice net) := by
  rcases notice with _ | ⟨fd, events⟩ | fd
  · exact refl _
  · exact congr rfl rfl (List.prefix_refl _)
  · exact congr rfl rfl (List.prefix_refl _)

theorem usbReady (broadcaster : Broadcaster) (input : Input) (world : World) :
    Carried world.2 (usbdaliDispatchReady broadcaster input world).2 := by
  unfold usbdaliDispatchReady
  cases input.completion with
  | none => exact notify _ _
  | some completion =>
    exact ((handlers broadcaster).complete completion world).trans (notify _ _)

end Carried

/-- What loses nothing leaves the list complete. -/
theorem Complete.carry {before after : Net} (complete : Complete before)
    (carried : Carried before after) : Complete after :=
  fun serial small => carried.known serial (complete serial (carried.serials ▸ small))

/-- A new connection is known under the next number. -/
theorem Complete.open {net : Net} (complete : Complete net) {pointer : ConnPtr}
    (free : net.heap pointer = none) (socket : Int) :
    Complete ((connectionNew pointer socket net).withConnections (· ++ [pointer])) := by
  -- The last number is that of the new connection, and nobody had its address.
  intro serial small
  rcases Nat.lt_succ_iff_lt_or_eq.mp small with old | new
  · rcases complete serial old with ⟨other, value, there, number⟩ | released
    · refine .inl ⟨other, value, ?_, number⟩
      have apart : other ≠ pointer := by
        rintro rfl
        rw [free] at there
        cases there
      exact (Function.update_of_ne apart ..).trans there
    · exact .inr (List.mem_append_left _ released)
  · exact .inl ⟨pointer, _, Function.update_self .., new.symm⟩

/-- One event loses no connection. -/
theorem Complete.step {world : World} (complete : Complete world.2) (sound : Sound world)
    (broadcaster : Broadcaster) (event : SystemEvent) :
    Complete (systemStep broadcaster world event).2 := by
  -- Only an accepted connection takes a number; nothing else loses one.
  cases event with
  | polled revents => exact complete.carry (.congr rfl rfl (List.prefix_refl _))
  | row index input =>
    rw [systemStep_row]
    by_cases possible : input.possible world.2 = true
    · rw [if_pos possible]
      cases row : rowCall world.2 index with
      | none => exact complete
      | some call =>
        have called : Complete (calling call world).2 :=
          complete.carry (.congr rfl rfl (List.prefix_refl _))
        cases sound.tidy.registered.due row with
        | listenerReady registration =>
          obtain ⟨accepts, _, _⟩ := Input.possible_spec possible
          simp only [callServer, serverListenerReady, onNet]
          cases accepted : input.socket with
          | none => exact called
          | some socket =>
            dsimp only
            split
            · exact called.open (accepts socket accepted).2.2 socket
            · exact called
        | ready registration conn member => exact called.carry (.read input conn _)
        | error registration conn error member =>
          cases error <;> exact called.carry (.removed conn _)
        | usbReady registration => exact called.carry (.usbReady broadcaster input _)
        | listenerError registration error => exact called
        | usbError registration error => exact called
        | ipc registration => exact called
    · rw [if_neg possible]
      exact complete

/-- No run loses a connection. -/
theorem complete_run (broadcaster : Broadcaster) (config : Config) (events : List SystemEvent) :
    Complete (run (systemStep broadcaster) (mainStart config) events).2 := by
  -- Soundness is carried along, since it tells which callbacks can be due.
  have step : ∀ (world : World) (event : SystemEvent), Sound world ∧ Complete world.2 →
      Sound (systemStep broadcaster world event) ∧
        Complete (systemStep broadcaster world event).2 :=
    fun world event good =>
      ⟨good.1.step broadcaster event, good.2.step good.1 broadcaster event⟩
  have start : Complete (mainStart config).2 := fun serial small => absurd small (Nat.not_lt_zero _)
  exact (run_invariant step ⟨sound_start config, start⟩ events).2

/-- Removing connections that are there leaves the books in order and the others alone. -/
theorem removeAll_spec (conns : List ConnPtr) (world : World) (books : Books world.2)
    (distinct : conns.Nodup) (alive : ∀ conn ∈ conns, world.2.heap conn ≠ none) :
    let after := conns.foldl (fun world conn => serverConnectionRemove conn world) world
    Books after.2 ∧ Carried world.2 after.2 ∧
      ∀ conn connection, after.2.heap conn = some connection →
        world.2.heap conn = some connection ∧ conn ∉ conns := by
  -- By induction on the list: the first one is released, and the rest follows.
  intro after
  induction conns generalizing world with
  | nil => exact ⟨books, .refl _, fun conn connection there => ⟨there, List.not_mem_nil⟩⟩
  | cons first rest ih =>
    obtain ⟨connection, found⟩ := Option.ne_none_iff_exists'.mp (alive first (by simp))
    obtain ⟨fresh, distinct⟩ := List.nodup_cons.mp distinct
    have removed : (serverConnectionRemove first world).2 = world.2.without first connection := by
      rw [serverConnectionRemove_eq found]
    have heap : ∀ conn ≠ first, (serverConnectionRemove first world).2.heap conn =
        world.2.heap conn := by
      intro conn apart
      rw [removed]
      exact Function.update_of_ne apart ..
    have gone : (serverConnectionRemove first world).2.heap first = none := by
      rw [removed]
      exact Function.update_self ..
    obtain ⟨kept, carried, others⟩ := ih (serverConnectionRemove first world)
      (by rw [removed]; exact books.without found) distinct
      (fun conn member => by
        rw [heap conn (fun same => fresh (same ▸ member))]
        exact alive conn (List.mem_cons_of_mem _ member))
    refine ⟨kept, (Carried.removed first world).trans carried, fun conn value there => ?_⟩
    obtain ⟨before, absent⟩ := others conn value there
    have apart : conn ≠ first := by
      rintro rfl
      rw [gone] at before
      cases before
    exact ⟨(heap conn apart).symm.trans before, by simp [apart, absent]⟩

/--
Every connection is released exactly once.

In whatever way clients come and go and writes fail, when the server is closed at the end no
connection is left, and those that were released are all that were ever opened, without repetition.
A connection is opened for each socket that was accepted from an internet address, as long as there
is memory for it.
-/
theorem connections_released_once (broadcaster : Broadcaster) (config : Config)
    (events : List SystemEvent) :
    let net := (atClose broadcaster config (.loopEnded events)).2
    (∀ conn, net.heap conn = none) ∧ (releasedSerials net.log).Perm (List.range net.serials) ∧
      ∀ serial, .opened serial ∈ net.log → (releasedSerials net.log).count serial = 1 := by
  intro net
  have sound := sound_run broadcaster config events
  have complete := complete_run broadcaster config events
  generalize ended : run (systemStep broadcaster) (mainStart config) events = world
    at sound complete
  -- The entries of the notifier and of the listener are taken off the table first.
  let bare : World := onNet (fun net =>
    { net with dispatch := dispatchRemoveFd net.server.listener net.dispatch })
    (onNet ipcFree world)
  have books : Books bare.2 := sound.tidy.books.congr rfl rfl rfl rfl rfl
  have bareComplete : Complete bare.2 := complete.carry (.congr rfl rfl (List.prefix_refl _))
  have linked := sound.tidy.registered.linked
  obtain ⟨kept, carried, others⟩ := removeAll_spec world.2.server.connections bare books
    linked.distinct linked.alive
  have same : net = { (world.2.server.connections.foldl
      (fun world conn => serverConnectionRemove conn world) bare).2 with closed := true } := by
    simp only [net, atClose, ended]
    rfl
  generalize world.2.server.connections.foldl
    (fun world conn => serverConnectionRemove conn world) bare = after at kept carried others same
  -- Every connection was on the list of the server, and all of these are gone.
  have empty : ∀ conn, after.2.heap conn = none := by
    intro conn
    cases there : after.2.heap conn with
    | none => rfl
    | some connection =>
      obtain ⟨before, absent⟩ := others conn connection there
      exact absurd (sound.tidy.registered.listed conn connection before) absent
  -- With nothing on the heap, whatever is known was released.
  have all : ∀ serial, serial ∈ releasedSerials after.2.log ↔ serial < after.2.serials := by
    intro serial
    rw [mem_releasedSerials]
    refine ⟨fun member => kept.mentioned _ member serial rfl, fun small => ?_⟩
    rcases bareComplete.carry carried serial small with ⟨conn, connection, there, -⟩ | released
    · rw [empty conn] at there
      cases there
    · exact released
  have once := kept.once
  rw [same]
  refine ⟨empty, ?_, fun serial opened => ?_⟩
  · refine (List.perm_ext_iff_of_nodup once List.nodup_range).mpr fun serial => ?_
    rw [all serial, List.mem_range]
  · refine List.count_eq_one_of_mem once ((all serial).mpr ?_)
    exact kept.mentioned _ opened serial rfl

end Daliserver

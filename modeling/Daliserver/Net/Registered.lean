import Mathlib.Data.List.Pairwise
import Daliserver.Net.System

/-! The dispatch table and the list of connections always agree. -/

namespace Daliserver

/-- What a registered row stands for. -/
inductive Row (net : Net) (row : DispatchEntry ServerFn ServerArg × Int) : Prop where
  | connection (conn : ConnPtr) (connection : Connection) (found : net.heap conn = some connection)
      (fd : row.2 = connection.socket) (arg : row.1.arg = some (.connection conn))
      (ready : row.1.readyfn = some .connectionReady)
      (error : row.1.errorfn = some .connectionError)
  | listener (fd : row.2 = net.server.listener) (arg : row.1.arg = some .server)
      (ready : row.1.readyfn = some .serverListenerReady)
      (error : row.1.errorfn = some .serverListenerError)
  | usb (fd : row.2 ∈ net.usbFds) (arg : row.1.arg = some .usb)
      (ready : row.1.readyfn = some .usbdaliDispatchReady)
      (error : row.1.errorfn = some .usbdaliDispatchError)
  | ipc (fd : row.2 = net.ipcFd) (arg : row.1.arg = some .ipc)
      (ready : row.1.readyfn = some .ipcReadZero) (error : row.1.errorfn = none)

/-- A row stands for the same thing as long as that has the descriptor of the row. -/
theorem Row.carry {before after : Net} {row : DispatchEntry ServerFn ServerArg × Int}
    (held : Row before row)
    (heap : ∀ conn connection, before.heap conn = some connection → row.2 = connection.socket →
      ∃ value, after.heap conn = some value ∧ value.socket = connection.socket)
    (listener : after.server.listener = before.server.listener)
    (usbFds : row.2 ∈ before.usbFds → row.2 ∈ after.usbFds)
    (ipcFd : after.ipcFd = before.ipcFd) : Row after row := by
  -- One case for each kind of row, since each is tied to a descriptor of its own.
  cases held with
  | connection conn connection found fd arg ready error =>
    obtain ⟨value, there, socket⟩ := heap conn connection found fd
    exact .connection conn value there (fd.trans socket.symm) arg ready error
  | listener fd arg ready error => exact .listener (fd.trans listener.symm) arg ready error
  | usb fd arg ready error => exact .usb (usbFds fd) arg ready error
  | ipc fd arg ready error => exact .ipc (fd.trans ipcFd.symm) arg ready error

/-- The table, the connections, and the descriptors of the operating system hang together. -/
structure Registered (net : Net) : Prop where
  -- Every descriptor is registered once, and for what it belongs to.
  once : (net.dispatch.rows.map Prod.snd).Nodup
  rows : ∀ row ∈ net.dispatch.rows, Row net row
  known : ∀ conn connection, net.heap conn = some connection →
    ∃ row ∈ net.dispatch.rows, row.1.arg = some (.connection conn)
  descriptors : (openFds net).Nodup
  linked : Linked net
  -- There is no connection that the server has lost track of.
  listed : ∀ conn connection, net.heap conn = some connection → conn ∈ net.server.connections

/-- A change that touches only the flag of one connection, besides the log. -/
structure Flagged (conn : ConnPtr) (connection : Connection) (before after : Net) : Prop where
  found : before.heap conn = some connection
  heap : ∃ waiting, after.heap =
    Function.update before.heap conn (some { connection with waiting := waiting })
  server : after.server = before.server
  closed : after.closed = before.closed
  dispatch : after.dispatch = before.dispatch
  serials : after.serials = before.serials
  usbFds : after.usbFds = before.usbFds
  ipcFd : after.ipcFd = before.ipcFd
  log : ∃ effect, after.log = before.log ++ [effect] ∧
    effect.subject = some connection.serial ∧ ∀ serial, effect ≠ .released serial

/-- Writing to a connection changes nothing but its flag. -/
theorem flagged_answered {net : Net} {conn : ConnPtr} {connection : Connection}
    (found : net.heap conn = some connection) (buffer : Bytes) :
    Flagged conn connection net (net.answered conn connection buffer) :=
  ⟨found, ⟨false, rfl⟩, rfl, rfl, rfl, rfl, rfl, rfl, ⟨_, rfl, rfl, by simp⟩⟩

/-- Reading from a connection changes nothing but its flag. -/
theorem flagged_heard {net : Net} {conn : ConnPtr} {connection : Connection}
    (found : net.heap conn = some connection) (buffer : Bytes) :
    Flagged conn connection net (net.heard conn connection buffer) :=
  ⟨found, ⟨true, rfl⟩, rfl, rfl, rfl, rfl, rfl, rfl, ⟨_, rfl, rfl, by simp⟩⟩

/-- After the change the same connections are there, apart from the flag. -/
theorem Flagged.same {conn : ConnPtr} {connection : Connection} {before after : Net}
    (flagged : Flagged conn connection before after) (other : ConnPtr) :
    ∃ waiting : Connection → Bool, after.heap other =
      (before.heap other).map fun value => { value with waiting := waiting value } := by
  -- At the connection itself the flag is new, elsewhere it is the old one.
  obtain ⟨flag, heap⟩ := flagged.heap
  by_cases same : other = conn
  · exact ⟨fun _ => flag, by simp [heap, same, flagged.found]⟩
  · refine ⟨fun value => value.waiting, ?_⟩
    rw [heap, Function.update_of_ne same]
    cases before.heap other <;> rfl

/-- A connection that is there afterwards was there before, under the same socket. -/
theorem Flagged.before {conn : ConnPtr} {connection : Connection} {before after : Net}
    (flagged : Flagged conn connection before after) {other : ConnPtr} {value : Connection}
    (found : after.heap other = some value) :
    ∃ old, before.heap other = some old ∧ value.serial = old.serial ∧
      value.socket = old.socket ∧ value.destroy = old.destroy ∧
      value.destroyarg = old.destroyarg := by
  -- Only the flag of a connection is rewritten, so it was there before.
  obtain ⟨waiting, same⟩ := flagged.same other
  rw [found, eq_comm, Option.map_eq_some_iff] at same
  obtain ⟨old, there, rfl⟩ := same
  exact ⟨old, there, rfl, rfl, rfl, rfl⟩

/-- A connection that was there before is there afterwards, under the same socket. -/
theorem Flagged.after {conn : ConnPtr} {connection : Connection} {before after : Net}
    (flagged : Flagged conn connection before after) {other : ConnPtr} {old : Connection}
    (found : before.heap other = some old) :
    ∃ value, after.heap other = some value ∧ value.socket = old.socket := by
  obtain ⟨waiting, same⟩ := flagged.same other
  rw [found] at same
  exact ⟨_, same, rfl⟩

/-- Flags have nothing to do with descriptors. -/
theorem Flagged.openFds {conn : ConnPtr} {connection : Connection} {before after : Net}
    (flagged : Flagged conn connection before after) : openFds after = openFds before := by
  -- The sockets of the connections are unchanged by a flag.
  unfold Daliserver.openFds
  rw [flagged.server, flagged.usbFds, flagged.ipcFd]
  have sockets : ∀ other, (after.heap other).map (·.socket) =
      (before.heap other).map (·.socket) := by
    intro other
    obtain ⟨waiting, same⟩ := flagged.same other
    rw [same, Option.map_map]
    rfl
  simp only [sockets]

/-- Two connections never share a socket. -/
theorem Registered.socket_ne {net : Net} (registered : Registered net) {conn other : ConnPtr}
    {first second : Connection} (apart : conn ≠ other) (one : net.heap conn = some first)
    (two : net.heap other = some second) : first.socket ≠ second.socket := by
  have distinct := registered.descriptors
  unfold openFds at distinct
  -- The sockets of the connections are the last part of the descriptors.
  have sockets := (distinct.of_cons.of_cons).of_append_right
  rw [List.Nodup, List.pairwise_filterMap] at sockets
  have symmetric : Std.Symm fun a b : ConnPtr => ∀ x, (net.heap a).map (·.socket) = some x →
      ∀ y, (net.heap b).map (·.socket) = some y → x ≠ y :=
    ⟨fun a b related x first y second same => related y second x first same.symm⟩
  exact sockets.forall (registered.listed _ _ one) (registered.listed _ _ two) apart
    first.socket (by simp [one]) second.socket (by simp [two])

/-- A connection's socket is no descriptor of libusb. -/
theorem Registered.socket_usb {net : Net} (registered : Registered net) {conn : ConnPtr}
    {connection : Connection} (found : net.heap conn = some connection) :
    connection.socket ∉ net.usbFds := by
  -- Open descriptors are pairwise distinct, and the two lie in different parts of the list.
  intro shared
  have distinct := (registered.descriptors.of_cons).of_cons
  apply List.disjoint_of_nodup_append distinct shared
  exact List.mem_filterMap.mpr ⟨conn, registered.listed _ _ found, by simp [found]⟩

/-- What is registered is open. -/
theorem Registered.row_open {net : Net} (registered : Registered net)
    {row : DispatchEntry ServerFn ServerArg × Int} (member : row ∈ net.dispatch.rows) :
    row.2 ∈ openFds net := by
  -- Every row belongs to a connection, the listener, the adapter or the signal pipe.
  unfold openFds
  cases registered.rows row member with
  | connection conn connection found fd _ _ _ =>
    rw [fd]
    refine List.mem_cons_of_mem _ (List.mem_cons_of_mem _ (List.mem_append_right _ ?_))
    exact List.mem_filterMap.mpr ⟨conn, registered.listed _ _ found, by simp [found]⟩
  | listener fd _ _ _ => simp [fd]
  | usb fd _ _ _ => simp [fd]
  | ipc fd _ _ _ => simp [fd]

/-- The row of a connection carries its socket. -/
theorem Registered.row_socket {net : Net} (registered : Registered net) {conn : ConnPtr}
    {connection : Connection} (found : net.heap conn = some connection)
    {row : DispatchEntry ServerFn ServerArg × Int} (member : row ∈ net.dispatch.rows)
    (arg : row.1.arg = some (.connection conn)) : row.2 = connection.socket := by
  -- The argument names the connection, so the other three kinds of row are excluded.
  cases registered.rows row member with
  | connection other value there fd named _ _ =>
    rw [arg, Option.some.injEq, ServerArg.connection.injEq] at named
    subst named
    rw [found, Option.some.injEq] at there
    rw [fd, there]
  | listener _ named _ _ => rw [arg] at named; cases named
  | usb _ named _ _ => rw [arg] at named; cases named
  | ipc _ named _ _ => rw [arg] at named; cases named

/-- Flags have nothing to do with registrations. -/
theorem Registered.flag {before after : Net} (registered : Registered before) {conn : ConnPtr}
    {connection : Connection} (flagged : Flagged conn connection before after) :
    Registered after := by
  -- Everything but the heap is as before, and the heap keeps its connections and sockets.
  refine ⟨?_, ?_, ?_, ?_, ⟨?_, ?_⟩, ?_⟩
  · rw [flagged.dispatch]
    exact registered.once
  · intro row member
    rw [flagged.dispatch] at member
    apply (registered.rows row member).carry
    · exact fun other value found _ => flagged.after found
    · rw [flagged.server]
    · rw [flagged.usbFds]
      exact id
    · exact flagged.ipcFd
  · intro other value found
    obtain ⟨old, there, _⟩ := flagged.before found
    rw [flagged.dispatch]
    exact registered.known other old there
  · rw [flagged.openFds]
    exact registered.descriptors
  · rw [flagged.server]
    exact registered.linked.distinct
  · intro other member
    rw [flagged.server] at member
    obtain ⟨old, there⟩ := Option.ne_none_iff_exists'.mp (registered.linked.alive other member)
    obtain ⟨value, found, _⟩ := flagged.after there
    simp [found]
  · intro other value found
    obtain ⟨old, there, _⟩ := flagged.before found
    rw [flagged.server]
    exact registered.listed other old there

/-- The rows that are left when a descriptor is removed. -/
theorem mem_rows_dispatchRemoveFd {fd : Int} {table : Dispatch ServerFn ServerArg}
    {row : DispatchEntry ServerFn ServerArg × Int} :
    row ∈ (dispatchRemoveFd fd table).rows ↔ row ∈ table.rows ∧ row.2 ≠ fd := by
  rw [(perm_rows_dispatchRemoveFd fd table).mem_iff, List.mem_filter, decide_eq_true_iff]

/-- Removing a descriptor leaves the others registered once. -/
theorem Registered.once_removeFd {net : Net} (registered : Registered net) (fd : Int) :
    ((dispatchRemoveFd fd net.dispatch).rows.map Prod.snd).Nodup := by
  refine ((perm_rows_dispatchRemoveFd fd net.dispatch).map Prod.snd).nodup_iff.mpr ?_
  exact registered.once.sublist (List.filter_sublist.map _)

/-- A new descriptor is registered once, and so are the others. -/
theorem Registered.once_concat {net : Net} (registered : Registered net) {fd : Int}
    (fresh : fd ∉ openFds net) (entry : DispatchEntry ServerFn ServerArg) :
    ((net.dispatch.rows ++ [(entry, fd)]).map Prod.snd).Nodup := by
  rw [List.map_append, List.map_singleton, ← List.concat_eq_append, List.nodup_concat]
  refine ⟨fun taken => ?_, registered.once⟩
  obtain ⟨row, member, rfl⟩ := List.mem_map.mp taken
  exact fresh (registered.row_open member)

/-- Removing a connection removes its row and its socket. -/
theorem Registered.without {net : Net} (registered : Registered net) {conn : ConnPtr}
    {connection : Connection} (found : net.heap conn = some connection) :
    Registered (net.without conn connection) := by
  have others : ∀ other, other ≠ conn →
      (net.without conn connection).heap other = net.heap other :=
    fun other apart => Function.update_of_ne apart _ _
  have survives : ∀ other value, (net.without conn connection).heap other = some value →
      other ≠ conn := by
    rintro other value there rfl
    have gone : (net.without other connection).heap other = none := Function.update_self ..
    rw [gone] at there
    cases there
  refine ⟨registered.once_removeFd _, ?_, ?_, ?_, registered.linked.without conn connection, ?_⟩
  · intro row member
    obtain ⟨before, apart⟩ := mem_rows_dispatchRemoveFd.mp member
    refine (registered.rows row before).carry (fun other value there fd => ?_) rfl id rfl
    -- The row of the removed connection is the one with its socket.
    have differs : other ≠ conn := by
      rintro rfl
      rw [found, Option.some.injEq] at there
      exact apart (fd.trans (congrArg Connection.socket there.symm))
    exact ⟨value, (others other differs).trans there, rfl⟩
  · intro other value there
    have differs := survives other value there
    rw [others other differs] at there
    obtain ⟨row, member, arg⟩ := registered.known other value there
    refine ⟨row, mem_rows_dispatchRemoveFd.mpr ⟨member, ?_⟩, arg⟩
    rw [registered.row_socket there member arg]
    exact registered.socket_ne differs there found
  · refine registered.descriptors.sublist ?_
    unfold openFds
    refine ((List.Sublist.append_left ?_ _).cons_cons _).cons_cons _
    have same : (net.server.connections.erase conn).filterMap
        (fun other => ((net.without conn connection).heap other).map (·.socket)) =
        (net.server.connections.erase conn).filterMap
          (fun other => (net.heap other).map (·.socket)) := by
      refine List.filterMap_congr fun other member => ?_
      have differs := ((registered.linked.distinct.mem_erase_iff).mp member).1
      rw [others other differs]
    have shorter := (List.erase_sublist (a := conn) (l := net.server.connections)).filterMap
      (fun other => (net.heap other).map (·.socket))
    rw [← same] at shorter
    exact shorter
  · intro other value there
    have differs := survives other value there
    rw [others other differs] at there
    exact (List.mem_erase_of_ne differs).mpr (registered.listed other value there)

section Open

variable {net : Net} {pointer : ConnPtr} {socket : Int}

/-- A connection that is accepted is found where it was allocated. -/
theorem heap_open_self :
    ((connectionNew pointer socket net).withConnections (· ++ [pointer])).heap pointer =
      some ⟨net.serials, socket, false, net.server.conndestroy, net.server.conndestroyarg⟩ :=
  Function.update_self ..

/-- Accepting a connection does not touch the others. -/
theorem heap_open_other {other : ConnPtr} (apart : other ≠ pointer) :
    ((connectionNew pointer socket net).withConnections (· ++ [pointer])).heap other =
      net.heap other :=
  Function.update_of_ne apart _ _

/-- A connection that is accepted joins the list at its end. -/
theorem Linked.open (linked : Linked net) (free : net.heap pointer = none) :
    Linked ((connectionNew pointer socket net).withConnections (· ++ [pointer])) := by
  -- The address is free, so no node of the list has it.
  have unlisted : pointer ∉ net.server.connections :=
    fun member => linked.alive pointer member free
  refine ⟨?_, fun other member => ?_⟩
  · show (net.server.connections ++ [pointer]).Nodup
    rw [← List.concat_eq_append, List.nodup_concat]
    exact ⟨unlisted, linked.distinct⟩
  · rcases List.mem_append.mp member with old | new
    · rw [heap_open_other (ne_of_mem_of_not_mem old unlisted)]
      exact linked.alive other old
    · rw [List.mem_singleton.mp new, heap_open_self]
      exact Option.some_ne_none _

/-- The socket of a connection that is accepted joins the descriptors at the end. -/
theorem openFds_open (linked : Linked net) (free : net.heap pointer = none) :
    openFds ((connectionNew pointer socket net).withConnections (· ++ [pointer])) =
      openFds net ++ [socket] := by
  have unlisted : pointer ∉ net.server.connections :=
    fun member => linked.alive pointer member free
  have old : net.server.connections.filterMap (fun other =>
      (((connectionNew pointer socket net).withConnections (· ++ [pointer])).heap other).map
        (·.socket)) =
      net.server.connections.filterMap (fun other => (net.heap other).map (·.socket)) :=
    List.filterMap_congr fun other member => by
      rw [heap_open_other (ne_of_mem_of_not_mem member unlisted)]
  unfold openFds
  show net.server.listener :: net.ipcFd :: (net.usbFds ++
    (net.server.connections ++ [pointer]).filterMap _) = _
  rw [List.filterMap_append, old]
  simp [heap_open_self]

/-- Accepting a connection registers it. -/
theorem Registered.open (registered : Registered net) (valid : 0 ≤ socket)
    (fresh : socket ∉ openFds net) (free : net.heap pointer = none) :
    Registered ((connectionNew pointer socket net).withConnections (· ++ [pointer])) := by
  have rows := rows_dispatchAdd valid (-1) (some ServerFn.connectionReady)
    (some .connectionError) none (some (ServerArg.connection pointer)) net.dispatch
  refine ⟨?_, ?_, ?_, ?_, registered.linked.open free, ?_⟩
  · show (dispatchAdd ..).rows.map Prod.snd |>.Nodup
    rw [rows]
    exact registered.once_concat fresh _
  · intro row member
    change row ∈ (dispatchAdd ..).rows at member
    rw [rows] at member
    rcases List.mem_append.mp member with old | new
    · refine (registered.rows row old).carry (fun other value there _ => ?_) rfl id rfl
      -- What is allocated already has another address.
      have apart : other ≠ pointer := by
        rintro rfl
        rw [free] at there
        cases there
      exact ⟨value, (heap_open_other apart).trans there, rfl⟩
    · rw [List.mem_singleton.mp new]
      exact .connection pointer _ heap_open_self rfl rfl rfl rfl
  · intro other value there
    show ∃ row ∈ (dispatchAdd ..).rows, _
    rw [rows]
    by_cases same : other = pointer
    · exact ⟨_, List.mem_append_right _ (List.mem_singleton_self _), by rw [same]⟩
    · rw [heap_open_other same] at there
      obtain ⟨row, member, arg⟩ := registered.known other value there
      exact ⟨row, List.mem_append_left _ member, arg⟩
  · rw [openFds_open registered.linked free, ← List.concat_eq_append, List.nodup_concat]
    exact ⟨fresh, registered.descriptors⟩
  · intro other value there
    show other ∈ net.server.connections ++ [pointer]
    by_cases same : other = pointer
    · simp [same]
    · rw [heap_open_other same] at there
      exact List.mem_append_left _ (registered.listed other value there)

end Open

/-- Registrations, connections, and descriptors are all that matters. -/
theorem Registered.congr {before after : Net} (registered : Registered before)
    (rows : after.dispatch.rows = before.dispatch.rows) (heap : after.heap = before.heap)
    (server : after.server = before.server) (usbFds : after.usbFds = before.usbFds)
    (ipcFd : after.ipcFd = before.ipcFd) : Registered after := by
  -- The rows are all that is read of the table.
  have fds : openFds after = openFds before := by
    unfold openFds
    rw [heap, server, usbFds, ipcFd]
  refine ⟨?_, ?_, ?_, ?_, ⟨?_, ?_⟩, ?_⟩
  · rw [rows]
    exact registered.once
  · intro row member
    rw [rows] at member
    apply (registered.rows row member).carry
    · rw [heap]
      exact fun conn connection found _ => ⟨connection, found, rfl⟩
    · rw [server]
    · rw [usbFds]
      exact id
    · exact ipcFd
  · rw [rows, heap]
    exact registered.known
  · rw [fds]
    exact registered.descriptors
  · rw [server]
    exact registered.linked.distinct
  · rw [server, heap]
    exact registered.linked.alive
  · rw [server, heap]
    exact registered.listed

/-- A descriptor of libusb that is added belongs to nothing else. -/
theorem Registered.addPollfd {net : Net} (registered : Registered net) {fd : Int}
    (valid : 0 ≤ fd) (fresh : fd ∉ openFds net) (events : BitVec 16) :
    Registered (usbdaliAddPollfd fd events net) := by
  have rows := rows_dispatchAdd valid events (some ServerFn.usbdaliDispatchReady)
    (some .usbdaliDispatchError) none (some ServerArg.usb) net.dispatch
  refine ⟨?_, ?_, ?_, ?_, ⟨registered.linked.distinct, registered.linked.alive⟩,
    registered.listed⟩
  · show (dispatchAdd ..).rows.map Prod.snd |>.Nodup
    rw [rows]
    exact registered.once_concat fresh _
  · intro row member
    change row ∈ (dispatchAdd ..).rows at member
    rw [rows] at member
    rcases List.mem_append.mp member with old | new
    · exact (registered.rows row old).carry (fun _ connection found _ => ⟨connection, found, rfl⟩)
        rfl (List.mem_append_left _) rfl
    · rw [List.mem_singleton.mp new]
      exact .usb (List.mem_append_right _ (List.mem_singleton_self _)) rfl rfl rfl
  · intro conn connection found
    obtain ⟨row, member, arg⟩ := registered.known conn connection found
    refine ⟨row, ?_, arg⟩
    show row ∈ (dispatchAdd ..).rows
    rw [rows]
    exact List.mem_append_left _ member
  · -- The new descriptor stands between the other ones of libusb and the sockets.
    have shuffled : (openFds (usbdaliAddPollfd fd events net)).Perm (fd :: openFds net) := by
      unfold openFds usbdaliAddPollfd
      simp only [List.append_assoc, List.singleton_append]
      refine List.Perm.trans ?_ (List.Perm.swap _ _ _)
      refine List.Perm.cons _ (List.Perm.trans ?_ (List.Perm.swap _ _ _))
      exact List.Perm.cons _ List.perm_middle
    exact shuffled.nodup_iff.mpr (List.nodup_cons.mpr ⟨fresh, registered.descriptors⟩)

/-- A descriptor of libusb that is removed takes no connection with it. -/
theorem Registered.removePollfd {net : Net} (registered : Registered net) {fd : Int}
    (known : fd ∈ net.usbFds) : Registered (usbdaliRemovePollfd fd net) := by
  refine ⟨registered.once_removeFd fd, ?_, ?_, ?_,
    ⟨registered.linked.distinct, registered.linked.alive⟩, registered.listed⟩
  · intro row member
    obtain ⟨before, apart⟩ := mem_rows_dispatchRemoveFd.mp member
    refine (registered.rows row before).carry (fun _ connection found _ => ⟨connection, found, rfl⟩)
      rfl (fun adapter => ?_) rfl
    exact List.mem_filter.mpr ⟨adapter, by simpa using apart⟩
  · intro conn connection found
    obtain ⟨row, member, arg⟩ := registered.known conn connection found
    refine ⟨row, mem_rows_dispatchRemoveFd.mpr ⟨member, fun same => ?_⟩, arg⟩
    -- The row of a connection carries its socket, which is no descriptor of libusb.
    rw [registered.row_socket found member arg] at same
    exact registered.socket_usb found (same ▸ known)
  · refine registered.descriptors.sublist ?_
    unfold openFds
    refine ((List.Sublist.append_right ?_ _).cons_cons _).cons_cons _
    exact List.filter_sublist

end Daliserver

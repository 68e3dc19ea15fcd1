import Daliserver.Net.Registered
import Daliserver.Usb.Owners

/-! Every operation of the server leaves its references to connections in order. -/

namespace Daliserver

/-- The connection an effect releases. -/
@[simp] def NetEffect.releasedSerial : NetEffect → Option Nat
  | .released serial => some serial
  | _ => none

/-- The connections released so far, oldest first. -/
def releasedSerials (log : List NetEffect) : List Nat := log.filterMap NetEffect.releasedSerial

/-- A connection is listed exactly if it was released. -/
theorem mem_releasedSerials {log : List NetEffect} {serial : Nat} :
    serial ∈ releasedSerials log ↔ .released serial ∈ log := by
  rw [releasedSerials, List.mem_filterMap]
  constructor
  · rintro ⟨effect, member, listed⟩
    -- Only a release is listed, and it is listed as itself.
    cases effect <;> simp at listed
    subst listed
    exact member
  · exact fun member => ⟨_, member, rfl⟩

/-- The books on connections: who they are, which were released, and what went wrong. -/
structure Books (net : Net) : Prop where
  destroy : ∀ conn connection, net.heap conn = some connection →
    connection.destroy = true ∧ connection.destroyarg = net.server.arg
  numbered : ∀ conn connection, net.heap conn = some connection → connection.serial < net.serials
  distinct : ∀ conn other first second, net.heap conn = some first →
    net.heap other = some second → first.serial = second.serial → conn = other
  mentioned : ∀ effect ∈ net.log, ∀ serial, effect.subject = some serial → serial < net.serials
  released : ∀ serial, .released serial ∈ net.log →
    ∀ conn connection, net.heap conn = some connection → connection.serial ≠ serial
  once : (releasedSerials net.log).Nodup
  -- The only fault there may be is a walk through a freed list node.
  faultless : ∀ fault, .fault fault ∈ net.log → ∃ conn, fault = .freedNode conn
  installed : net.server.conndestroy = true ∧ net.server.conndestroyarg = net.server.arg
  framesize : net.server.framesize = defaultNetFramesize
  open_ : net.closed = false

/-- One more entry of the log is about a connection that has a number. -/
theorem Books.mentioned_concat {net : Net} (books : Books net) {effect : NetEffect} {serials : Nat}
    (more : net.serials ≤ serials)
    (about : ∀ serial, effect.subject = some serial → serial < serials) :
    ∀ other ∈ net.log ++ [effect], ∀ serial, other.subject = some serial → serial < serials := by
  intro other member serial named
  rcases List.mem_append.mp member with earlier | last
  · exact Nat.lt_of_lt_of_le (books.mentioned other earlier serial named) more
  · rw [List.mem_singleton.mp last] at named
    exact about serial named

/-- One more entry of the log is no fault, or one that the books allow for. -/
theorem Books.faultless_concat {net : Net} (books : Books net) {effect : NetEffect}
    (allowed : ∀ fault, effect = .fault fault → ∃ conn, fault = .freedNode conn) :
    ∀ fault, .fault fault ∈ net.log ++ [effect] → ∃ conn, fault = .freedNode conn := by
  intro fault member
  rcases List.mem_append.mp member with earlier | last
  · exact books.faultless fault earlier
  · exact allowed fault (List.mem_singleton.mp last).symm

/-- Flags have nothing to do with the books. -/
theorem Books.flag {before after : Net} (books : Books before) {conn : ConnPtr}
    {connection : Connection} (flagged : Flagged conn connection before after) : Books after := by
  -- A flag adds one entry to the log, about a live connection and not a release.
  obtain ⟨effect, log, subject, unreleased⟩ := flagged.log
  refine ⟨?_, ?_, ?_, ?_, ?_, ?_, ?_, ?_, ?_, ?_⟩
  · intro other value found
    obtain ⟨old, there, _, _, destroy, arg⟩ := flagged.before found
    rw [destroy, arg, flagged.server]
    exact books.destroy other old there
  · intro other value found
    obtain ⟨old, there, serial, _⟩ := flagged.before found
    rw [serial, flagged.serials]
    exact books.numbered other old there
  · intro one two first second foundOne foundTwo same
    obtain ⟨old, there, serial, _⟩ := flagged.before foundOne
    obtain ⟨old', there', serial', _⟩ := flagged.before foundTwo
    exact books.distinct one two old old' there there' (by rw [← serial, ← serial', same])
  · rw [log, flagged.serials]
    apply books.mentioned_concat (Nat.le_refl _)
    intro serial named
    rw [subject, Option.some.injEq] at named
    exact named ▸ books.numbered conn connection flagged.found
  · intro serial member other value found
    rw [log] at member
    obtain ⟨old, there, same, _⟩ := flagged.before found
    rw [same]
    rcases List.mem_append.mp member with earlier | last
    · exact books.released serial earlier other old there
    · exact absurd (List.mem_singleton.mp last).symm (unreleased serial)
  · have same : releasedSerials after.log = releasedSerials before.log := by
      rw [releasedSerials, log, List.filterMap_append, releasedSerials]
      cases effect with
      | released serial => exact absurd rfl (unreleased serial)
      | _ => simp
    rw [same]
    exact books.once
  · rw [log]
    apply books.faultless_concat
    intro fault same
    rw [same] at subject
    cases subject
  · rw [flagged.server]
    exact books.installed
  · rw [flagged.server]
    exact books.framesize
  · rw [flagged.closed]
    exact books.open_

/-- Removing a connection releases it for the first and last time. -/
theorem Books.without {net : Net} (books : Books net) {conn : ConnPtr} {connection : Connection}
    (found : net.heap conn = some connection) : Books (net.without conn connection) := by
  -- What is in the heap afterwards was there before, under another address.
  have before : ∀ other value, (net.without conn connection).heap other = some value →
      other ≠ conn ∧ net.heap other = some value := by
    intro other value there
    by_cases same : other = conn
    · simp [Net.without, same] at there
    · simp only [Net.without, Function.update_of_ne same] at there
      exact ⟨same, there⟩
  have log : (net.without conn connection).log = net.log ++ [.released connection.serial] := rfl
  refine ⟨?_, ?_, ?_, ?_, ?_, ?_, ?_, books.installed, books.framesize, books.open_⟩
  · exact fun other value there => books.destroy other value (before other value there).2
  · exact fun other value there => books.numbered other value (before other value there).2
  · exact fun one two first second there there' =>
      books.distinct one two first second (before one first there).2 (before two second there').2
  · rw [log]
    apply books.mentioned_concat (Nat.le_refl _)
    intro serial named
    rw [NetEffect.subject, Option.some.injEq] at named
    exact named ▸ books.numbered conn connection found
  · intro serial member other value there same
    rw [log] at member
    obtain ⟨apart, old⟩ := before other value there
    rcases List.mem_append.mp member with earlier | last
    · exact books.released serial earlier other value old same
    · simp only [List.mem_singleton, NetEffect.released.injEq] at last
      subst last
      exact apart (books.distinct other conn value connection old found same)
  · rw [log, releasedSerials, List.filterMap_append, List.nodup_append]
    refine ⟨books.once, by simp, ?_⟩
    intro serial old other new same
    have last : other = connection.serial := by simpa using new
    have past := books.released serial (mem_releasedSerials.mp old) conn connection found
    exact past (last.symm.trans same.symm)
  · rw [log]
    apply books.faultless_concat
    intro fault same
    cases same

/-- A new connection is told apart from all others by its number. -/
theorem Books.open {net : Net} (books : Books net) (pointer : ConnPtr) (socket : Int) :
    Books ((connectionNew pointer socket net).withConnections (· ++ [pointer])) := by
  -- A connection in the heap is the new one or one that was there before.
  have before : ∀ other value,
      ((connectionNew pointer socket net).withConnections (· ++ [pointer])).heap other =
        some value →
      (other = pointer ∧ value.serial = net.serials ∧ value.destroy = net.server.conndestroy ∧
        value.destroyarg = net.server.conndestroyarg) ∨ net.heap other = some value := by
    intro other value there
    by_cases same : other = pointer
    · left
      simp only [Net.withConnections, connectionNew, same, Function.update_self,
        Option.some.injEq] at there
      subst there
      exact ⟨same, rfl, rfl, rfl⟩
    · right
      simpa only [Net.withConnections, connectionNew, Function.update_of_ne same] using there
  have log : ((connectionNew pointer socket net).withConnections (· ++ [pointer])).log =
      net.log ++ [.opened net.serials] := rfl
  have serials : ((connectionNew pointer socket net).withConnections (· ++ [pointer])).serials =
      net.serials + 1 := rfl
  refine ⟨?_, ?_, ?_, ?_, ?_, ?_, ?_, books.installed, books.framesize, books.open_⟩
  · intro other value there
    rcases before other value there with ⟨_, _, destroy, arg⟩ | old
    · rw [destroy, arg]
      exact books.installed
    · exact books.destroy other value old
  · intro other value there
    rw [serials]
    rcases before other value there with ⟨_, serial, _⟩ | old
    · omega
    · have := books.numbered other value old
      omega
  · intro one two first second there there' same
    rcases before one first there with ⟨pointed, serial, _⟩ | old
    · rcases before two second there' with ⟨pointed', _⟩ | old'
      · rw [pointed, pointed']
      · have := books.numbered two second old'
        omega
    · rcases before two second there' with ⟨_, serial, _⟩ | old'
      · have := books.numbered one first old
        omega
      · exact books.distinct one two first second old old' same
  · rw [log, serials]
    apply books.mentioned_concat (Nat.le_succ _)
    intro serial named
    rw [NetEffect.subject, Option.some.injEq] at named
    omega
  · intro serial member other value there
    rw [log] at member
    rcases List.mem_append.mp member with earlier | last
    · rcases before other value there with ⟨_, number, _⟩ | old
      · have := books.mentioned _ earlier serial rfl
        omega
      · exact books.released serial earlier other value old
    · simp at last
  · have same : releasedSerials (net.log ++ [.opened net.serials]) = releasedSerials net.log := by
      simp [releasedSerials]
    rw [log, same]
    exact books.once
  · rw [log]
    apply books.faultless_concat
    intro fault same
    cases same

/-- The books only look at these parts of the state. -/
theorem Books.congr {before after : Net} (books : Books before) (heap : after.heap = before.heap)
    (serials : after.serials = before.serials) (server : after.server = before.server)
    (closed : after.closed = before.closed) (log : after.log = before.log) : Books after := by
  -- The books read the heap, the serials, the server, whether it is closed, and the log.
  refine ⟨?_, ?_, ?_, ?_, ?_, ?_, ?_, ?_, ?_, ?_⟩
  · rw [heap, server]
    exact books.destroy
  · rw [heap, serials]
    exact books.numbered
  · rw [heap]
    exact books.distinct
  · rw [serials, log]
    exact books.mentioned
  · rw [heap, log]
    exact books.released
  · rw [log]
    exact books.once
  · rw [log]
    exact books.faultless
  · rw [server]
    exact books.installed
  · rw [server]
    exact books.framesize
  · rw [closed]
    exact books.open_

/-- A walk through a freed list node is a fault the books allow for. -/
theorem Books.stray {net : Net} (books : Books net) (conn : ConnPtr) :
    Books (net.record (.fault (.freedNode conn))) := by
  -- The recorded fault mentions no connection and releases none.
  refine ⟨books.destroy, books.numbered, books.distinct, ?_, ?_, ?_, ?_, books.installed,
    books.framesize, books.open_⟩
  · apply books.mentioned_concat (Nat.le_refl _)
    intro serial named
    cases named
  · intro serial member
    simp only [Net.record, List.mem_append, List.mem_singleton, reduceCtorEq, or_false] at member
    exact books.released serial member
  · have same : releasedSerials (net.record (.fault (.freedNode conn))).log =
        releasedSerials net.log := by
      simp [releasedSerials, Net.record]
    rw [same]
    exact books.once
  · apply books.faultless_concat
    intro fault same
    exact ⟨conn, (NetEffect.fault.inj same).symm⟩

/-- Whoever is owed an answer is a connection the server knows. -/
structure Bound (world : World) : Prop where
  args : ∀ conn, some conn ∈ owners world.1 → conn ∈ world.2.server.connections
  -- Without a device there are no requests at all.
  dry : world.2.server.arg = none → owners world.1 = []

/-- All references to connections are in order. -/
structure Tidy (world : World) : Prop where
  registered : Registered world.2
  books : Books world.2
  bound : Bound world

/-- A connection the server knows is alive. -/
theorem Tidy.found {world : World} (tidy : Tidy world) {conn : ConnPtr}
    (member : conn ∈ world.2.server.connections) :
    ∃ connection, world.2.heap conn = some connection :=
  Option.ne_none_iff_exists'.mp (tidy.registered.linked.alive conn member)

/-- The device may do anything that leaves nobody else waiting. -/
theorem Tidy.device {world : World} (tidy : Tidy world) {dali : UsbDali ConnPtr}
    (fewer : ∀ conn, some conn ∈ owners dali → some conn ∈ owners world.1)
    (none : owners world.1 = [] → owners dali = []) : Tidy (dali, world.2) :=
  ⟨tidy.registered, tidy.books, fun conn owed => tidy.bound.args conn (fewer conn owed),
    fun dry => none (tidy.bound.dry dry)⟩

/-- The device may do anything that leaves the same connections waiting. -/
theorem Tidy.device_same {world : World} (tidy : Tidy world) {dali : UsbDali ConnPtr}
    (same : owners dali = owners world.1) : Tidy (dali, world.2) :=
  tidy.device (fun _ owed => by rwa [same] at owed) (fun none => by rwa [same])

/-- Forgetting a connection is nobody else's loss. -/
theorem owners_forgotten {conn : ConnPtr} {connection : Connection} {dali : UsbDali ConnPtr}
    {owner : ConnPtr} (owed : some owner ∈ owners (forgotten conn connection dali)) :
    some owner ∈ owners dali := by
  -- Forgetting a connection only clears arguments.
  obtain ⟨args, cancelled⟩ := forgotten_cancels conn connection dali
  rw [cancelled] at owed
  exact owners_cancelAll_subset args dali owed

/-- Removing a connection purges it from the list, the table, and the device alike. -/
theorem Tidy.remove {world : World} (tidy : Tidy world) {conn : ConnPtr}
    {connection : Connection} (found : world.2.heap conn = some connection) :
    Tidy (forgotten conn connection world.1, world.2.without conn connection) := by
  have destroy := tidy.books.destroy conn connection found
  refine ⟨tidy.registered.without found, tidy.books.without found, ⟨?_, ?_⟩⟩
  · intro owner owed
    have member := tidy.bound.args owner (owners_forgotten owed)
    refine (List.mem_erase_of_ne ?_).mpr member
    -- The removed connection is owed nothing any more.
    rintro rfl
    cases device : world.2.server.arg with
    | none =>
      have nobody := tidy.bound.dry device
      have before := owners_forgotten owed
      rw [nobody] at before
      cases before
    | some device' =>
      have cancelled : forgotten owner connection world.1 =
          usbdaliCancel (some owner) world.1 := by
        unfold forgotten
        rw [if_pos ⟨destroy.1, by rw [destroy.2, device]; exact Option.some_ne_none _⟩]
      rw [cancelled] at owed
      exact not_mem_owners_cancel owner world.1 owed
  · intro dry
    have nobody := tidy.bound.dry dry
    unfold forgotten
    split
    · rw [owners_cancel, nobody]
      rfl
    · exact nobody

/-- A change of a flag is nobody's loss. -/
theorem Tidy.flag {world : World} (tidy : Tidy world) {conn : ConnPtr} {connection : Connection}
    {after : Net} (flagged : Flagged conn connection world.2 after) : Tidy (world.1, after) := by
  -- The device is untouched, so only the server's view of it has to agree.
  refine ⟨tidy.registered.flag flagged, tidy.books.flag flagged, ⟨?_, ?_⟩⟩
  · rw [flagged.server]
    exact tidy.bound.args
  · rw [flagged.server]
    exact tidy.bound.dry

/-- Replying to a connection the server knows leaves everything in order. -/
theorem Tidy.reply {world : World} (tidy : Tidy world) {conn : ConnPtr}
    (member : conn ∈ world.2.server.connections) {buffer : Bytes} (nonempty : buffer ≠ []) :
    Tidy (connectionReply conn buffer world) := by
  obtain ⟨connection, found⟩ := tidy.found member
  have flagged := flagged_answered found buffer
  rw [connectionReply_eq found nonempty]
  split
  · exact tidy.flag flagged
  · -- The connection is removed in the state in which its flag has been cleared.
    have answered : (world.2.answered conn connection buffer).heap conn =
        some { connection with waiting := false } := Function.update_self ..
    have removed := (tidy.flag flagged).remove answered
    exact removed

/-- A walk through a freed list node changes no reference. -/
theorem Tidy.stray {world : World} (tidy : Tidy world) (conn : ConnPtr) :
    Tidy (onNet (·.record (.fault (.freedNode conn))) world) :=
  ⟨tidy.registered.congr rfl rfl rfl rfl rfl, tidy.books.stray conn, tidy.bound.args,
    tidy.bound.dry⟩

/-- A walk that replies only to connections that are alive leaves everything in order. -/
theorem Tidy.walk {buffer : Bytes} (nonempty : buffer ≠ []) {visits : List Visit} {world : World}
    (tidy : Tidy world) (live : LiveVisits buffer world visits) :
    Tidy (visits.foldl (visit buffer) world) := by
  -- Every visit meets a tidy world, since each reply and each stray leaves one.
  induction visits generalizing world with
  | nil => exact tidy
  | cons step rest ih =>
    cases step with
    | reply conn => exact ih (tidy.reply live.1 nonempty) live.2
    | stray conn => exact ih (tidy.stray conn) live

end Daliserver

import Daliserver.Machine.SwapRemove

/-! The dispatch table: file descriptors and the callbacks registered for them (dispatch.c). -/

namespace Daliserver

open Machine

/-- There is data to read. -/
def pollIn : BitVec 16 := 0x001

/-- An error condition on the descriptor. -/
def pollErr : BitVec 16 := 0x008

/-- The other side hung up. -/
def pollHup : BitVec 16 := 0x010

/-- The descriptor is not open. -/
def pollNval : BitVec 16 := 0x020

/-- The table grows by this many places at a time. -/
def dispatchAllocIncrease : Nat := 4

/-- The errors passed to an error callback. -/
inductive DispatchError where
  | fdClosed
  | pollError
  | fdInvalid
deriving DecidableEq, Repr

/--
The callbacks of a registered descriptor, where `none` stands for NULL.

The registration names the call of `dispatch_add` that made the entry, and no function reads it.
-/
structure DispatchEntry (φ α : Type) where
  registration : Nat
  arg : Option α
  readyfn : Option φ
  errorfn : Option φ
  indexfn : Option φ
deriving DecidableEq, Repr

/-- A descriptor as it is passed to `poll`, with the registration it belongs to. -/
structure PollFd where
  registration : Nat
  fd : Int
  events : BitVec 16
  revents : BitVec 16
deriving DecidableEq, Repr

/-- An invocation of a callback. -/
structure Call (φ α : Type) where
  registration : Nat
  fn : φ
  arg : Option α
  -- A ready callback has no error to report.
  error : Option DispatchError
deriving DecidableEq, Repr

/-- What happened to the table, in order. -/
inductive DispatchEffect (φ α : Type) where
  | added (registration : Nat)
  | removed (registration : Nat)
  -- An index callback was told the position of its entry.
  | indexed (fn : φ) (arg : Option α) (index : Nat)
  | called (call : Call φ α)
deriving DecidableEq, Repr

/--
The table, as two arrays that are read and written side by side.

The number of entries is the length of either array.
-/
structure Dispatch (φ α : Type) where
  allocentries : Nat
  entries : List (DispatchEntry φ α)
  fds : List PollFd
  -- The number of registrations so far, which names the next one.
  registrations : Nat
  trace : List (DispatchEffect φ α)
  -- Position by position, both arrays describe the same registration.
  paired : entries.map (·.registration) = fds.map (·.registration)
  fits : fds.length ≤ allocentries
  distinct : (fds.map (·.registration)).Nodup
  numbered : ∀ fd ∈ fds, fd.registration < registrations
deriving DecidableEq, Repr

variable {φ α : Type}

namespace Dispatch

/-- The number of registered descriptors. -/
def numentries (table : Dispatch φ α) : Nat := table.fds.length

/-- The rows of the table, each with its callbacks and its descriptor. -/
def slots (table : Dispatch φ α) : List (DispatchEntry φ α × PollFd) :=
  table.entries.zip table.fds

/-- Records something that happened. -/
def log (table : Dispatch φ α) (effect : DispatchEffect φ α) : Dispatch φ α :=
  { table with trace := table.trace ++ [effect] }

/-- `poll` reports an event mask for every descriptor. -/
def poll (revents : Nat → BitVec 16) (table : Dispatch φ α) : Dispatch φ α :=
  { table with
    -- The kernel writes revents and leaves descriptor and requested events alone.
    fds := table.fds.mapIdx fun index fd => { fd with revents := revents index }
    paired := by
      rw [table.paired]
      exact List.ext_getElem? (by simp [Function.comp_def])
    fits := by simpa using table.fits
    distinct := by
      have same : (table.fds.mapIdx fun index fd => { fd with revents := revents index }).map
          (·.registration) = table.fds.map (·.registration) :=
        List.ext_getElem? (by simp [Function.comp_def])
      rw [same]
      exact table.distinct
    numbered := by
      intro fd member
      obtain ⟨index, bound, rfl⟩ := List.mem_mapIdx.mp member
      exact table.numbered (table.fds.get ⟨index, bound⟩) (List.getElem_mem bound) }

/-- Both arrays have the same length. -/
theorem length_entries (table : Dispatch φ α) : table.entries.length = table.fds.length := by
  simpa using congrArg List.length table.paired

/-- The descriptors can be read off the rows. -/
theorem slots_snd (table : Dispatch φ α) : table.slots.map Prod.snd = table.fds :=
  List.map_snd_zip (Nat.le_of_eq table.length_entries.symm)

@[simp] theorem length_slots (table : Dispatch φ α) : table.slots.length = table.numentries := by
  simp [slots, numentries, table.length_entries]

/-- Both halves of a row belong to the same registration. -/
theorem slot_paired {table : Dispatch φ α} {slot : DispatchEntry φ α × PollFd}
    (member : slot ∈ table.slots) : slot.1.registration = slot.2.registration := by
  -- The arrays agree on registrations index by index.
  obtain ⟨index, found⟩ := List.mem_iff_getElem?.mp member
  obtain ⟨entry, descriptor⟩ := List.getElem?_zip_eq_some.mp found
  have same := congrArg (·[index]?) table.paired
  simpa [entry, descriptor] using same

/-- No two rows belong to the same registration. -/
theorem slots_distinct (table : Dispatch φ α) :
    (table.slots.map (·.2.registration)).Nodup := by
  -- A slot's registration is that of its descriptor.
  have same : table.slots.map (·.2.registration) = table.fds.map (·.registration) := by
    rw [← table.slots_snd, List.map_map]
    rfl
  rw [same]
  exact table.distinct

/-- Registrations are numbered below the counter. -/
theorem slot_numbered {table : Dispatch φ α} {slot : DispatchEntry φ α × PollFd}
    (member : slot ∈ table.slots) : slot.2.registration < table.registrations := by
  refine table.numbered slot.2 ?_
  rw [← table.slots_snd]
  exact List.mem_map_of_mem member

end Dispatch

/-- An empty table. -/
def dispatchNew : Dispatch φ α where
  -- Both arrays start as NULL pointers with no capacity.
  allocentries := 0
  entries := []
  fds := []
  registrations := 0
  trace := []
  paired := rfl
  fits := Nat.le_refl 0
  distinct := List.nodup_nil
  numbered := by simp

/-- Tells an entry its position, if it wants to know. -/
def callIndexfn (entry : DispatchEntry φ α) (index : Nat) (table : Dispatch φ α) :
    Dispatch φ α :=
  match entry.indexfn with
  -- A registration without an index callback is moved silently.
  | none => table
  | some fn => table.log (.indexed fn entry.arg index)

/-- Registers a descriptor, unless it is invalid. -/
def dispatchAdd (fd : Int) (events : BitVec 16) (readyfn errorfn indexfn : Option φ)
    (arg : Option α) (table : Dispatch φ α) : Dispatch φ α :=
  if 0 ≤ fd then
    let entry : DispatchEntry φ α := ⟨table.registrations, arg, readyfn, errorfn, indexfn⟩
    -- An event mask of -1 asks for input events.
    let pollfd : PollFd := ⟨table.registrations, fd, if events = -1 then pollIn else events, 0⟩
    let told := callIndexfn entry table.numentries table
    { allocentries :=
        if table.allocentries < table.numentries + 1 then table.allocentries + dispatchAllocIncrease
        else table.allocentries
      entries := table.entries ++ [entry]
      fds := table.fds ++ [pollfd]
      registrations := table.registrations + 1
      trace := told.trace ++ [.added table.registrations]
      paired := by simp [table.paired, entry, pollfd]
      fits := by
        have fits := table.fits
        rw [List.length_append, List.length_singleton]
        -- The arrays grow exactly when the new row would not fit.
        by_cases full : table.allocentries < table.numentries + 1
        · rw [if_pos full, dispatchAllocIncrease]
          omega
        · rw [if_neg full]
          exact Nat.le_of_not_lt full
      distinct := by
        rw [List.map_append, List.nodup_append]
        refine ⟨table.distinct, List.nodup_singleton _, ?_⟩
        intro registration old other new same
        obtain ⟨fd, member, rfl⟩ := List.mem_map.mp old
        have below := table.numbered fd member
        simp only [List.map_cons, List.map_nil, List.mem_singleton, pollfd] at new
        omega
      numbered := by
        intro fd member
        rcases List.mem_append.mp member with old | new
        · exact Nat.lt_succ_of_lt (table.numbered fd old)
        · rw [List.mem_singleton.mp new]
          exact Nat.lt_succ_self _ }
  else table

/-- Removes a position, into which the last entry moves. -/
def dispatchRemove (index : Nat) (table : Dispatch φ α) : Dispatch φ α :=
  if valid : index < table.numentries then
    let removed := (table.fds.get ⟨index, valid⟩).registration
    -- The entry that moves is told its new position, unless it is the removed one itself.
    let told := if index + 1 = table.numentries then table else
      match table.entries.getLast? with
      | none => table
      | some last => callIndexfn last index table
    { table with
      entries := swapRemove table.entries index
      fds := swapRemove table.fds index
      trace := told.trace ++ [.removed removed]
      paired := by rw [map_swapRemove, map_swapRemove, table.paired]
      fits := by
        have fits := table.fits
        rw [length_swapRemove]
        omega
      distinct := by
        rw [map_swapRemove]
        have found : (table.fds.map (·.registration))[index]? = some removed := by
          rw [List.getElem?_map, List.getElem?_eq_getElem valid]
          rfl
        exact ((perm_swapRemove found).nodup_iff.mp table.distinct).of_cons
      numbered := by
        intro fd member
        exact table.numbered fd (mem_of_mem_swapRemove valid member) }
  else table

/-- The loop of `dispatch_remove_fd`, which does not advance past a row that was filled again. -/
def removeFdLoop (fd : Int) : Nat → Nat → Dispatch φ α → Dispatch φ α
  -- The rounds bound the loop; the source stops on the entry count alone.
  | 0, _, table => table
  | rounds + 1, index, table =>
    match table.fds[index]? with
    | none => table
    | some pollfd =>
      -- The last row has moved into this index, so it is examined before moving on.
      if pollfd.fd = fd then removeFdLoop fd rounds index (dispatchRemove index table)
      else removeFdLoop fd rounds (index + 1) table

/-- Removes every registration of a descriptor. Each round looks at one more of the old rows. -/
def dispatchRemoveFd (fd : Int) (table : Dispatch φ α) : Dispatch φ α :=
  removeFdLoop fd table.numentries 0 table

end Daliserver

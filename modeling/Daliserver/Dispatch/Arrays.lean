import Daliserver.Dispatch.TableLaws

/-! The two arrays behind the dispatch table, field by field as dispatch.c has them. -/

namespace Daliserver

open Machine

/-- What a call of `dispatch_add` asked for, with the number of the call. -/
structure Registration (φ α : Type) where
  number : Nat
  fd : Int
  events : BitVec 16
  readyfn : Option φ
  errorfn : Option φ
  indexfn : Option φ
  arg : Option α
deriving DecidableEq, Repr

/-- An index callback, with the number of the registration it was made for. -/
structure Telling (φ α : Type) where
  number : Nat
  fn : φ
  arg : Option α
  index : Nat
deriving DecidableEq, Repr

/--
The table as two arrays, of which only the rows below the count are in use.

Memory that was not written yet holds anything.
-/
structure Arrays (φ α : Type) where
  numentries : Nat
  allocentries : Nat
  entries : Nat → DispatchEntry φ α
  fds : Nat → PollFd
  -- All registrations ever made and all index callbacks, in order.
  made : List (Registration φ α)
  told : List (Telling φ α)

variable {φ α : Type}

/-- The index callback for a row, unless it is NULL. -/
def tellings (entry : DispatchEntry φ α) (index : Nat) : List (Telling φ α) :=
  match entry.indexfn with
  | none => []
  | some fn => [⟨entry.registration, fn, entry.arg, index⟩]

namespace Arrays

/-- The rows in use. -/
def rows (arrays : Arrays φ α) : List (DispatchEntry φ α × PollFd) :=
  (List.range arrays.numentries).map fun index => (arrays.entries index, arrays.fds index)

/-- Tells a row its index. -/
def tell (index : Nat) (arrays : Arrays φ α) : Arrays φ α :=
  { arrays with told := arrays.told ++ tellings (arrays.entries index) index }

end Arrays

/-- An empty table, before any memory is allocated. -/
def arraysNew (entries : Nat → DispatchEntry φ α) (fds : Nat → PollFd) : Arrays φ α where
  numentries := 0
  allocentries := 0
  entries := entries
  fds := fds
  made := []
  told := []

/-- `dispatch_add`, where reallocation keeps what the arrays hold. -/
def arraysAdd (fd : Int) (events : BitVec 16) (readyfn errorfn indexfn : Option φ)
    (arg : Option α) (arrays : Arrays φ α) : Arrays φ α :=
  if 0 ≤ fd then
    let grown : Arrays φ α := { arrays with
      allocentries :=
        if arrays.allocentries < arrays.numentries + 1 then
          arrays.allocentries + dispatchAllocIncrease
        else arrays.allocentries }
    let index := grown.numentries
    let number := grown.made.length
    let mask := if events = -1 then pollIn else events
    let filled : Arrays φ α := { grown with
      entries := Function.update grown.entries index
        { registration := number, arg, readyfn, errorfn, indexfn }
      fds := Function.update grown.fds index
        { registration := number, fd, events := mask, revents := 0 }
      made := grown.made ++ [{ number, fd, events := mask, readyfn, errorfn, indexfn, arg }] }
    -- The row is told its index before it counts.
    let told := filled.tell index
    { told with numentries := told.numentries + 1 }
  else arrays

/-- `dispatch_remove`, which copies the last row over the removed one. -/
def arraysRemove (index : Nat) (arrays : Arrays φ α) : Arrays φ α :=
  if index < arrays.numentries then
    let last := arrays.numentries - 1
    let moved := if index = last then arrays else
      let copied : Arrays φ α := { arrays with
        entries := Function.update arrays.entries index
          { registration := (arrays.entries last).registration
            arg := (arrays.entries last).arg
            readyfn := (arrays.entries last).readyfn
            errorfn := (arrays.entries last).errorfn
            indexfn := (arrays.entries last).indexfn }
        fds := Function.update arrays.fds index
          { registration := (arrays.fds last).registration
            fd := (arrays.fds last).fd
            events := (arrays.fds last).events
            revents := (arrays.fds last).revents } }
      copied.tell index
    { moved with numentries := moved.numentries - 1 }
  else arrays

/-- A signed index is below a count. A negative one is compared as a number beyond all counts. -/
def indexBelow (i : Int) (count : Nat) : Prop := 0 ≤ i ∧ i < count

instance (i : Int) (count : Nat) : Decidable (indexBelow i count) :=
  inferInstanceAs (Decidable (0 ≤ i ∧ i < count))

/-- The loop of `dispatch_remove_fd`, which returns nothing if the rounds run out. -/
def arraysRemoveFdLoop (fd : Int) : Nat → Int → Arrays φ α → Option (Arrays φ α)
  | 0, i, arrays => if indexBelow i arrays.numentries then none else some arrays
  | rounds + 1, i, arrays =>
    if indexBelow i arrays.numentries then
      if (arrays.fds i.toNat).fd = fd then
        -- The index is stepped back before the loop steps it forward.
        arraysRemoveFdLoop fd rounds (i - 1 + 1) (arraysRemove i.toNat arrays)
      else arraysRemoveFdLoop fd rounds (i + 1) arrays
    else some arrays

/-- `dispatch_remove_fd`. Each round looks at one more of the old rows. -/
def arraysRemoveFd (fd : Int) (arrays : Arrays φ α) : Arrays φ α :=
  (arraysRemoveFdLoop fd arrays.numentries 0 arrays).getD arrays

/-- Carries out an operation. -/
def arraysStep (arrays : Arrays φ α) : TableOp φ α → Arrays φ α
  | .add fd events readyfn errorfn indexfn arg =>
    arraysAdd fd events readyfn errorfn indexfn arg arrays
  | .remove index => arraysRemove index arrays
  | .removeFd fd => arraysRemoveFd fd arrays

section Rows

@[simp] theorem Arrays.length_rows (arrays : Arrays φ α) :
    arrays.rows.length = arrays.numentries := by
  simp [Arrays.rows]

/-- A row in use is found at its index. -/
theorem Arrays.rows_getElem? {arrays : Arrays φ α} {index : Nat}
    (used : index < arrays.numentries) :
    arrays.rows[index]? = some (arrays.entries index, arrays.fds index) := by
  simp [Arrays.rows, used]

/-- Adding a valid descriptor appends one row. -/
theorem rows_arraysAdd {fd : Int} (valid : 0 ≤ fd) (events : BitVec 16)
    (readyfn errorfn indexfn : Option φ) (arg : Option α) (arrays : Arrays φ α) :
    (arraysAdd fd events readyfn errorfn indexfn arg arrays).rows =
      arrays.rows ++ [(⟨arrays.made.length, arg, readyfn, errorfn, indexfn⟩,
        ⟨arrays.made.length, fd, if events = -1 then pollIn else events, 0⟩)] := by
  unfold arraysAdd
  rw [if_pos valid]
  simp only [Arrays.rows, Arrays.tell]
  rw [List.range_succ, List.map_append, List.map_singleton, Function.update_self,
    Function.update_self]
  -- The write went to the row past the ones in use, so these are unchanged.
  congr 1
  apply List.map_congr_left
  intro index member
  have earlier : index ≠ arrays.numentries := Nat.ne_of_lt (List.mem_range.mp member)
  rw [Function.update_of_ne earlier, Function.update_of_ne earlier]

/-- What is left after a removal, row by row. -/
theorem arraysRemove_eq {index : Nat} {arrays : Arrays φ α} (valid : index < arrays.numentries) :
    let last := arrays.numentries - 1
    let after := arraysRemove index arrays
    after.numentries = last ∧ after.allocentries = arrays.allocentries ∧
      after.made = arrays.made ∧
      ∀ position < last, after.entries position =
          arrays.entries (if position = index then last else position) ∧
        after.fds position = arrays.fds (if position = index then last else position) := by
  unfold arraysRemove
  rw [if_pos valid]
  by_cases final : index = arrays.numentries - 1
  · -- The last row itself is dropped, and no row below it has its index.
    simp only [final, if_true]
    refine ⟨trivial, trivial, trivial, fun position below => ?_⟩
    rw [if_neg (Nat.ne_of_lt below)]
    exact ⟨rfl, rfl⟩
  · -- The removed row now holds the last one, and the others are not written.
    simp only [final, if_false, Arrays.tell]
    refine ⟨trivial, trivial, trivial, fun position below => ?_⟩
    by_cases here : position = index
    · rw [if_pos here, here, Function.update_self, Function.update_self]
      exact ⟨rfl, rfl⟩
    · rw [if_neg here, Function.update_of_ne here, Function.update_of_ne here]
      exact ⟨rfl, rfl⟩

/-- Removing a valid index moves the last row into it. -/
theorem rows_arraysRemove {index : Nat} {arrays : Arrays φ α}
    (valid : index < arrays.numentries) :
    (arraysRemove index arrays).rows = swapRemove arrays.rows index := by
  obtain ⟨fewer, -, -, rest⟩ := arraysRemove_eq valid
  apply List.ext_getElem?
  intro position
  by_cases below : position < arrays.numentries - 1
  · obtain ⟨entry, descriptor⟩ := rest position below
    rw [Arrays.rows_getElem? (by omega), entry, descriptor,
      getElem?_swapRemove _ (by simpa using valid) (by rw [Arrays.length_rows]; omega)]
    by_cases here : position = index
    · rw [if_pos here, if_pos here, List.getLast?_eq_getElem?, Arrays.length_rows,
        Arrays.rows_getElem? (by omega)]
    · rw [if_neg here, if_neg here, Arrays.rows_getElem? (by omega)]
  · -- Both sides have ended here.
    rw [List.getElem?_eq_none (by rw [Arrays.length_rows]; omega),
      List.getElem?_eq_none (by rw [length_swapRemove, Arrays.length_rows]; omega)]

/-- A new row is recorded as it was asked for. -/
theorem made_arraysAdd {fd : Int} (valid : 0 ≤ fd) (events : BitVec 16)
    (readyfn errorfn indexfn : Option φ) (arg : Option α) (arrays : Arrays φ α) :
    (arraysAdd fd events readyfn errorfn indexfn arg arrays).made = arrays.made ++
      [⟨arrays.made.length, fd, if events = -1 then pollIn else events, readyfn, errorfn,
        indexfn, arg⟩] := by
  simp [arraysAdd, valid, Arrays.tell]

/-- A new row is told its index. -/
theorem told_arraysAdd {fd : Int} (valid : 0 ≤ fd) (events : BitVec 16)
    (readyfn errorfn indexfn : Option φ) (arg : Option α) (arrays : Arrays φ α) :
    (arraysAdd fd events readyfn errorfn indexfn arg arrays).told = arrays.told ++
      tellings ⟨arrays.made.length, arg, readyfn, errorfn, indexfn⟩ arrays.numentries := by
  unfold arraysAdd
  rw [if_pos valid]
  simp only [Arrays.tell, Function.update_self]

/-- A row that moves is told its new index. -/
theorem told_arraysRemove {index : Nat} {arrays : Arrays φ α}
    (valid : index < arrays.numentries) :
    (arraysRemove index arrays).told = arrays.told ++
      if index = arrays.numentries - 1 then []
      else tellings (arrays.entries (arrays.numentries - 1)) index := by
  unfold arraysRemove
  rw [if_pos valid]
  by_cases final : index = arrays.numentries - 1
  · -- Nothing moves into the place of the last row.
    simp only [final, if_true, List.append_nil]
  · simp only [final, if_false, Arrays.tell, Function.update_self]

end Rows

/-- The arrays hold the rows of the table. -/
structure Mirrors (arrays : Arrays φ α) (table : Dispatch φ α) : Prop where
  rows : arrays.rows = table.slots
  allocentries : arrays.allocentries = table.allocentries
  counted : arrays.made.length = table.registrations

namespace Mirrors

variable {arrays : Arrays φ α} {table : Dispatch φ α}

theorem numentries (mirrors : Mirrors arrays table) : arrays.numentries = table.numentries := by
  rw [← Arrays.length_rows, mirrors.rows, Dispatch.length_slots]

/-- Adding a descriptor does the same to both. -/
theorem add (mirrors : Mirrors arrays table) (fd : Int) (events : BitVec 16)
    (readyfn errorfn indexfn : Option φ) (arg : Option α) :
    Mirrors (arraysAdd fd events readyfn errorfn indexfn arg arrays)
      (dispatchAdd fd events readyfn errorfn indexfn arg table) := by
  by_cases valid : 0 ≤ fd
  · refine ⟨?_, ?_, ?_⟩
    · rw [rows_arraysAdd valid, slots_dispatchAdd valid, mirrors.rows, mirrors.counted, addedSlot]
    · have same := mirrors.allocentries
      have count := mirrors.numentries
      simp [arraysAdd, dispatchAdd, valid, Arrays.tell, same, count]
    · have count := mirrors.counted
      simp [made_arraysAdd valid, dispatchAdd, valid, count]
  · -- A negative descriptor is refused by both.
    rw [arraysAdd, dispatchAdd, if_neg valid, if_neg valid]
    exact mirrors

/-- Removing an index does the same to both. -/
theorem remove (mirrors : Mirrors arrays table) (index : Nat) :
    Mirrors (arraysRemove index arrays) (dispatchRemove index table) := by
  have count := mirrors.numentries
  by_cases valid : index < arrays.numentries
  · have inside : index < table.numentries := by omega
    obtain ⟨-, capacity, made, -⟩ := arraysRemove_eq valid
    refine ⟨?_, ?_, ?_⟩
    · rw [rows_arraysRemove valid, slots_dispatchRemove inside, mirrors.rows]
    · rw [capacity, mirrors.allocentries, dispatchRemove, dif_pos inside]
    · rw [made, mirrors.counted, dispatchRemove, dif_pos inside]
  · -- An index out of range is refused by both.
    rw [arraysRemove, dispatchRemove, if_neg valid, dif_neg (by omega)]
    exact mirrors

/-- The loops of both go through the same rows, and the one on the arrays ends by itself. -/
theorem removeFdLoop (fd : Int) {rounds index : Nat} {arrays : Arrays φ α}
    {table : Dispatch φ α} (mirrors : Mirrors arrays table)
    (enough : arrays.numentries - index ≤ rounds) :
    ∃ after, arraysRemoveFdLoop fd rounds index arrays = some after ∧
      Mirrors after (Daliserver.removeFdLoop fd rounds index table) := by
  -- Each round removes a row or passes one, so the rows not yet seen get fewer.
  induction rounds generalizing index arrays table with
  | zero =>
    refine ⟨arrays, ?_, mirrors⟩
    rw [arraysRemoveFdLoop, if_neg]
    rintro ⟨-, below⟩
    omega
  | succ rounds ih =>
    have count := mirrors.numentries
    by_cases valid : index < arrays.numentries
    · have below : indexBelow index arrays.numentries := ⟨by omega, by omega⟩
      have found : table.fds[index]? = some (arrays.fds index) := by
        rw [← table.slots_snd, ← mirrors.rows, List.getElem?_map, Arrays.rows_getElem? valid]
        rfl
      rw [arraysRemoveFdLoop, if_pos below, Daliserver.removeFdLoop, found]
      simp only [Int.toNat_natCast]
      by_cases matched : (arrays.fds index).fd = fd
      · -- The moved row is looked at next, at the same index.
        simp only [matched, if_true]
        have same : (index : Int) - 1 + 1 = index := by omega
        rw [same]
        have fewer := (arraysRemove_eq valid).1
        exact ih (mirrors.remove index) (by omega)
      · simp only [matched, if_false]
        have next : (index : Int) + 1 = (index + 1 : Nat) := by omega
        have fewer : arrays.numentries - (index + 1) ≤ rounds := by omega
        rw [next]
        exact ih mirrors fewer
    · -- Past the last row both loops stop.
      refine ⟨arrays, ?_, ?_⟩
      · rw [arraysRemoveFdLoop, if_neg]
        rintro ⟨-, below⟩
        omega
      · have past : table.fds[index]? = none := List.getElem?_eq_none (by
          rw [count] at valid
          exact Nat.le_of_not_lt valid)
        rw [Daliserver.removeFdLoop, past]
        exact mirrors

end Mirrors

/-- More rounds than the loop needs change nothing. -/
theorem arraysRemoveFdLoop_more {fd : Int} {rounds more : Nat} {i : Int}
    {arrays after : Arrays φ α} (returned : arraysRemoveFdLoop fd rounds i arrays = some after)
    (further : rounds ≤ more) : arraysRemoveFdLoop fd more i arrays = some after := by
  induction rounds generalizing more i arrays with
  | zero =>
    -- Without a round left, the loop returns only if its condition is false.
    rw [arraysRemoveFdLoop] at returned
    by_cases below : indexBelow i arrays.numentries
    · simp [below] at returned
    · rw [if_neg below] at returned
      cases more <;> simp [arraysRemoveFdLoop, below, returned]
  | succ rounds ih =>
    -- Both counts have a round to spend, and the loops take the same branch with it.
    obtain ⟨more, rfl⟩ : ∃ less, more = less + 1 := ⟨more - 1, by omega⟩
    rw [arraysRemoveFdLoop] at returned ⊢
    by_cases below : indexBelow i arrays.numentries
    · rw [if_pos below] at returned ⊢
      by_cases matched : (arrays.fds i.toNat).fd = fd
      · rw [if_pos matched] at returned ⊢
        exact ih returned (by omega)
      · rw [if_neg matched] at returned ⊢
        exact ih returned (by omega)
    · rwa [if_neg below] at returned ⊢

/-- Removing a descriptor does the same to both. -/
theorem Mirrors.removeFd {arrays : Arrays φ α} {table : Dispatch φ α}
    (mirrors : Mirrors arrays table) (fd : Int) :
    Mirrors (arraysRemoveFd fd arrays) (dispatchRemoveFd fd table) ∧
      ∀ rounds ≥ arrays.numentries,
        arraysRemoveFdLoop fd rounds 0 arrays = some (arraysRemoveFd fd arrays) := by
  have enough : arrays.numentries - 0 ≤ arrays.numentries := Nat.le_refl _
  obtain ⟨after, returned, same⟩ := mirrors.removeFdLoop fd enough
  have result : arraysRemoveFd fd arrays = after := by
    rw [arraysRemoveFd]
    exact congrArg (·.getD arrays) returned
  rw [mirrors.numentries] at same
  rw [result]
  exact ⟨same, fun rounds further => arraysRemoveFdLoop_more returned further⟩

end Daliserver

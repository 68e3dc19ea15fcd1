import Daliserver.Dispatch.Arrays
import Daliserver.Machine.Run
import Mathlib.Data.Multiset.Filter

/-! The dispatch table is a collection of registrations, each of which knows where it is. -/

namespace Daliserver

open Machine

variable {φ α : Type}

/-- The registration that a row describes, taken from both arrays. -/
def registrationOf (row : DispatchEntry φ α × PollFd) : Registration φ α where
  number := row.1.registration
  fd := row.2.fd
  events := row.2.events
  readyfn := row.1.readyfn
  errorfn := row.1.errorfn
  indexfn := row.1.indexfn
  arg := row.1.arg

/-- The registrations that are in the table, whatever their positions. -/
def Arrays.collection (arrays : Arrays φ α) : Multiset (Registration φ α) :=
  (arrays.rows.map registrationOf : List (Registration φ α))

/-- No two rows have the same number. -/
theorem Mirrors.distinct {arrays : Arrays φ α} {table : Dispatch φ α}
    (mirrors : Mirrors arrays table) : (arrays.rows.map (·.1.registration)).Nodup := by
  rw [mirrors.rows, List.map_congr_left fun slot member => Dispatch.slot_paired member]
  exact table.slots_distinct

/-- The index callback that was made last for a registration. -/
def lastTold (number : Nat) (told : List (Telling φ α)) : Option (Telling φ α) :=
  told.reverse.find? (·.number = number)

/-- What is told to a row is what it was told last. -/
theorem lastTold_self {entry : DispatchEntry φ α} {fn : φ} (wanted : entry.indexfn = some fn)
    (told : List (Telling φ α)) (index : Nat) :
    lastTold entry.registration (told ++ tellings entry index) =
      some ⟨entry.registration, fn, entry.arg, index⟩ := by
  simp [lastTold, tellings, wanted]

/-- What is told to a row is not told to others. -/
theorem lastTold_other {entry : DispatchEntry φ α} {number : Nat}
    (other : number ≠ entry.registration) (told : List (Telling φ α)) (index : Nat) :
    lastTold number (told ++ tellings entry index) = lastTold number told := by
  have apart : ¬ entry.registration = number := fun same => other same.symm
  unfold tellings
  cases entry.indexfn with
  -- Without a callback nothing is told at all.
  | none => simp
  | some fn => simp [lastTold, apart]

/-- Rows are registrations that were made, and they know where they are. -/
structure Informed (arrays : Arrays φ α) : Prop where
  genuine : ∀ row ∈ arrays.rows,
    arrays.made[row.1.registration]? = some (registrationOf row)
  told : ∀ index row fn, arrays.rows[index]? = some row → row.1.indexfn = some fn →
    lastTold row.1.registration arrays.told = some ⟨row.1.registration, fn, row.1.arg, index⟩

namespace Informed

variable {arrays : Arrays φ α} {table : Dispatch φ α}

/-- A row in use has one of the numbers given out so far. -/
theorem numbered (informed : Informed arrays) {row : DispatchEntry φ α × PollFd}
    (member : row ∈ arrays.rows) : row.1.registration < arrays.made.length :=
  (List.getElem?_eq_some_iff.mp (informed.genuine row member)).1

/-- A new row is told its index, and its number is that of no other row. -/
theorem add (informed : Informed arrays) (fd : Int) (events : BitVec 16)
    (readyfn errorfn indexfn : Option φ) (arg : Option α) :
    Informed (arraysAdd fd events readyfn errorfn indexfn arg arrays) := by
  by_cases valid : 0 ≤ fd
  · refine ⟨?_, ?_⟩
    · intro row member
      rw [rows_arraysAdd valid, List.mem_append, List.mem_singleton] at member
      rw [made_arraysAdd valid]
      rcases member with old | rfl
      · -- Older numbers are looked up in the part of the record that was there before.
        rw [List.getElem?_append_left (informed.numbered old)]
        exact informed.genuine row old
      · simp [registrationOf]
    · intro index row fn found wanted
      rw [told_arraysAdd valid]
      rw [rows_arraysAdd valid] at found
      by_cases earlier : index < arrays.rows.length
      · rw [List.getElem?_append_left earlier] at found
        have below := informed.numbered (List.mem_of_getElem? found)
        rw [lastTold_other (Nat.ne_of_lt below)]
        exact informed.told index row fn found wanted
      · -- The new row is the only one that is not below the old count.
        have bound := (List.getElem?_eq_some_iff.mp found).1
        rw [List.length_append, List.length_singleton] at bound
        have here : index = arrays.rows.length := by omega
        rw [here, List.getElem?_concat_length] at found
        cases found
        rw [here, Arrays.length_rows]
        exact lastTold_self wanted _ _
  · rw [arraysAdd, if_neg valid]
    exact informed

/-- The row that moves is told its new index, and the others stay where they are. -/
theorem remove (informed : Informed arrays) (mirrors : Mirrors arrays table) (index : Nat) :
    Informed (arraysRemove index arrays) := by
  by_cases valid : index < arrays.numentries
  · have inside : index < arrays.rows.length := by rwa [Arrays.length_rows]
    refine ⟨?_, ?_⟩
    · intro row member
      rw [rows_arraysRemove valid] at member
      rw [(arraysRemove_eq valid).2.2.1]
      exact informed.genuine row (mem_of_mem_swapRemove inside member)
    · intro position row fn found wanted
      have bound := (List.getElem?_eq_some_iff.mp found).1
      rw [rows_arraysRemove valid] at found bound
      rw [length_swapRemove, Arrays.length_rows] at bound
      rw [getElem?_swapRemove _ inside (by rw [Arrays.length_rows]; omega)] at found
      have end_ : arrays.rows[arrays.numentries - 1]? = some _ :=
        Arrays.rows_getElem? (by omega)
      rw [told_arraysRemove valid]
      by_cases here : position = index
      · -- The last row has moved here.
        rw [if_pos here, List.getLast?_eq_getElem?, Arrays.length_rows, end_] at found
        cases found
        rw [if_neg (by omega), here]
        exact lastTold_self wanted _ _
      · rw [if_neg here] at found
        -- The only other telling is for the last row, and numbers are distinct.
        have apart : row.1.registration ≠
            (arrays.entries (arrays.numentries - 1)).registration := by
          intro same
          have clash : (arrays.rows.map (·.1.registration))[position]? =
              (arrays.rows.map (·.1.registration))[arrays.numentries - 1]? := by
            rw [List.getElem?_map, List.getElem?_map, found, end_]
            simp [same]
          rw [List.getElem?_inj (by simp; omega) mirrors.distinct] at clash
          omega
        have kept := informed.told position row fn found wanted
        by_cases final : index = arrays.numentries - 1
        · rwa [if_pos final, List.append_nil]
        · rwa [if_neg final, lastTold_other apart]
  · rw [arraysRemove, if_neg valid]
    exact informed

/-- The loop that removes a descriptor removes one row after the other. -/
theorem removeFdLoop {fd : Int} {rounds : Nat} {i : Int} {arrays after : Arrays φ α}
    {table : Dispatch φ α} (informed : Informed arrays) (mirrors : Mirrors arrays table)
    (returned : arraysRemoveFdLoop fd rounds i arrays = some after) : Informed after := by
  -- The table follows along, because a removal needs it to know that numbers are distinct.
  induction rounds generalizing i arrays table with
  | zero =>
    rw [arraysRemoveFdLoop] at returned
    split at returned
    · cases returned
    · cases returned
      exact informed
  | succ rounds ih =>
    rw [arraysRemoveFdLoop] at returned
    split at returned
    · split at returned
      · exact ih (informed.remove mirrors _) (mirrors.remove _) returned
      · exact ih informed mirrors returned
    · cases returned
      exact informed

/-- Removing a descriptor leaves rows that know where they are. -/
theorem removeFd (informed : Informed arrays) (mirrors : Mirrors arrays table) (fd : Int) :
    Informed (arraysRemoveFd fd arrays) :=
  informed.removeFdLoop mirrors ((mirrors.removeFd fd).2 _ (Nat.le_refl _))

end Informed

/-- Any operation keeps the arrays in step with a table, and the rows informed. -/
theorem informed_arraysStep (arrays : Arrays φ α) (op : TableOp φ α)
    (held : Informed arrays ∧ ∃ table, Mirrors arrays table) :
    Informed (arraysStep arrays op) ∧ ∃ table, Mirrors (arraysStep arrays op) table := by
  obtain ⟨informed, table, mirrors⟩ := held
  cases op with
  | add fd events readyfn errorfn indexfn arg =>
    exact ⟨informed.add fd events readyfn errorfn indexfn arg, _,
      mirrors.add fd events readyfn errorfn indexfn arg⟩
  | remove index => exact ⟨informed.remove mirrors index, _, mirrors.remove index⟩
  | removeFd fd => exact ⟨informed.removeFd mirrors fd, _, (mirrors.removeFd fd).1⟩

/-- Any number of operations keeps the arrays in step with a table, and the rows informed. -/
theorem informed_run (entries : Nat → DispatchEntry φ α) (fds : Nat → PollFd)
    (ops : List (TableOp φ α)) :
    Informed (run arraysStep (arraysNew entries fds) ops) ∧
      ∃ table, Mirrors (run arraysStep (arraysNew entries fds) ops) table := by
  have empty : Informed (arraysNew entries fds) :=
    ⟨by simp [Arrays.rows, arraysNew], by simp [Arrays.rows, arraysNew]⟩
  exact run_invariant informed_arraysStep ⟨empty, dispatchNew, rfl, rfl, rfl⟩ ops

/-- Adding a descriptor adds its registration. -/
theorem collection_arraysAdd {fd : Int} (valid : 0 ≤ fd) (events : BitVec 16)
    (readyfn errorfn indexfn : Option φ) (arg : Option α) (arrays : Arrays φ α) :
    (arraysAdd fd events readyfn errorfn indexfn arg arrays).collection =
      ⟨arrays.made.length, fd, if events = -1 then pollIn else events, readyfn, errorfn,
        indexfn, arg⟩ ::ₘ arrays.collection := by
  rw [Arrays.collection, Arrays.collection, rows_arraysAdd valid, List.map_append,
    Multiset.cons_coe]
  -- The row is appended at the end, which makes no difference to a collection.
  exact Multiset.coe_eq_coe.mpr List.perm_append_comm

/-- Removing a row removes its registration. -/
theorem collection_arraysRemove {index : Nat} {arrays : Arrays φ α}
    (valid : index < arrays.numentries) :
    arrays.collection = registrationOf (arrays.entries index, arrays.fds index) ::ₘ
      (arraysRemove index arrays).collection := by
  rw [Arrays.collection, Arrays.collection, rows_arraysRemove valid, Multiset.cons_coe,
    ← List.map_cons]
  exact Multiset.coe_eq_coe.mpr ((perm_swapRemove (Arrays.rows_getElem? valid)).map _)

/-- Removing a descriptor removes all of its registrations. -/
theorem collection_arraysRemoveFd {arrays : Arrays φ α} {table : Dispatch φ α}
    (mirrors : Mirrors arrays table) (fd : Int) :
    (arraysRemoveFd fd arrays).collection =
      arrays.collection.filter fun registration => registration.fd ≠ fd := by
  have kept := (perm_dispatchRemoveFd fd table).map registrationOf
  rw [Arrays.collection, Arrays.collection, (mirrors.removeFd fd).1.rows, mirrors.rows,
    Multiset.filter_coe, List.filter_map]
  exact Multiset.coe_eq_coe.mpr kept

/--
The table is a collection of registrations, whatever is done to it.

Numbers name the calls of `dispatch_add`, so that equal registrations are told apart.
-/
theorem dispatch_refines_collection (entries : Nat → DispatchEntry φ α) (fds : Nat → PollFd)
    (ops : List (TableOp φ α)) :
    let arrays := run arraysStep (arraysNew entries fds) ops
    arrays.numentries ≤ arrays.allocentries ∧
    (∀ index < arrays.numentries,
      (arrays.entries index).registration = (arrays.fds index).registration ∧
      arrays.made[(arrays.entries index).registration]? =
        some (registrationOf (arrays.entries index, arrays.fds index))) ∧
    (arrays.collection.map (·.number)).Nodup ∧
    (∀ fd events readyfn errorfn indexfn arg, 0 ≤ fd →
      (arraysAdd fd events readyfn errorfn indexfn arg arrays).collection =
        ⟨arrays.made.length, fd, if events = -1 then pollIn else events, readyfn, errorfn,
          indexfn, arg⟩ ::ₘ arrays.collection) ∧
    (∀ index < arrays.numentries,
      arrays.collection = registrationOf (arrays.entries index, arrays.fds index) ::ₘ
        (arraysRemove index arrays).collection) ∧
    (∀ index ≥ arrays.numentries, arraysRemove index arrays = arrays) ∧
    (∀ fd, (∀ rounds ≥ arrays.numentries,
        arraysRemoveFdLoop fd rounds 0 arrays = some (arraysRemoveFd fd arrays)) ∧
      (arraysRemoveFd fd arrays).collection =
        arrays.collection.filter fun registration => registration.fd ≠ fd) ∧
    ∀ index < arrays.numentries, ∀ fn, (arrays.entries index).indexfn = some fn →
      lastTold (arrays.entries index).registration arrays.told =
        some ⟨(arrays.entries index).registration, fn, (arrays.entries index).arg, index⟩ := by
  intro arrays
  obtain ⟨informed, table, mirrors⟩ := informed_run entries fds ops
  have row : ∀ index < arrays.numentries,
      arrays.rows[index]? = some (arrays.entries index, arrays.fds index) :=
    fun index used => Arrays.rows_getElem? used
  refine ⟨?_, fun index used => ⟨?_, ?_⟩, ?_, ?_, ?_, ?_, fun fd => ⟨?_, ?_⟩, ?_⟩
  · rw [mirrors.numentries, mirrors.allocentries]
    exact table.fits
  · -- Both arrays have the same registration at an index.
    have member := List.mem_of_getElem? (row index used)
    rw [mirrors.rows] at member
    exact Dispatch.slot_paired member
  · exact informed.genuine _ (List.mem_of_getElem? (row index used))
  · rw [Arrays.collection, Multiset.map_coe, List.map_map, Multiset.coe_nodup]
    exact mirrors.distinct
  · exact fun fd events readyfn errorfn indexfn arg valid =>
      collection_arraysAdd valid events readyfn errorfn indexfn arg arrays
  · exact fun index used => collection_arraysRemove used
  · exact fun index past => by rw [arraysRemove, if_neg (Nat.not_lt.mpr past)]
  · exact (mirrors.removeFd fd).2
  · exact collection_arraysRemoveFd mirrors fd
  · exact fun index used fn wanted => informed.told index _ fn (row index used) wanted

end Daliserver

import Daliserver.Dispatch.Table

/-! What the operations on the dispatch table can do to its rows, stated once for all of them. -/

namespace Daliserver

open Machine

variable {φ α : Type}

/-- The callbacks among the things that happened. -/
def calls (effects : List (DispatchEffect φ α)) : List (Call φ α) :=
  effects.filterMap fun effect => match effect with
    | .called call => some call
    | _ => none

@[simp] theorem calls_append (first second : List (DispatchEffect φ α)) :
    calls (first ++ second) = calls first ++ calls second := List.filterMap_append

/-- A callback is listed exactly if it was made. -/
theorem mem_calls {effects : List (DispatchEffect φ α)} {call : Call φ α} :
    call ∈ calls effects ↔ .called call ∈ effects := by
  rw [calls, List.mem_filterMap]
  constructor
  · rintro ⟨effect, member, listed⟩
    -- Only a call is listed, and it is listed as itself.
    cases effect <;> simp at listed
    subst listed
    exact member
  · exact fun member => ⟨_, member, rfl⟩

/--
How the table may differ after some operations on it.

Rows may disappear and move towards the front, and new rows have no event reported yet.
-/
structure Changed (before : Dispatch φ α) (effects : List (DispatchEffect φ α))
    (after : Dispatch φ α) : Prop where
  trace : after.trace = before.trace ++ effects
  uncalled : calls effects = []
  counter : before.registrations ≤ after.registrations
  -- Behind any position there are only rows that were behind it before, or new ones.
  later : ∀ position, ∀ slot ∈ after.slots.drop position, slot ∈ before.slots.drop position ∨
    slot.2.revents = 0 ∧ before.registrations ≤ slot.2.registration
  gone : ∀ registration, .removed registration ∈ effects →
    registration < after.registrations ∧ ∀ slot ∈ after.slots, slot.2.registration ≠ registration
  fresh : ∀ registration, .added registration ∈ effects → before.registrations ≤ registration
  kept : (∀ registration, .removed registration ∉ effects) →
    ∃ added, after.slots = before.slots ++ added ∧ ∀ slot ∈ added, slot.2.revents = 0

/-- Doing nothing changes nothing. -/
theorem Changed.refl (table : Dispatch φ α) : Changed table [] table where
  trace := by simp
  uncalled := rfl
  counter := Nat.le_refl _
  later := fun _ _ member => .inl member
  gone := by simp
  fresh := by simp
  kept := fun _ => ⟨[], by simp, by simp⟩

/-- Changes made one after the other are one change. -/
theorem Changed.trans {first second third : Dispatch φ α}
    {earlier later : List (DispatchEffect φ α)} (one : Changed first earlier second)
    (two : Changed second later third) : Changed first (earlier ++ later) third where
  trace := by rw [two.trace, one.trace, List.append_assoc]
  uncalled := by rw [calls_append, one.uncalled, two.uncalled, List.append_nil]
  counter := Nat.le_trans one.counter two.counter
  later := by
    intro position slot member
    rcases two.later position slot member with moved | ⟨silent, new⟩
    · exact one.later position slot moved
    · exact .inr ⟨silent, Nat.le_trans one.counter new⟩
  gone := by
    intro registration member
    rcases List.mem_append.mp member with before | after
    · -- A number that was used once never comes back, because the counter is past it.
      obtain ⟨below, absent⟩ := one.gone registration before
      refine ⟨Nat.lt_of_lt_of_le below two.counter, fun slot found same => ?_⟩
      rcases two.later 0 slot (by simpa using found) with old | ⟨_, new⟩
      · exact absent slot (by simpa using old) same
      · omega
    · exact two.gone registration after
  fresh := by
    intro registration member
    rcases List.mem_append.mp member with before | after
    · exact one.fresh registration before
    · exact Nat.le_trans one.counter (two.fresh registration after)
  kept := by
    intro nothing
    obtain ⟨added, rows, silent⟩ := one.kept
      fun registration member => nothing registration (List.mem_append_left _ member)
    obtain ⟨more, grown, quiet⟩ := two.kept
      fun registration member => nothing registration (List.mem_append_right _ member)
    refine ⟨added ++ more, by rw [grown, rows, List.append_assoc], ?_⟩
    intro slot member
    rcases List.mem_append.mp member with old | new
    · exact silent slot old
    · exact quiet slot new

/-- Telling an entry its position leaves a mark in the trace at most. -/
theorem callIndexfn_trace (entry : DispatchEntry φ α) (index : Nat) (table : Dispatch φ α) :
    ∃ told, (callIndexfn entry index table).trace = table.trace ++ told ∧
      ∀ effect ∈ told, ∃ fn arg position, effect = .indexed fn arg position := by
  -- An index callback may be absent, in which case nothing is told to anyone.
  unfold callIndexfn
  cases entry.indexfn with
  | none => exact ⟨[], by simp, by simp⟩
  | some fn => exact ⟨[.indexed fn entry.arg index], rfl, by simp⟩

/-- Marks left by index callbacks are neither calls, additions, nor removals. -/
theorem marks_only {told : List (DispatchEffect φ α)}
    (marks : ∀ effect ∈ told, ∃ fn arg position, effect = .indexed fn arg position) :
    calls told = [] ∧ (∀ registration, .removed registration ∉ told) ∧
      ∀ registration, .added registration ∉ told := by
  -- An index mark is neither a call nor an addition nor a removal.
  refine ⟨?_, ?_, ?_⟩
  · rw [List.eq_nil_iff_forall_not_mem]
    intro call member
    obtain ⟨_, _, _, same⟩ := marks _ (mem_calls.mp member)
    cases same
  all_goals
    intro registration member
    obtain ⟨_, _, _, same⟩ := marks _ member
    cases same

/-- The row that a registration makes. -/
def addedSlot (fd : Int) (events : BitVec 16) (readyfn errorfn indexfn : Option φ)
    (arg : Option α) (table : Dispatch φ α) : DispatchEntry φ α × PollFd :=
  (⟨table.registrations, arg, readyfn, errorfn, indexfn⟩,
    ⟨table.registrations, fd, if events = -1 then pollIn else events, 0⟩)

/-- Adding a valid descriptor appends one row. -/
theorem slots_dispatchAdd {fd : Int} (valid : 0 ≤ fd) (events : BitVec 16)
    (readyfn errorfn indexfn : Option φ) (arg : Option α) (table : Dispatch φ α) :
    (dispatchAdd fd events readyfn errorfn indexfn arg table).slots =
      table.slots ++ [addedSlot fd events readyfn errorfn indexfn arg table] := by
  -- Both arrays grow at the end by one, and the new halves meet in the last slot.
  unfold dispatchAdd
  rw [if_pos valid]
  exact List.zip_append table.length_entries

/-- Removing a valid position moves the last row into it. -/
theorem slots_dispatchRemove {index : Nat} {table : Dispatch φ α}
    (valid : index < table.numentries) :
    (dispatchRemove index table).slots = swapRemove table.slots index := by
  -- Both arrays lose the same row in the same way, so the slots do too.
  unfold dispatchRemove
  rw [dif_pos valid]
  exact zip_swapRemove table.length_entries index

/-- Adding a descriptor is a change. -/
theorem changed_dispatchAdd (fd : Int) (events : BitVec 16) (readyfn errorfn indexfn : Option φ)
    (arg : Option α) (table : Dispatch φ α) :
    ∃ effects, Changed table effects (dispatchAdd fd events readyfn errorfn indexfn arg table) := by
  by_cases valid : 0 ≤ fd
  · obtain ⟨told, noted, marks⟩ := callIndexfn_trace
      ⟨table.registrations, arg, readyfn, errorfn, indexfn⟩ table.numentries table
    obtain ⟨uncalled, unremoved, unadded⟩ := marks_only marks
    have rows := slots_dispatchAdd valid events readyfn errorfn indexfn arg table
    have count : (dispatchAdd fd events readyfn errorfn indexfn arg table).registrations =
        table.registrations + 1 := by
      unfold dispatchAdd
      rw [if_pos valid]
    refine ⟨told ++ [.added table.registrations], ?_, ?_, ?_, ?_, ?_, ?_, ?_⟩
    · unfold dispatchAdd
      rw [if_pos valid]
      show _ ++ [_] = _
      rw [noted, List.append_assoc]
    · rw [calls_append, uncalled]
      rfl
    · omega
    · intro position slot member
      rw [rows, List.drop_append] at member
      rcases List.mem_append.mp member with old | new
      · exact .inl old
      · -- Whatever is dropped, the only new row is the added one.
        have added := List.mem_singleton.mp (List.mem_of_mem_drop new)
        rw [added]
        exact .inr ⟨rfl, Nat.le_refl _⟩
    · intro registration member
      rcases List.mem_append.mp member with before | last
      · exact absurd before (unremoved registration)
      · simp at last
    · intro registration member
      rcases List.mem_append.mp member with before | last
      · exact absurd before (unadded registration)
      · simp only [List.mem_singleton, DispatchEffect.added.injEq] at last
        exact Nat.le_of_eq last.symm
    · intro _
      refine ⟨[addedSlot fd events readyfn errorfn indexfn arg table], rows, ?_⟩
      intro slot member
      rw [List.mem_singleton.mp member]
      rfl
  · -- An invalid descriptor is not registered.
    refine ⟨[], ?_⟩
    unfold dispatchAdd
    rw [if_neg valid]
    exact Changed.refl table

/-- Removing a position is a change. -/
theorem changed_dispatchRemove (index : Nat) (table : Dispatch φ α) :
    ∃ effects, Changed table effects (dispatchRemove index table) := by
  by_cases valid : index < table.numentries
  · have inside : index < table.slots.length := by rwa [Dispatch.length_slots]
    have rows := slots_dispatchRemove valid
    have same : (dispatchRemove index table).registrations = table.registrations := by
      unfold dispatchRemove
      rw [dif_pos valid]
    -- The removed row is somewhere among the old ones, and nowhere among those that remain.
    obtain ⟨removed, found⟩ : ∃ removed, table.slots[index]? = some removed :=
      ⟨_, List.getElem?_eq_getElem inside⟩
    have named : (table.fds.get ⟨index, valid⟩).registration = removed.2.registration := by
      have second := congrArg (·[index]?) table.slots_snd
      rw [List.getElem?_map, found, List.getElem?_eq_getElem valid] at second
      exact (congrArg PollFd.registration (Option.some.inj second)).symm
    have absent : ∀ slot ∈ (dispatchRemove index table).slots,
        slot.2.registration ≠ removed.2.registration := by
      intro slot member same
      have shuffled := (perm_swapRemove found).map (·.2.registration)
      have distinct := shuffled.nodup_iff.mp table.slots_distinct
      rw [List.map_cons, List.nodup_cons] at distinct
      rw [rows] at member
      exact distinct.1 (List.mem_map.mpr ⟨slot, member, same⟩)
    obtain ⟨told, noted, marks⟩ : ∃ told, (dispatchRemove index table).trace =
        table.trace ++ told ++ [.removed removed.2.registration] ∧
        ∀ effect ∈ told, ∃ fn arg position, effect = .indexed fn arg position := by
      unfold dispatchRemove
      rw [dif_pos valid]
      simp only [named]
      by_cases last : index + 1 = table.numentries
      · exact ⟨[], by simp [last], by simp⟩
      · cases ends : table.entries.getLast? with
        | none => exact ⟨[], by simp [last], by simp⟩
        | some entry =>
          obtain ⟨told, noted, marks⟩ := callIndexfn_trace entry index table
          exact ⟨told, by simp [last, noted], marks⟩
    obtain ⟨uncalled, unremoved, unadded⟩ := marks_only marks
    refine ⟨told ++ [.removed removed.2.registration], ?_, ?_, ?_, ?_, ?_, ?_, ?_⟩
    · rw [noted, List.append_assoc]
    · rw [calls_append, uncalled]
      rfl
    · exact Nat.le_of_eq same.symm
    · intro position slot member
      rw [rows] at member
      exact .inl (mem_drop_of_mem_drop_swapRemove inside member)
    · intro registration member
      rcases List.mem_append.mp member with before | last
      · exact absurd before (unremoved registration)
      · simp only [List.mem_singleton, DispatchEffect.removed.injEq] at last
        rw [last, same]
        exact ⟨table.slot_numbered (List.mem_of_getElem? found), absent⟩
    · intro registration member
      rcases List.mem_append.mp member with before | last
      · exact absurd before (unadded registration)
      · simp at last
    · exact fun nothing => absurd (List.mem_append_right told (List.mem_singleton_self _))
        (nothing removed.2.registration)
  · refine ⟨[], ?_⟩
    unfold dispatchRemove
    rw [dif_neg valid]
    exact Changed.refl table

/-- Removing a descriptor is a change. -/
theorem changed_removeFdLoop (fd : Int) (rounds index : Nat) (table : Dispatch φ α) :
    ∃ effects, Changed table effects (removeFdLoop fd rounds index table) := by
  -- The loop is a sequence of removals, each recorded by the removal lemma.
  induction rounds generalizing index table with
  | zero => exact ⟨[], Changed.refl table⟩
  | succ rounds ih =>
    unfold removeFdLoop
    cases table.fds[index]? with
    | none => exact ⟨[], Changed.refl table⟩
    | some pollfd =>
      by_cases matched : pollfd.fd = fd
      · simp only [matched, if_true]
        obtain ⟨first, one⟩ := changed_dispatchRemove index table
        obtain ⟨second, two⟩ := ih index (dispatchRemove index table)
        exact ⟨first ++ second, one.trans two⟩
      · simp only [matched, if_false]
        exact ih (index + 1) table

/-- The number of rows after a removal. -/
theorem numentries_dispatchRemove {index : Nat} {table : Dispatch φ α}
    (valid : index < table.numentries) :
    (dispatchRemove index table).numentries = table.numentries - 1 := by
  rw [← Dispatch.length_slots, slots_dispatchRemove valid, length_swapRemove,
    Dispatch.length_slots]

/-- At the end of the table every row has been checked, so there is nothing left to remove. -/
theorem filter_of_checked {fd : Int} {index : Nat} {table : Dispatch φ α}
    (checked : ∀ slot ∈ table.slots.take index, slot.2.fd ≠ fd)
    (past : table.numentries ≤ index) :
    table.slots.filter (fun slot => slot.2.fd ≠ fd) = table.slots := by
  -- Once the loop is past the end, every slot has been compared.
  rw [List.take_of_length_le (by rwa [Dispatch.length_slots])] at checked
  rw [List.filter_eq_self]
  intro slot member
  simpa using checked slot member

/-- With the rows in front of the index checked, the loop removes all that match. -/
theorem perm_removeFdLoop (fd : Int) (rounds index : Nat) (table : Dispatch φ α)
    (checked : ∀ slot ∈ table.slots.take index, slot.2.fd ≠ fd)
    (enough : table.numentries - index ≤ rounds) :
    (removeFdLoop fd rounds index table).slots.Perm
      (table.slots.filter fun slot => slot.2.fd ≠ fd) := by
  induction rounds generalizing index table with
  | zero =>
    rw [filter_of_checked checked (by omega)]
    exact List.Perm.refl _
  | succ rounds ih =>
    unfold removeFdLoop
    cases found : table.fds[index]? with
    | none =>
      rw [filter_of_checked checked (List.getElem?_eq_none_iff.mp found)]
    | some pollfd =>
      have valid : index < table.numentries := (List.getElem?_eq_some_iff.mp found).1
      have inside : index < table.slots.length := by rwa [Dispatch.length_slots]
      obtain ⟨slot, row⟩ : ∃ slot, table.slots[index]? = some slot :=
        ⟨_, List.getElem?_eq_getElem inside⟩
      have same : slot.2 = pollfd := by
        have second := congrArg (·[index]?) table.slots_snd
        simp only [List.getElem?_map, row, found] at second
        exact Option.some.inj second
      by_cases matched : pollfd.fd = fd
      · simp only [matched, if_true]
        have rows := slots_dispatchRemove valid
        have fewer := numentries_dispatchRemove valid
        refine (ih index (dispatchRemove index table) ?_ (by omega)).trans ?_
        · rw [rows, take_swapRemove inside]
          exact checked
        · -- The removed row is one that the filter drops anyway.
          rw [rows]
          have kept := (perm_swapRemove row).filter fun other => decide (other.2.fd ≠ fd)
          rw [List.filter_cons_of_neg (by simp [same, matched])] at kept
          exact kept.symm
      · simp only [matched, if_false]
        refine ih (index + 1) table ?_ (by omega)
        intro other member
        rw [List.take_add_one, row] at member
        rcases List.mem_append.mp member with earlier | here
        · exact checked other earlier
        · simp only [Option.toList_some, List.mem_singleton] at here
          rwa [here, same]

/-- Removing a descriptor removes all of its rows and no others. -/
theorem perm_dispatchRemoveFd (fd : Int) (table : Dispatch φ α) :
    (dispatchRemoveFd fd table).slots.Perm (table.slots.filter fun slot => slot.2.fd ≠ fd) :=
  perm_removeFdLoop fd _ 0 table (by simp) (Nat.le_refl _)

/-- What a row registers, without the numbers and events that come and go. -/
def Dispatch.rows (table : Dispatch φ α) : List (DispatchEntry φ α × Int) :=
  table.slots.map fun slot => (slot.1, slot.2.fd)

/-- Reporting events leaves the registrations alone. -/
@[simp] theorem Dispatch.rows_poll (revents : Nat → BitVec 16) (table : Dispatch φ α) :
    (table.poll revents).rows = table.rows := by
  -- Rows read the entry and the descriptor number, and poll writes neither.
  apply List.ext_getElem?
  intro index
  simp only [rows, slots, poll, List.zip, List.getElem?_map, List.getElem?_zipWith,
    List.getElem?_mapIdx]
  cases table.entries[index]? <;> cases table.fds[index]? <;> rfl

/-- Adding a valid descriptor registers one more row. -/
theorem rows_dispatchAdd {fd : Int} (valid : 0 ≤ fd) (events : BitVec 16)
    (readyfn errorfn indexfn : Option φ) (arg : Option α) (table : Dispatch φ α) :
    (dispatchAdd fd events readyfn errorfn indexfn arg table).rows =
      table.rows ++ [(⟨table.registrations, arg, readyfn, errorfn, indexfn⟩, fd)] := by
  rw [Dispatch.rows, slots_dispatchAdd valid, List.map_append]
  rfl

/-- Removing a descriptor removes all of its rows and no others. -/
theorem perm_rows_dispatchRemoveFd (fd : Int) (table : Dispatch φ α) :
    (dispatchRemoveFd fd table).rows.Perm (table.rows.filter fun row => row.2 ≠ fd) := by
  -- Rows are an image of the slots, and the image reads the descriptor number being filtered.
  have kept := (perm_dispatchRemoveFd fd table).map fun slot => (slot.1, slot.2.fd)
  rw [Dispatch.rows, Dispatch.rows, List.filter_map]
  exact kept

/-- The operations that a callback may use on the table. -/
inductive TableOp (φ α : Type) where
  | add (fd : Int) (events : BitVec 16) (readyfn errorfn indexfn : Option φ) (arg : Option α)
  | remove (index : Nat)
  | removeFd (fd : Int)
deriving DecidableEq, Repr

/-- Carries out an operation. -/
def applyOp (table : Dispatch φ α) : TableOp φ α → Dispatch φ α
  | .add fd events readyfn errorfn indexfn arg =>
    dispatchAdd fd events readyfn errorfn indexfn arg table
  | .remove index => dispatchRemove index table
  | .removeFd fd => dispatchRemoveFd fd table

/-- Any number of operations is a change. -/
theorem changed_applyOps (ops : List (TableOp φ α)) (table : Dispatch φ α) :
    ∃ effects, Changed table effects (ops.foldl applyOp table) := by
  -- Handlers reach the table only through these three operations, each of which is a change.
  induction ops generalizing table with
  | nil => exact ⟨[], Changed.refl table⟩
  | cons op rest ih =>
    have step : ∃ effects, Changed table effects (applyOp table op) := by
      cases op with
      | add fd events readyfn errorfn indexfn arg => exact changed_dispatchAdd ..
      | remove index => exact changed_dispatchRemove index table
      | removeFd fd => exact changed_removeFdLoop fd _ _ table
    obtain ⟨first, one⟩ := step
    obtain ⟨second, two⟩ := ih (applyOp table op)
    exact ⟨first ++ second, one.trans two⟩

end Daliserver

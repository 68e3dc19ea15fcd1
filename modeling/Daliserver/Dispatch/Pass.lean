import Mathlib.Data.List.Perm.Subperm
import Daliserver.Dispatch.TableLaws

/-! One pass over the dispatch table, during which the callbacks may change it (dispatch.c). -/

namespace Daliserver

open Machine

variable {φ α σ : Type}

/-- The results of a pass. -/
inductive DispatchStatus where
  | error
  | timeout
  | eventHandled
  | noEvents
deriving DecidableEq, Repr

/-- What a reported event mask means: an error, a requested event, or nothing. -/
def eventOf (pollfd : PollFd) : Option (Option DispatchError) :=
  -- The tests stand in the order of the source, and only the first that applies is reported.
  if pollfd.revents &&& pollNval ≠ 0 then some (some .fdInvalid)
  else if pollfd.revents &&& pollErr ≠ 0 then some (some .pollError)
  else if pollfd.revents &&& pollHup ≠ 0 then some (some .fdClosed)
  else if pollfd.revents &&& pollfd.events ≠ 0 then some none
  else none

/-- The callback that is due for a row, unless there is none for its event. -/
def slotCall (slot : DispatchEntry φ α × PollFd) : Option (Call φ α) :=
  match eventOf slot.2 with
  -- A slot with an event but without the callback for it is passed over.
  | none => none
  | some (some error) =>
    slot.1.errorfn.map fun fn => ⟨slot.2.registration, fn, slot.1.arg, some error⟩
  | some none => slot.1.readyfn.map fun fn => ⟨slot.2.registration, fn, slot.1.arg, none⟩

/--
What the reported mask of a row calls for.

An error bit wins over those behind it and over the requested events, whose callback has no error.
-/
inductive Warrants (entry : DispatchEntry φ α) (pollfd : PollFd) : Call φ α → Prop where
  | invalid {fn : φ} (nval : pollfd.revents &&& pollNval ≠ 0) (callback : entry.errorfn = some fn) :
    Warrants entry pollfd ⟨pollfd.registration, fn, entry.arg, some .fdInvalid⟩
  | failed {fn : φ} (valid : pollfd.revents &&& pollNval = 0) (err : pollfd.revents &&& pollErr ≠ 0)
      (callback : entry.errorfn = some fn) :
    Warrants entry pollfd ⟨pollfd.registration, fn, entry.arg, some .pollError⟩
  | closed {fn : φ} (valid : pollfd.revents &&& pollNval = 0)
      (sane : pollfd.revents &&& pollErr = 0) (hup : pollfd.revents &&& pollHup ≠ 0)
      (callback : entry.errorfn = some fn) :
    Warrants entry pollfd ⟨pollfd.registration, fn, entry.arg, some .fdClosed⟩
  | ready {fn : φ} (valid : pollfd.revents &&& pollNval = 0) (sane : pollfd.revents &&& pollErr = 0)
      (there : pollfd.revents &&& pollHup = 0) (requested : pollfd.revents &&& pollfd.events ≠ 0)
      (callback : entry.readyfn = some fn) :
    Warrants entry pollfd ⟨pollfd.registration, fn, entry.arg, none⟩

/-- The callback that is due for a row is the one that its mask calls for. -/
theorem slotCall_eq_some_iff {slot : DispatchEntry φ α × PollFd} {call : Call φ α} :
    slotCall slot = some call ↔ Warrants slot.1 slot.2 call := by
  constructor
  · -- The tests are passed through in their order, down to the first one that applies.
    intro due
    unfold slotCall at due
    cases event : eventOf slot.2 with
    | none => simp [event] at due
    | some error =>
      cases error with
      | none =>
        simp only [event, Option.map_eq_some_iff] at due
        obtain ⟨fn, callback, rfl⟩ := due
        unfold eventOf at event
        split_ifs at event with nval err hup requested
        · cases event
        · cases event
        · cases event
        · exact .ready (not_not.mp nval) (not_not.mp err) (not_not.mp hup) requested callback
      | some error =>
        simp only [event, Option.map_eq_some_iff] at due
        obtain ⟨fn, callback, rfl⟩ := due
        unfold eventOf at event
        split_ifs at event with nval err hup requested
        · cases event
          exact .invalid nval callback
        · cases event
          exact .failed (not_not.mp nval) err callback
        · cases event
          exact .closed (not_not.mp nval) (not_not.mp err) hup callback
        · cases event
  · -- The first test that applies is the one that the constructor names.
    intro warranted
    cases warranted with
    | invalid nval callback =>
      have event : eventOf slot.2 = some (some .fdInvalid) := if_pos nval
      simp [slotCall, event, callback]
    | failed valid err callback =>
      have event : eventOf slot.2 = some (some .pollError) := by
        rw [eventOf, if_neg (not_not.mpr valid), if_pos err]
      simp [slotCall, event, callback]
    | closed valid sane hup callback =>
      have event : eventOf slot.2 = some (some .fdClosed) := by
        rw [eventOf, if_neg (not_not.mpr valid), if_neg (not_not.mpr sane), if_pos hup]
      simp [slotCall, event, callback]
    | ready valid sane there requested callback =>
      have event : eventOf slot.2 = some none := by
        rw [eventOf, if_neg (not_not.mpr valid), if_neg (not_not.mpr sane),
          if_neg (not_not.mpr there), if_pos requested]
      simp [slotCall, event, callback]

/--
A program whose callbacks are dispatched.

Its callbacks may do anything to the program, but they change the table through its operations.
-/
structure DispatchClient (φ α σ : Type) where
  table : σ → Dispatch φ α
  update : (Dispatch φ α → Dispatch φ α) → σ → σ
  table_update : ∀ change state, table (update change state) = change (table state)
  invoke : Call φ α → σ → σ
  operations : ∀ call state, ∃ ops : List (TableOp φ α),
    table (invoke call state) = ops.foldl applyOp (table state)

variable (client : DispatchClient φ α σ)

/-- The body of the loop: looks at one row and makes the callback that is due for it. -/
def dispatchRow (index : Nat) (state : σ) : σ :=
  match (client.table state).slots[index]? with
  -- The bound is re-read each round, so the rows past it are not visited.
  | none => state
  | some slot =>
    match slotCall slot with
    | none => state
    | some call => client.invoke call (client.update (·.log (.called call)) state)

/-- The loop, which compares its index with the number of rows there are by now. -/
def dispatchLoop : Nat → Nat → σ → Option σ
  -- The fuel only serves to define the loop. It ends for a different reason.
  | 0, _, _ => none
  | fuel + 1, index, state =>
    if index < (client.table state).numentries then
      dispatchLoop fuel (index + 1) (dispatchRow client index state)
    else some state

/-- Waits for events and dispatches them. `poll` returns a number and reports event masks. -/
def dispatchRun (fuel : Nat) (ready : Int) (revents : Nat → BitVec 16) (state : σ) :
    Option (σ × DispatchStatus) :=
  -- An error or a signal reports nothing, and it is told apart from a timeout in the log only.
  if ready = -1 then some (state, .timeout)
  else
    let state := client.update (·.poll revents) state
    if ready = 0 then some (state, .timeout)
    else (dispatchLoop client fuel 0 state).map (·, .eventHandled)

/-- A callback is due only for a row with a reported event, and it is the row's own. -/
theorem slotCall_some {slot : DispatchEntry φ α × PollFd} {call : Call φ α}
    (due : slotCall slot = some call) :
    call.registration = slot.2.registration ∧ call.arg = slot.1.arg ∧
      eventOf slot.2 = some call.error ∧ slot.2.revents ≠ 0 := by
  have reported : eventOf slot.2 ≠ none → slot.2.revents ≠ 0 := by
    intro event silent
    -- Without any bit set, no mask matches.
    simp [eventOf, silent] at event
  unfold slotCall at due
  cases event : eventOf slot.2 with
  | none => simp [event] at due
  | some error =>
    have nonzero := reported (by simp [event])
    cases error with
    | none =>
      simp only [event, Option.map_eq_some_iff] at due
      obtain ⟨fn, _, rfl⟩ := due
      exact ⟨rfl, rfl, rfl, nonzero⟩
    | some error =>
      simp only [event, Option.map_eq_some_iff] at due
      obtain ⟨fn, _, rfl⟩ := due
      exact ⟨rfl, rfl, rfl, nonzero⟩

/-- Nothing is due for a row without a reported event. -/
theorem slotCall_silent {slot : DispatchEntry φ α × PollFd} (silent : slot.2.revents = 0) :
    slotCall slot = none := by
  cases due : slotCall slot with
  | none => rfl
  | some call => exact absurd silent (slotCall_some due).2.2.2

/-- The rows from a position on begin with the one that is there. -/
theorem Dispatch.slots_from (table : Dispatch φ α) {position : Nat}
    {slot : DispatchEntry φ α × PollFd} (row : table.slots[position]? = some slot) :
    table.slots.drop position = slot :: table.slots.drop (position + 1) := by
  rw [List.drop_eq_getElem?_toList_append, row]
  rfl

/-- What the rest of a pass does, from a position on. -/
structure PassFrom (position : Nat) (table : Dispatch φ α)
    (effects : List (DispatchEffect φ α)) : Prop where
  once : ((calls effects).map (·.registration)).Nodup
  due : ∀ before call after, effects = before ++ .called call :: after →
    ∃ slot ∈ table.slots.drop position, slotCall slot = some call ∧
      .removed call.registration ∉ before
  fresh : ∀ registration, .added registration ∈ effects → table.registrations ≤ registration
  all : (∀ registration, .removed registration ∉ effects) →
    calls effects = (table.slots.drop position).filterMap slotCall

/-- A callback made in the rest of a pass belongs to a row further back. -/
theorem PassFrom.due_of_mem {position : Nat} {table : Dispatch φ α}
    {effects : List (DispatchEffect φ α)} (pass : PassFrom position table effects)
    {call : Call φ α} (member : call ∈ calls effects) :
    ∃ slot ∈ table.slots.drop position, slotCall slot = some call := by
  -- Split the trace at the call and read off the row it was due to.
  obtain ⟨before, after, split⟩ := List.append_of_mem (mem_calls.mp member)
  obtain ⟨slot, found, own, _⟩ := pass.due before call after split
  exact ⟨slot, found, own⟩

/-- Past the last row nothing happens. -/
theorem PassFrom.stop {position : Nat} {table : Dispatch φ α}
    (past : table.numentries ≤ position) : PassFrom position table [] where
  once := List.nodup_nil
  due := by simp
  fresh := by simp
  all := fun _ => by
    rw [List.drop_eq_nil_of_le (by rwa [Dispatch.length_slots])]
    rfl

/-- A row for which nothing is due is passed over. -/
theorem PassFrom.skip {position : Nat} {table : Dispatch φ α}
    {effects : List (DispatchEffect φ α)} {slot : DispatchEntry φ α × PollFd}
    (row : table.slots[position]? = some slot) (nothing : slotCall slot = none)
    (rest : PassFrom (position + 1) table effects) : PassFrom position table effects := by
  -- The skipped row contributes no call, so the rest of the pass accounts for everything.
  have split := table.slots_from row
  refine ⟨rest.once, ?_, rest.fresh, ?_⟩
  · intro before call after here
    obtain ⟨other, found, own, unremoved⟩ := rest.due before call after here
    exact ⟨other, by rw [split]; exact List.mem_cons_of_mem _ found, own, unremoved⟩
  · intro unremoved
    rw [rest.all unremoved, split, List.filterMap_cons_none nothing]

/-- A row further back belongs to another registration. -/
theorem Dispatch.registration_ne {table : Dispatch φ α} {position : Nat}
    {slot other : DispatchEntry φ α × PollFd} (row : table.slots[position]? = some slot)
    (later : other ∈ table.slots.drop (position + 1)) :
    other.2.registration ≠ slot.2.registration := by
  -- Registrations are pairwise distinct, and the later slot stands strictly behind this one.
  have split := table.slots_from row
  have distinct := table.slots_distinct
  rw [← List.take_append_drop position table.slots, split, List.map_append] at distinct
  have tail := distinct.of_append_right
  rw [List.map_cons, List.nodup_cons] at tail
  exact fun same => tail.1 (List.mem_map.mpr ⟨other, later, same⟩)

/-- A row with something due was as far back before the changes already. -/
theorem Changed.stayed {before after : Dispatch φ α} {effects : List (DispatchEffect φ α)}
    (changed : Changed before effects after) {position : Nat}
    {slot : DispatchEntry φ α × PollFd} (found : slot ∈ after.slots.drop position)
    {call : Call φ α} (due : slotCall slot = some call) : slot ∈ before.slots.drop position := by
  rcases changed.later position slot found with old | ⟨silent, _⟩
  · exact old
  · exact absurd silent (slotCall_some due).2.2.2

/-- A call that is not among the changes comes after all of them. -/
theorem called_behind {changes effects before after : List (DispatchEffect φ α)}
    {call : Call φ α} (uncalled : calls changes = [])
    (here : changes ++ effects = before ++ .called call :: after) :
    ∃ between, before = changes ++ between ∧ effects = between ++ .called call :: after := by
  rcases List.append_eq_append_iff.mp here with ⟨between, rfl, same⟩ | ⟨more, same, rest⟩
  · exact ⟨between, rfl, same⟩
  · cases more with
    | nil => exact ⟨[], by simpa using same.symm, by simpa using rest.symm⟩
    | cons effect tail =>
      -- The call would be one of the changes.
      simp only [List.cons_append, List.cons.injEq] at rest
      have inside : call ∈ calls changes := by
        rw [mem_calls, same, ← rest.1]
        simp
      rw [uncalled] at inside
      cases inside

/-- A callback and the changes it makes do not disturb the rest of the pass. -/
theorem PassFrom.call {position : Nat} {table middle : Dispatch φ α}
    {changes effects : List (DispatchEffect φ α)} {slot : DispatchEntry φ α × PollFd}
    {call : Call φ α} (row : table.slots[position]? = some slot)
    (due : slotCall slot = some call)
    (changed : Changed (table.log (.called call)) changes middle)
    (rest : PassFrom (position + 1) middle effects) :
    PassFrom position table (.called call :: (changes ++ effects)) := by
  have bound := (List.getElem?_eq_some_iff.mp row).1
  have split := table.slots_from row
  have listed : calls (.called call :: (changes ++ effects)) = call :: calls effects := by
    have own : calls [.called call] = [call] := rfl
    rw [← List.singleton_append, calls_append, calls_append, changed.uncalled, own]
    rfl
  refine ⟨?_, ?_, ?_, ?_⟩
  · rw [listed, List.map_cons, List.nodup_cons]
    refine ⟨fun again => ?_, rest.once⟩
    obtain ⟨other, member, same⟩ := List.mem_map.mp again
    obtain ⟨slot', found, own⟩ := rest.due_of_mem member
    apply Dispatch.registration_ne row (changed.stayed found own)
    rw [← (slotCall_some own).1, ← (slotCall_some due).1, same]
  · intro before made after here
    cases before with
    | nil =>
      simp only [List.nil_append, List.cons.injEq, DispatchEffect.called.injEq] at here
      rw [← here.1]
      exact ⟨slot, by rw [split]; exact List.mem_cons_self .., due, List.not_mem_nil⟩
    | cons first before =>
      simp only [List.cons_append, List.cons.injEq] at here
      obtain ⟨rfl, here⟩ := here
      -- The changes contain no call, so this one comes after them.
      obtain ⟨between, rfl, later⟩ := called_behind changed.uncalled here
      obtain ⟨other, found, own, unremoved⟩ := rest.due between made after later
      refine ⟨other, ?_, own, ?_⟩
      · rw [split]
        exact List.mem_cons_of_mem _ (changed.stayed found own)
      · intro member
        rcases List.mem_cons.mp member with same | member
        · cases same
        · rcases List.mem_append.mp member with early | late
          · -- The row is still in the table, so it was not removed by the callback.
            exact (changed.gone _ early).2 other (List.mem_of_mem_drop found)
              (slotCall_some own).1.symm
          · exact unremoved late
  · intro registration member
    rcases List.mem_cons.mp member with same | member
    · cases same
    · rcases List.mem_append.mp member with early | late
      · exact changed.fresh registration early
      · exact Nat.le_trans changed.counter (rest.fresh registration late)
  · intro unremoved
    obtain ⟨added, rows, silent⟩ := changed.kept fun registration member =>
      unremoved registration (List.mem_cons_of_mem _ (List.mem_append_left _ member))
    have tail := rest.all fun registration member =>
      unremoved registration (List.mem_cons_of_mem _ (List.mem_append_right _ member))
    have none : added.filterMap slotCall = [] := by
      rw [List.filterMap_eq_nil_iff]
      exact fun other member => slotCall_silent (silent other member)
    have same : (table.log (.called call)).slots = table.slots := rfl
    rw [listed, tail, rows, same, List.drop_append_of_le_length bound, List.filterMap_append, none,
      List.append_nil, split, List.filterMap_cons_some due]

/-- The rows from a position on for which an event was reported. -/
def pending (position : Nat) (table : Dispatch φ α) : List (DispatchEntry φ α × PollFd) :=
  (table.slots.drop position).filter fun slot => slot.2.revents ≠ 0

/-- Fewer rows are pending further back. -/
theorem pending_succ_le {position : Nat} {table : Dispatch φ α}
    {slot : DispatchEntry φ α × PollFd} (row : table.slots[position]? = some slot) :
    (pending (position + 1) table).length ≤ (pending position table).length := by
  unfold pending
  rw [table.slots_from row, List.filter_cons]
  split <;> simp

/-- A row for which a callback is due is pending itself. -/
theorem pending_of_due {position : Nat} {table : Dispatch φ α}
    {slot : DispatchEntry φ α × PollFd} (row : table.slots[position]? = some slot)
    {call : Call φ α} (due : slotCall slot = some call) :
    pending position table = slot :: pending (position + 1) table := by
  have reported := (slotCall_some due).2.2.2
  unfold pending
  rw [table.slots_from row, List.filter_cons_of_pos (by simpa using reported)]

/-- Changes of the table add nothing to the rows that are pending. -/
theorem Changed.pending_le {before after : Dispatch φ α} {effects : List (DispatchEffect φ α)}
    (changed : Changed before effects after) (position : Nat) :
    (pending position after).length ≤ (pending position before).length := by
  -- A change adds only rows that carry no reported event, and distinct rows can then only vanish.
  refine (List.subperm_of_subset ?_ ?_).length_le
  · exact ((after.slots_distinct.of_map _).sublist (List.drop_sublist _ _)).filter _
  · intro slot member
    obtain ⟨found, reported⟩ := List.mem_filter.mp member
    rcases changed.later position slot found with old | ⟨silent, _⟩
    · exact List.mem_filter.mpr ⟨old, reported⟩
    · simp [silent] at reported

/-- One more round of fuel is needed than for the rest of the pass. -/
theorem dispatchLoop_round {position : Nat} {state : σ}
    (inside : position < (client.table state).numentries) {fuel : Nat} {final : σ}
    (rest : ∀ more, fuel ≤ more →
      dispatchLoop client more (position + 1) (dispatchRow client position state) = some final) :
    ∀ more, fuel + 1 ≤ more → dispatchLoop client more position state = some final := by
  intro more enough
  obtain ⟨more, rfl⟩ := Nat.exists_eq_add_of_le' enough
  rw [← Nat.add_assoc, dispatchLoop, if_pos inside]
  exact rest _ (by omega)

/-- The pass from a position on comes to an end, and it does what a pass should do. -/
theorem dispatchLoop_spec (bound : Nat) : ∀ (left position : Nat) (state : σ),
    (pending position (client.table state)).length ≤ bound →
    (client.table state).numentries - position ≤ left →
    ∃ fuel final effects, (∀ more, fuel ≤ more →
        dispatchLoop client more position state = some final) ∧
      (client.table final).trace = (client.table state).trace ++ effects ∧
      PassFrom position (client.table state) effects := by
  -- A callback uses up a pending row, and every other round brings the index closer to the end.
  induction bound using Nat.strongRecOn with
  | _ bound outer =>
    intro left
    induction left using Nat.strongRecOn with
    | _ left inner =>
      intro position state pends remaining
      by_cases past : (client.table state).numentries ≤ position
      · refine ⟨1, state, [], ?_, by simp, PassFrom.stop past⟩
        intro more enough
        obtain ⟨more, rfl⟩ := Nat.exists_eq_add_of_le' enough
        simp [dispatchLoop, Nat.not_lt.mpr past]
      · have inside : position < (client.table state).numentries := Nat.not_le.mp past
        obtain ⟨slot, row⟩ : ∃ slot, (client.table state).slots[position]? = some slot :=
          ⟨_, List.getElem?_eq_getElem (by rwa [Dispatch.length_slots])⟩
        cases due : slotCall slot with
        | none =>
          have same : dispatchRow client position state = state := by
            simp [dispatchRow, row, due]
          have fewer := Nat.le_trans (pending_succ_le row) pends
          obtain ⟨fuel, final, effects, ends, trace, pass⟩ :=
            inner (left - 1) (by omega) (position + 1) state fewer (by omega)
          exact ⟨fuel + 1, final, effects, dispatchLoop_round client inside (by rwa [same]), trace,
            pass.skip row due⟩
        | some call =>
          have made : dispatchRow client position state =
              client.invoke call (client.update (·.log (.called call)) state) := by
            simp [dispatchRow, row, due]
          obtain ⟨ops, operated⟩ := client.operations call
            (client.update (·.log (.called call)) state)
          obtain ⟨changes, changed⟩ := changed_applyOps ops
            ((client.table state).log (.called call))
          rw [client.table_update, ← made] at operated
          rw [← operated] at changed
          have fewer : (pending (position + 1)
              (client.table (dispatchRow client position state))).length < bound := by
            have shrunk : _ ≤ (pending (position + 1) (client.table state)).length :=
              changed.pending_le (position + 1)
            rw [pending_of_due row due, List.length_cons] at pends
            omega
          obtain ⟨fuel, final, effects, ends, trace, pass⟩ :=
            outer _ fewer _ (position + 1) (dispatchRow client position state) (Nat.le_refl _)
              (Nat.le_refl _)
          refine ⟨fuel + 1, final, .called call :: (changes ++ effects),
            dispatchLoop_round client inside ends, ?_, pass.call row due changed⟩
          rw [trace, changed.trace]
          simp [Dispatch.log]

/--
One pass is sound, whatever the callbacks do to the table.

It comes to an end. Every registration has at most one callback made, only what the mask that
`poll` reported for itself calls for, with its own argument, and only while it is registered.
Registrations made during the pass have none.
If nothing is removed, every callback that is called for is made, in the order of the table.
-/
theorem dispatch_pass_sound (client : DispatchClient φ α σ) (ready : Int)
    (revents : Nat → BitVec 16) (state : σ) :
    let polled := (client.table state).poll revents
    ∃ fuel final status effects, (∀ more, fuel ≤ more →
        dispatchRun client more ready revents state = some (final, status)) ∧
      (client.table final).trace = (client.table state).trace ++ effects ∧
      ((calls effects).map (·.registration)).Nodup ∧
      (∀ before call after, effects = before ++ .called call :: after →
        ∃ slot ∈ polled.slots, slot.1.registration = call.registration ∧
          slot.2.registration = call.registration ∧ slot.2.revents ≠ 0 ∧
          .removed call.registration ∉ before ∧ call.arg = slot.1.arg ∧
          Warrants slot.1 slot.2 call) ∧
      (∀ registration, .added registration ∈ effects →
        registration ∉ (calls effects).map (·.registration)) ∧
      (ready ≠ -1 → ready ≠ 0 → (∀ registration, .removed registration ∉ effects) →
        (∀ slot ∈ polled.slots, ∀ call, Warrants slot.1 slot.2 call → call ∈ calls effects) ∧
          calls effects = polled.slots.filterMap slotCall) := by
  intro polled
  have polls : client.table (client.update (·.poll revents) state) = polled :=
    client.table_update _ _
  have traced : polled.trace = (client.table state).trace := rfl
  -- An error or a timeout ends the call before it looks at any row.
  by_cases failed : ready = -1
  · refine ⟨0, state, .timeout, [], ?_, by simp, List.nodup_nil, by simp, by simp, ?_⟩
    · intro more _
      simp [dispatchRun, failed]
    · exact fun ok => absurd failed ok
  · by_cases idle : ready = 0
    · refine ⟨0, client.update (·.poll revents) state, .timeout, [], ?_, ?_, List.nodup_nil,
        by simp, by simp, ?_⟩
      · intro more _
        simp [dispatchRun, idle]
      · rw [polls, traced, List.append_nil]
      · exact fun _ ok => absurd idle ok
    · obtain ⟨fuel, final, effects, ends, trace, pass⟩ := dispatchLoop_spec client _ _ 0
        (client.update (·.poll revents) state) (Nat.le_refl _) (Nat.le_refl _)
      rw [polls] at trace pass
      have own : ∀ call slot, slot ∈ polled.slots → slotCall slot = some call →
          slot.1.registration = call.registration ∧ slot.2.registration = call.registration := by
        intro call slot member due
        have named := (slotCall_some due).1
        exact ⟨(polled.slot_paired member).trans named.symm, named.symm⟩
      refine ⟨fuel, final, .eventHandled, effects, ?_, by rw [trace, traced], pass.once, ?_, ?_, ?_⟩
      · intro more enough
        simp [dispatchRun, failed, idle, ends more enough]
      · intro before call after here
        obtain ⟨slot, member, due, unremoved⟩ := pass.due before call after here
        rw [List.drop_zero] at member
        obtain ⟨_, argument, _, reported⟩ := slotCall_some due
        exact ⟨slot, member, (own call slot member due).1, (own call slot member due).2, reported,
          unremoved, argument, slotCall_eq_some_iff.mp due⟩
      · intro registration added again
        obtain ⟨call, made, rfl⟩ := List.mem_map.mp again
        obtain ⟨slot, member, due⟩ := pass.due_of_mem made
        rw [List.drop_zero] at member
        have old := polled.slot_numbered member
        have new := pass.fresh _ added
        rw [(own call slot member due).2] at old
        omega
      · intro _ _ unremoved
        have all := pass.all unremoved
        rw [List.drop_zero] at all
        refine ⟨fun slot member call warranted => ?_, all⟩
        rw [all]
        exact List.mem_filterMap.mpr ⟨slot, member, slotCall_eq_some_iff.mpr warranted⟩

/-- A program whose callbacks leave the table alone. -/
def leavesTable : DispatchClient Nat Nat (Dispatch Nat Nat) where
  table := id
  update change := change
  table_update _ _ := rfl
  invoke _ table := table
  operations _ _ := ⟨[], rfl⟩

/-- Six descriptors, each with a ready callback, an error callback and an argument of its own. -/
def sixRegistered : Dispatch Nat Nat :=
  (List.range 6).foldl (fun table (number : Nat) =>
    dispatchAdd number pollIn (some (10 + number)) (some (20 + number)) none (some number) table)
    dispatchNew

/-- Every bit at once, one bit fewer in each row, and a bit that was not requested in the last. -/
def sixReported : Nat → BitVec 16
  | 0 => pollNval ||| pollErr ||| pollHup ||| pollIn
  | 1 => pollErr ||| pollHup ||| pollIn
  | 2 => pollHup ||| pollIn
  | 3 => pollIn
  | 5 => 0x004
  | _ => 0

/-- The first three descriptors have errors, the fourth is ready, and the last two are silent. -/
theorem dispatch_pass_sound_classes :
    let after := ((dispatchRun leavesTable 7 5 sixReported sixRegistered).map Prod.fst).getD
      sixRegistered
    dispatchRun leavesTable 7 5 sixReported sixRegistered = some (after, .eventHandled) ∧
      calls (after.trace.drop sixRegistered.trace.length) =
        [⟨0, 20, some 0, some .fdInvalid⟩, ⟨1, 21, some 1, some .pollError⟩,
          ⟨2, 22, some 2, some .fdClosed⟩, ⟨3, 13, some 3, none⟩] := by
  intro after
  -- More fuel than there are rows makes no difference.
  have ran : ∀ fuel, dispatchRun leavesTable (fuel + 7) 5 sixReported sixRegistered =
      some (after, .eventHandled) := fun _ => rfl
  obtain ⟨fuel, final, status, effects, ends, trace, _, _, _, all⟩ :=
    dispatch_pass_sound leavesTable 5 sixReported sixRegistered
  have same := (ends (fuel + 7) (by omega)).symm.trans (ran fuel)
  simp only [Option.some.injEq, Prod.mk.injEq] at same
  obtain ⟨rfl, rfl⟩ := same
  have added : after.trace.drop sixRegistered.trace.length = effects :=
    (congrArg (List.drop sixRegistered.trace.length) trace).trans List.drop_left
  have unremoved : ∀ registration, .removed registration ∉ effects := by
    -- Nothing but calls has happened.
    have kinds : after.trace.drop sixRegistered.trace.length =
        (calls (after.trace.drop sixRegistered.trace.length)).map .called := by decide
    intro registration member
    rw [← added, kinds] at member
    obtain ⟨call, _, same⟩ := List.mem_map.mp member
    cases same
  refine ⟨ran 0, ?_⟩
  rw [added, (all (by decide) (by decide) unremoved).2]
  decide

end Daliserver

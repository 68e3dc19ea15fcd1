import Daliserver.Dispatch.Pass

/-! A pass may skip a registration when rows move, but it cannot do so for ever (dispatch.c). -/

namespace Daliserver

open Machine

variable {φ α σ : Type}

/--
Rows are removed with a note or move towards the front.

What was noted in between is a parameter, as for `Changed`.
-/
structure Advance (before : Dispatch φ α) (effects : List (DispatchEffect φ α))
    (after : Dispatch φ α) : Prop where
  trace : after.trace = before.trace ++ effects
  place : ∀ (index : Nat) slot, before.slots[index]? = some slot →
    .removed slot.2.registration ∈ effects ∨
      ∃ later ≤ index, after.slots[later]? = some slot

namespace Advance

theorem refl (table : Dispatch φ α) : Advance table [] table :=
  ⟨by simp, fun index _ row => .inr ⟨index, Nat.le_refl _, row⟩⟩

theorem trans {first second third : Dispatch φ α} {earlier later : List (DispatchEffect φ α)}
    (one : Advance first earlier second) (two : Advance second later third) :
    Advance first (earlier ++ later) third := by
  -- A row that is noted in neither part has moved to the front twice.
  refine ⟨by rw [two.trace, one.trace, List.append_assoc], fun index slot row => ?_⟩
  rcases one.place index slot row with removed | ⟨middle, front, moved⟩
  · exact .inl (List.mem_append_left _ removed)
  · rcases two.place middle slot moved with removed | ⟨last, front', moved'⟩
    · exact .inl (List.mem_append_right _ removed)
    · exact .inr ⟨last, Nat.le_trans front' front, moved'⟩

end Advance

/-- A row that survives a change is not further back than before. -/
theorem Changed.place_le {before after : Dispatch φ α} {effects : List (DispatchEffect φ α)}
    (changed : Changed before effects after) {index later : Nat}
    {slot : DispatchEntry φ α × PollFd} (row : before.slots[index]? = some slot)
    (moved : after.slots[later]? = some slot) : later ≤ index := by
  -- Whatever is behind a place of the new table was behind it in the old one, or is new.
  have behind : slot ∈ after.slots.drop later :=
    List.mem_iff_getElem?.mpr ⟨0, by rwa [List.getElem?_drop, Nat.add_zero]⟩
  rcases changed.later later slot behind with old | ⟨-, new⟩
  · -- Registrations are distinct, so the row has only one place in the old table.
    obtain ⟨offset, place⟩ := List.mem_iff_getElem?.mp old
    rw [List.getElem?_drop] at place
    have distinct := before.slots_distinct
    have same : later + offset = index := by
      refine (List.getElem?_inj ?_ (distinct.of_map _)).mp (place.trans row.symm)
      exact (List.getElem?_eq_some_iff.mp place).1
    omega
  · have numbered := before.slot_numbered (List.mem_of_getElem? row)
    omega

/-- A change advances rows if those that vanish are noted. -/
theorem Changed.advance {before after : Dispatch φ α} {effects : List (DispatchEffect φ α)}
    (changed : Changed before effects after)
    (noted : ∀ slot ∈ before.slots, slot ∈ after.slots ∨
      .removed slot.2.registration ∈ effects) : Advance before effects after := by
  -- What is not noted has kept its row, which cannot have moved to the back.
  refine ⟨changed.trace, fun index slot row => ?_⟩
  rcases noted slot (List.mem_of_getElem? row) with kept | removed
  · obtain ⟨later, moved⟩ := List.mem_iff_getElem?.mp kept
    exact .inr ⟨later, changed.place_le row moved, moved⟩
  · exact .inl removed

/-- Adding a descriptor removes nothing. -/
theorem advance_dispatchAdd (fd : Int) (events : BitVec 16) (readyfn errorfn indexfn : Option φ)
    (arg : Option α) (table : Dispatch φ α) :
    ∃ effects, Advance table effects (dispatchAdd fd events readyfn errorfn indexfn arg table) := by
  -- A negative descriptor is refused, and any other one goes to the end.
  obtain ⟨effects, changed⟩ := changed_dispatchAdd fd events readyfn errorfn indexfn arg table
  refine ⟨effects, changed.advance fun slot member => .inl ?_⟩
  by_cases valid : 0 ≤ fd
  · rw [slots_dispatchAdd valid]
    exact List.mem_append_left _ member
  · rwa [dispatchAdd, if_neg valid]

/-- What is noted last when a position is removed. -/
theorem trace_dispatchRemove {index : Nat} {table : Dispatch φ α}
    {slot : DispatchEntry φ α × PollFd} (row : table.slots[index]? = some slot) :
    ∃ told, (dispatchRemove index table).trace =
      table.trace ++ (told ++ [.removed slot.2.registration]) := by
  -- The index function of the row that moves is told first.
  have valid : index < table.numentries := by
    rw [← Dispatch.length_slots]
    exact (List.getElem?_eq_some_iff.mp row).1
  -- The two arrays agree on the row, so the note names its registration.
  have named : (table.fds.get ⟨index, valid⟩).registration = slot.2.registration := by
    have second := congrArg (·[index]?) table.slots_snd
    rw [List.getElem?_map, row, List.getElem?_eq_getElem valid] at second
    exact (congrArg PollFd.registration (Option.some.inj second)).symm
  unfold dispatchRemove
  rw [dif_pos valid]
  simp only [named]
  by_cases last : index + 1 = table.numentries
  · exact ⟨[], by simp [last]⟩
  · cases table.entries.getLast? with
    | none => exact ⟨[], by simp [last]⟩
    | some entry =>
      obtain ⟨told, noted, -⟩ := callIndexfn_trace entry index table
      exact ⟨told, by simp [last, noted]⟩

/-- Removing a position notes the row that vanishes. -/
theorem advance_dispatchRemove (index : Nat) (table : Dispatch φ α) :
    ∃ effects, Advance table effects (dispatchRemove index table) := by
  -- Up to order, the table has lost the removed row and nothing else.
  obtain ⟨effects, changed⟩ := changed_dispatchRemove index table
  refine ⟨effects, changed.advance fun slot member => ?_⟩
  by_cases valid : index < table.numentries
  · obtain ⟨removed, row⟩ : ∃ removed, table.slots[index]? = some removed :=
      ⟨_, List.getElem?_eq_getElem (by rwa [Dispatch.length_slots])⟩
    rw [slots_dispatchRemove valid]
    rcases List.mem_cons.mp ((perm_swapRemove row).mem_iff.mp member) with same | kept
    · right
      obtain ⟨told, trace⟩ := trace_dispatchRemove row
      rw [List.append_cancel_left (changed.trace.symm.trans trace), same]
      exact List.mem_append_right _ (List.mem_singleton_self _)
    · exact .inl kept
  · left
    rwa [dispatchRemove, dif_neg valid]

theorem advance_removeFdLoop (fd : Int) (rounds index : Nat) (table : Dispatch φ α) :
    ∃ effects, Advance table effects (removeFdLoop fd rounds index table) := by
  -- The loop removes rows one by one, each with its note.
  induction rounds generalizing index table with
  | zero => exact ⟨[], Advance.refl table⟩
  | succ rounds ih =>
    unfold removeFdLoop
    cases table.fds[index]? with
    | none => exact ⟨[], Advance.refl table⟩
    | some pollfd =>
      by_cases matched : pollfd.fd = fd
      · simp only [matched, if_true]
        obtain ⟨first, one⟩ := advance_dispatchRemove index table
        obtain ⟨second, two⟩ := ih index (dispatchRemove index table)
        exact ⟨first ++ second, one.trans two⟩
      · simp only [matched, if_false]
        exact ih (index + 1) table

/-- Whatever a callback does to the table advances its rows. -/
theorem advance_applyOps (ops : List (TableOp φ α)) (table : Dispatch φ α) :
    ∃ effects, Advance table effects (ops.foldl applyOp table) := by
  -- One case for each operation, and then the rest of them.
  induction ops generalizing table with
  | nil => exact ⟨[], Advance.refl table⟩
  | cons op rest ih =>
    have step : ∃ effects, Advance table effects (applyOp table op) := by
      cases op with
      | add fd events readyfn errorfn indexfn arg => exact advance_dispatchAdd ..
      | remove index => exact advance_dispatchRemove index table
      | removeFd fd => exact advance_removeFdLoop fd _ _ table
    obtain ⟨first, one⟩ := step
    obtain ⟨second, two⟩ := ih (applyOp table op)
    exact ⟨first ++ second, one.trans two⟩

variable (client : DispatchClient φ α σ)

/-- One round of the loop advances the rows, and makes the callback that is due in it. -/
theorem dispatchRow_advance (index : Nat) (state : σ) :
    ∃ effects, Advance (client.table state) effects
        (client.table (dispatchRow client index state)) ∧
      ∀ slot call, (client.table state).slots[index]? = some slot → slotCall slot = some call →
        .called call ∈ effects := by
  -- The callback is noted before it runs, and what it does is a list of operations.
  unfold dispatchRow
  cases row : (client.table state).slots[index]? with
  | none => exact ⟨[], Advance.refl _, by simp⟩
  | some slot =>
    cases due : slotCall slot with
    | none =>
      refine ⟨[], by simpa [due] using Advance.refl _, ?_⟩
      intro other call same called
      rw [← Option.some.inj same, due] at called
      cases called
    | some call =>
      simp only [due]
      obtain ⟨ops, operated⟩ := client.operations call
        (client.update (·.log (.called call)) state)
      obtain ⟨effects, advance⟩ := advance_applyOps ops ((client.table state).log (.called call))
      rw [client.table_update] at operated
      rw [← operated] at advance
      have noted : Advance (client.table state) [.called call]
          ((client.table state).log (.called call)) :=
        ⟨rfl, fun place _ row => .inr ⟨place, Nat.le_refl _, row⟩⟩
      refine ⟨[.called call] ++ effects, noted.trans advance, ?_⟩
      intro other made same called
      rw [← Option.some.inj same, due] at called
      rw [← Option.some.inj called]
      exact List.mem_append_left _ (List.mem_singleton_self _)

/-- The loop advances the rows. -/
theorem dispatchLoop_advance {fuel position : Nat} {state final : σ}
    (ends : dispatchLoop client fuel position state = some final) :
    ∃ effects, Advance (client.table state) effects (client.table final) := by
  -- By induction on the rounds that are left.
  induction fuel generalizing position state with
  | zero => cases ends
  | succ fuel ih =>
    rw [dispatchLoop] at ends
    split at ends
    · obtain ⟨first, one, -⟩ := dispatchRow_advance client position state
      obtain ⟨second, two⟩ := ih ends
      exact ⟨first ++ second, one.trans two⟩
    · obtain rfl := Option.some.inj ends
      exact ⟨[], Advance.refl _⟩

/--
A row that is due and not yet passed is served, or removed, or nearer to the front in the end.

It is skipped only by being moved in front of the loop.
-/
theorem dispatchLoop_serves {fuel position index : Nat} {state final : σ}
    (ends : dispatchLoop client fuel position state = some final)
    {slot : DispatchEntry φ α × PollFd} (row : (client.table state).slots[index]? = some slot)
    (ahead : position ≤ index) {call : Call φ α} (due : slotCall slot = some call) :
    ∃ effects, (client.table final).trace = (client.table state).trace ++ effects ∧
      (.called call ∈ effects ∨ .removed slot.2.registration ∈ effects ∨
        ∃ later < index, (client.table final).slots[later]? = some slot) := by
  -- By induction on the rounds: the row is here, or the round has removed or moved it.
  induction fuel generalizing position index state with
  | zero => cases ends
  | succ fuel ih =>
    have inside : position < (client.table state).numentries := by
      have bound := (List.getElem?_eq_some_iff.mp row).1
      rw [Dispatch.length_slots] at bound
      omega
    rw [dispatchLoop, if_pos inside] at ends
    obtain ⟨first, round, made⟩ := dispatchRow_advance client position state
    rcases Nat.eq_or_lt_of_le ahead with here | further
    · -- The loop is at the row itself.
      obtain ⟨second, rest⟩ := dispatchLoop_advance client ends
      refine ⟨first ++ second, (round.trans rest).trace, .inl (List.mem_append_left _ ?_)⟩
      exact made slot call (here ▸ row) due
    · rcases round.place index slot row with removed | ⟨later, front, moved⟩
      · obtain ⟨second, rest⟩ := dispatchLoop_advance client ends
        exact ⟨first ++ second, (round.trans rest).trace,
          .inr (.inl (List.mem_append_left _ removed))⟩
      · by_cases passed : later < position + 1
        · -- The row was moved in front of the loop, where it can only go further to the front.
          obtain ⟨second, rest⟩ := dispatchLoop_advance client ends
          refine ⟨first ++ second, (round.trans rest).trace, .inr ?_⟩
          rcases rest.place later slot moved with removed | ⟨last, front', moved'⟩
          · exact .inl (List.mem_append_right _ removed)
          · exact .inr ⟨last, by omega, moved'⟩
        · obtain ⟨second, trace, outcome⟩ := ih ends moved (by omega)
          refine ⟨first ++ second, by rw [trace, round.trace, List.append_assoc], ?_⟩
          rcases outcome with called | removed | ⟨last, front', moved'⟩
          · exact .inl (List.mem_append_right _ called)
          · exact .inr (.inl (List.mem_append_right _ removed))
          · exact .inr (.inr ⟨last, by omega, moved'⟩)

/-- Some passes, in each of which `poll` reports something that is due for a registration. -/
inductive Pressed (registration : Nat) : σ → Nat → σ → Prop where
  | done (state : σ) : Pressed registration state 0 state
  | pass {state next final : σ} {count fuel : Nat} {ready : Int} {revents : Nat → BitVec 16}
      {status : DispatchStatus} (handled : ready ≠ -1 ∧ ready ≠ 0)
      (due : ∀ slot ∈ ((client.table state).poll revents).slots,
        slot.2.registration = registration → (slotCall slot).isSome)
      (runs : dispatchRun client fuel ready revents state = some (next, status))
      (rest : Pressed registration next count final) :
      Pressed registration state (count + 1) final

/-- Where a registration is in the table. -/
def PlacedAt (table : Dispatch φ α) (index registration : Nat) : Prop :=
  ∃ slot, table.slots[index]? = some slot ∧ slot.2.registration = registration

/-- Polling leaves every registration in its place. -/
theorem PlacedAt.poll {table : Dispatch φ α} {index registration : Nat}
    (placed : PlacedAt table index registration) (revents : Nat → BitVec 16) :
    PlacedAt (table.poll revents) index registration := by
  -- Only the events that are reported are new.
  obtain ⟨⟨entry, fd⟩, row, named⟩ := placed
  obtain ⟨first, second⟩ := List.getElem?_zip_eq_some.mp row
  refine ⟨(entry, { fd with revents := revents index }), ?_, named⟩
  refine List.getElem?_zip_eq_some.mpr ⟨first, ?_⟩
  simp only [Dispatch.poll, List.getElem?_mapIdx]
  rw [show table.fds[index]? = some fd from second]
  rfl

/-- A pass that handles events is a run of the loop over what `poll` reported. -/
theorem dispatchRun_handled {fuel : Nat} {ready : Int} {revents : Nat → BitVec 16}
    {state next : σ} {status : DispatchStatus} (handled : ready ≠ -1 ∧ ready ≠ 0)
    (runs : dispatchRun client fuel ready revents state = some (next, status)) :
    dispatchLoop client fuel 0 (client.update (·.poll revents) state) = some next := by
  rw [dispatchRun, if_neg handled.1] at runs
  simp only [if_neg handled.2] at runs
  obtain ⟨_, ends, same⟩ := Option.map_eq_some_iff.mp runs
  rw [ends, (Prod.mk.inj same).1]

/-- Passes only add to the trace. -/
theorem Pressed.trace {registration count : Nat} {state final : σ}
    (pressed : Pressed client registration state count final) :
    ∃ effects, (client.table final).trace = (client.table state).trace ++ effects := by
  -- By induction on the passes, each of which is a run of the loop.
  induction pressed with
  | done state => exact ⟨[], by simp⟩
  | pass handled due runs rest ih =>
    obtain ⟨later, noted⟩ := ih
    obtain ⟨first, advance⟩ := dispatchLoop_advance client (dispatchRun_handled client handled runs)
    rw [client.table_update] at advance
    exact ⟨first ++ later, by rw [noted, advance.trace, List.append_assoc]; rfl⟩

/--
No registration starves.

A callback that removes rows can make the pass skip a registration for which an event was reported.
But a registration at some index is skipped at most that many times in a row: if `poll` reports
something for it in more passes than rows are in front of it, it is called or has been removed.
-/
theorem no_starvation {registration index count : Nat} {state final : σ}
    (pressed : Pressed client registration state count final)
    (placed : PlacedAt (client.table state) index registration) (enough : index < count) :
    ∃ effects, (client.table final).trace = (client.table state).trace ++ effects ∧
      (registration ∈ (calls effects).map (·.registration) ∨ .removed registration ∈ effects) := by
  -- Every pass that skips the registration brings it nearer to the front.
  induction pressed generalizing index with
  | done state => omega
  | @pass state next final count fuel ready revents status handled due runs rest ih =>
    obtain ⟨slot, row, named⟩ := placed.poll revents
    obtain ⟨call, called⟩ := Option.isSome_iff_exists.mp
      (due slot (List.mem_of_getElem? row) named)
    have ends := dispatchRun_handled client handled runs
    rw [← client.table_update (·.poll revents) state] at row
    obtain ⟨first, trace, outcome⟩ := dispatchLoop_serves client ends row (Nat.zero_le _) called
    rw [client.table_update] at trace
    rcases outcome with made | removed | ⟨later, front, moved⟩
    · obtain ⟨more, noted⟩ := rest.trace
      refine ⟨first ++ more, by rw [noted, trace, List.append_assoc]; rfl, .inl ?_⟩
      rw [calls_append, List.map_append]
      refine List.mem_append_left _ (List.mem_map.mpr ⟨call, mem_calls.mpr made, ?_⟩)
      exact (slotCall_some called).1.trans named
    · obtain ⟨more, noted⟩ := rest.trace
      refine ⟨first ++ more, by rw [noted, trace, List.append_assoc]; rfl, .inr ?_⟩
      exact List.mem_append_left _ (named ▸ removed)
    · obtain ⟨more, noted, served⟩ := ih ⟨slot, moved, named⟩ (by omega)
      refine ⟨first ++ more, by rw [noted, trace, List.append_assoc]; rfl, ?_⟩
      rcases served with made | removed
      · left
        rw [calls_append, List.map_append]
        exact List.mem_append_right _ made
      · exact .inr (List.mem_append_right _ removed)

/-- A program whose first registration takes itself off the table when it is called. -/
def leavesWhenCalled : DispatchClient Unit Unit (Dispatch Unit Unit) where
  table := id
  update change := change
  table_update _ _ := rfl
  invoke call table := if call.registration = 0 then applyOp table (.remove 0) else table
  operations call table := by
    by_cases first : call.registration = 0
    · exact ⟨[.remove 0], by simp [first]⟩
    · exact ⟨[], by simp [first]⟩

/-- Two descriptors that are both ready. -/
def twoReady : Dispatch Unit Unit :=
  dispatchAdd 4 pollIn (some ()) none none none
    (dispatchAdd 3 pollIn (some ()) none none none dispatchNew)

/-- The table behind a pass in which all descriptors are ready. -/
def allReady (ready : Int) (table : Dispatch Unit Unit) : Dispatch Unit Unit :=
  ((dispatchRun leavesWhenCalled 3 ready (fun _ => pollIn) table).map Prod.fst).getD table

/-- The second descriptor is skipped in the first pass, and called in the second one. -/
theorem no_starvation_skipped :
    (calls (allReady 2 twoReady).trace).map (·.registration) = [0] ∧
      ∃ effects, (allReady 1 (allReady 2 twoReady)).trace = twoReady.trace ++ effects ∧
        (1 ∈ (calls effects).map (·.registration) ∨ .removed 1 ∈ effects) := by
  -- The last row moves into the place of the first one, which the loop has passed.
  have one : dispatchRun leavesWhenCalled 3 2 (fun _ => pollIn) twoReady =
      some (allReady 2 twoReady, .eventHandled) := rfl
  have two : dispatchRun leavesWhenCalled 3 1 (fun _ => pollIn) (allReady 2 twoReady) =
      some (allReady 1 (allReady 2 twoReady), .eventHandled) := rfl
  have second : PlacedAt twoReady 1 1 := ⟨_, rfl, rfl⟩
  refine ⟨rfl, no_starvation leavesWhenCalled ?_ second (show 1 < 2 by decide)⟩
  exact .pass (by decide) (by decide) one (.pass (by decide) (by decide) two (.done _))

end Daliserver

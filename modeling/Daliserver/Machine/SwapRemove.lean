import Mathlib.Data.List.Induction
import Mathlib.Data.List.Nodup

/-! A table in which the last row moves into the place of a removed one. -/

namespace Machine

variable {β γ : Type}

/-- Removes a position by moving the last element into it. -/
def swapRemove (rows : List β) (index : Nat) : List β :=
  match rows.getLast? with
  | none => []
  -- If the position is itself the last one, it is overwritten by its own value.
  | some last => (rows.set index last).dropLast

/-- One row less remains. -/
@[simp] theorem length_swapRemove (rows : List β) (index : Nat) :
    (swapRemove rows index).length = rows.length - 1 := by
  -- Overwriting keeps the length, so only the dropped last row counts.
  unfold swapRemove
  cases rows using List.reverseRecOn with
  | nil => rfl
  | append_singleton front last => simp

/-- Removing a row and rewriting all rows may be done in any order. -/
theorem map_swapRemove (change : β → γ) (rows : List β) (index : Nat) :
    (swapRemove rows index).map change = swapRemove (rows.map change) index := by
  -- The last row moves under its image, whichever row it replaces.
  unfold swapRemove
  rw [List.getLast?_map]
  cases rows.getLast? with
  | none => rfl
  | some last => simp [List.map_dropLast, List.map_set]

/-- Below the new end, only the vacated position reads differently. -/
theorem getElem?_swapRemove (rows : List β) {index position : Nat} (valid : index < rows.length)
    (inside : position + 1 < rows.length) :
    (swapRemove rows index)[position]? =
      if position = index then rows.getLast? else rows[position]? := by
  -- The list ends somewhere, because the vacated position lies in it.
  have nonempty : rows ≠ [] := List.ne_nil_of_length_pos (by omega)
  obtain ⟨last, ends⟩ := Option.isSome_iff_exists.mp
    (List.getLast?_isSome.mpr nonempty)
  simp only [swapRemove, ends]
  rw [List.getElem?_dropLast, if_pos (by simp; omega), List.getElem?_set]
  by_cases vacated : position = index
  · simp [vacated, valid]
  · have apart : index ≠ position := fun same => vacated same.symm
    simp [vacated, apart]

/-- Nothing changes in front of the vacated position. -/
theorem take_swapRemove {rows : List β} {index : Nat} (valid : index < rows.length) :
    (swapRemove rows index).take index = rows.take index := by
  -- Only the vacated row and the rows past the end change.
  apply List.ext_getElem?
  intro position
  rw [List.getElem?_take, List.getElem?_take]
  by_cases before : position < index
  · rw [if_pos before, if_pos before, getElem?_swapRemove rows valid (by omega),
      if_neg (by omega)]
  · rw [if_neg before, if_neg before]

/-- Rows only ever move towards the front. -/
theorem mem_drop_of_mem_drop_swapRemove {rows : List β} {index start : Nat} {row : β}
    (valid : index < rows.length) (member : row ∈ (swapRemove rows index).drop start) :
    row ∈ rows.drop start := by
  obtain ⟨offset, found⟩ := List.mem_iff_getElem?.mp member
  rw [List.getElem?_drop] at found
  have bound := (List.getElem?_eq_some_iff.mp found).1
  rw [length_swapRemove] at bound
  rw [getElem?_swapRemove rows valid (by omega)] at found
  -- The row stands where it was, or it came from the very end.
  rw [List.mem_iff_getElem?]
  split at found
  · rw [List.getLast?_eq_getElem?] at found
    refine ⟨rows.length - 1 - start, ?_⟩
    rw [List.getElem?_drop]
    have position : start + (rows.length - 1 - start) = rows.length - 1 := by omega
    rw [position]
    exact found
  · exact ⟨offset, by rw [List.getElem?_drop]; exact found⟩

/-- Nothing remains that was not there before. -/
theorem mem_of_mem_swapRemove {rows : List β} {index : Nat} {row : β}
    (valid : index < rows.length) (member : row ∈ swapRemove rows index) : row ∈ rows := by
  -- Membership is the drop at zero, where nothing lies before the vacated row.
  rw [← List.drop_zero (l := rows)]
  exact mem_drop_of_mem_drop_swapRemove valid member

/-- The rows that remain are all but the removed one. -/
theorem perm_swapRemove {rows : List β} {index : Nat} {row : β}
    (found : rows[index]? = some row) : rows.Perm (row :: swapRemove rows index) := by
  obtain ⟨valid, named⟩ := List.getElem?_eq_some_iff.mp found
  -- The list is split around the removed row, whose successors may be none.
  have parts : rows = rows.take index ++ row :: rows.drop (index + 1) := by
    rw [← named, List.getElem_cons_drop, List.take_append_drop]
  have front : (rows.take index).length = index := by
    rw [List.length_take]
    omega
  generalize rows.take index = before at parts front
  generalize rows.drop (index + 1) = after at parts
  subst parts
  cases after using List.reverseRecOn with
  | nil =>
    have removed : swapRemove (before ++ [row]) index = before := by
      simp [swapRemove, ← front]
    rw [removed]
    exact List.perm_append_comm
  | append_singleton middle last =>
    have removed : swapRemove (before ++ row :: (middle ++ [last])) index =
        before ++ last :: middle := by
      have ends : (before ++ row :: (middle ++ [last])).getLast? = some last := by
        rw [List.getLast?_append, List.getLast?_cons, List.getLast?_concat]
        rfl
      simp only [swapRemove, ends]
      rw [← front, List.set_append_right _ _ (Nat.le_refl _)]
      have shape : before ++ (row :: (middle ++ [last])).set (before.length - before.length) last =
          (before ++ last :: middle) ++ [last] := by simp
      rw [shape, List.dropLast_concat]
    rw [removed]
    refine List.perm_middle.trans (List.Perm.cons row ?_)
    exact List.Perm.append_left before List.perm_append_comm

/-- Parallel tables stay parallel when the same position is removed from both. -/
theorem zip_swapRemove {first : List β} {second : List γ} (parallel : first.length = second.length)
    (index : Nat) :
    (swapRemove first index).zip (swapRemove second index) =
      swapRemove (first.zip second) index := by
  -- Both projections of the zipped removal are the separate removals, which fixes the pairs.
  have left : (swapRemove (first.zip second) index).map Prod.fst = swapRemove first index := by
    rw [map_swapRemove, List.map_fst_zip (by omega)]
  have right : (swapRemove (first.zip second) index).map Prod.snd = swapRemove second index := by
    rw [map_swapRemove, List.map_snd_zip (by omega)]
  exact (List.zip_of_prod left right).symm

end Machine

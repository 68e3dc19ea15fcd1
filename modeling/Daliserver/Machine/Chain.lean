import Mathlib.Data.List.Induction
import Mathlib.Data.List.Nodup

/-! Doubly linked chains of cells in a memory, and the sequences they hold. -/

namespace Machine

variable {ι α : Type}

/-- A cell that points to its neighbours, where `none` is NULL. -/
structure Cell (ι α : Type) where
  prev : Option ι
  next : Option ι
  data : α
deriving DecidableEq, Repr

/-- The cells in use. Nothing may be read or written elsewhere. -/
abbrev Memory (ι α : Type) := ι → Option (Cell ι α)

/-- The address of the first entry, or what comes behind an empty sequence. -/
def front : List (ι × α) → Option ι → Option ι
  | [], behind => behind
  | entry :: _, _ => some entry.1

/-- The address of the last entry, or what comes ahead of an empty sequence. -/
def back : Option ι → List (ι × α) → Option ι
  | ahead, [] => ahead
  | _, entry :: rest => back (some entry.1) rest

/-- Cells that hold a sequence and are linked to each other and to what surrounds them. -/
def Segment (memory : Memory ι α) : Option ι → List (ι × α) → Option ι → Prop
  | _, [], _ => True
  | ahead, entry :: rest, behind =>
    memory entry.1 = some ⟨ahead, front rest behind, entry.2⟩ ∧
      -- The rest is preceded by this entry.
      Segment memory (some entry.1) rest behind

theorem front_append (first second : List (ι × α)) (behind : Option ι) :
    front (first ++ second) behind = front first (front second behind) := by
  cases first <;> rfl

theorem back_append (ahead : Option ι) (first second : List (ι × α)) :
    back ahead (first ++ second) = back (back ahead first) second := by
  induction first generalizing ahead with
  | nil => rfl
  | cons entry rest ih => exact ih (some entry.1)

/-- There is a last entry exactly if there is a first one. -/
theorem back_none_iff {entries : List (ι × α)} : back none entries = none ↔ entries = [] := by
  -- The address at the back is the one of the last entry.
  cases entries using List.reverseRecOn with
  | nil => simp [back]
  | append_singleton before last => simp [back_append, back]

theorem front_none_iff {entries : List (ι × α)} : front entries none = none ↔ entries = [] := by
  cases entries <;> simp [front]

/-- An entry is at the front exactly if there is nothing before it. -/
theorem front_eq_iff {before after : List (ι × α)} {entry : ι × α} {behind : Option ι}
    (absent : entry.1 ∉ before.map Prod.fst) :
    front (before ++ entry :: after) behind = some entry.1 ↔ before = [] := by
  -- Any entry before it has another address.
  cases before with
  | nil => simp [front]
  | cons first rest =>
    have apart : first.1 ≠ entry.1 := fun same => absent (by simp [same])
    simp [front, apart]

/-- An entry is at the back exactly if there is nothing after it. -/
theorem back_eq_iff {before after : List (ι × α)} {entry : ι × α} {ahead : Option ι}
    (absent : entry.1 ∉ after.map Prod.fst) :
    back ahead (before ++ entry :: after) = some entry.1 ↔ after = [] := by
  -- Any entry after it has another address, the last one in particular.
  cases after using List.reverseRecOn with
  | nil => simp [back_append, back]
  | append_singleton front last =>
    have apart : last.1 ≠ entry.1 := fun same => absent (by simp [same])
    simp [back_append, back, apart]

/-- A segment is made of its parts, each linked to the other. -/
theorem segment_append {memory : Memory ι α} {ahead behind : Option ι}
    {first second : List (ι × α)} :
    Segment memory ahead (first ++ second) behind ↔
      Segment memory ahead first (front second behind) ∧
        Segment memory (back ahead first) second behind := by
  -- The second part starts behind the last entry of the first one.
  induction first generalizing ahead with
  | nil => simp [Segment, back]
  | cons entry rest ih =>
    rw [List.cons_append, Segment, Segment, ih, front_append, back, and_assoc]

/-- Only the cells of a segment matter to it. -/
theorem Segment.congr {memory other : Memory ι α} {ahead behind : Option ι}
    {entries : List (ι × α)} (segment : Segment memory ahead entries behind)
    (same : ∀ address ∈ entries.map Prod.fst, other address = memory address) :
    Segment other ahead entries behind := by
  -- Each cell is read where the two memories agree.
  induction entries generalizing ahead with
  | nil => trivial
  | cons entry rest ih =>
    refine ⟨(same entry.1 (by simp)).trans segment.1, ih segment.2 fun address member => ?_⟩
    exact same address (List.mem_cons_of_mem _ member)

/-- Every entry is found in its cell. -/
theorem Segment.found {memory : Memory ι α} {ahead behind : Option ι} {entries : List (ι × α)}
    (segment : Segment memory ahead entries behind) {entry : ι × α} (member : entry ∈ entries) :
    ∃ cell, memory entry.1 = some cell ∧ cell.data = entry.2 := by
  obtain ⟨before, after, rfl⟩ := List.append_of_mem member
  exact ⟨_, (segment_append.mp segment).2.1, rfl⟩

section Follow

/-- Follows pointers up to NULL, unless the rounds run out or a pointer leads nowhere. -/
def follow (pointer : Cell ι α → Option ι) (memory : Memory ι α) :
    Nat → Option ι → Option (List ι)
  | _, none => some []
  | 0, some _ => none
  -- An address that is not in use ends the walk without a result.
  | rounds + 1, some address => (memory address).bind fun cell =>
    (follow pointer memory rounds (pointer cell)).map (address :: ·)

/-- Following the next pointers visits the entries in order. -/
theorem Segment.follow_next {memory : Memory ι α} {ahead : Option ι} {entries : List (ι × α)}
    (segment : Segment memory ahead entries none) {rounds : Nat}
    (enough : entries.length ≤ rounds) :
    follow Cell.next memory rounds (front entries none) = some (entries.map Prod.fst) := by
  -- Each round follows one pointer, so as many rounds as entries are enough.
  induction entries generalizing ahead rounds with
  | nil => simp [front, follow]
  | cons entry rest ih =>
    cases rounds with
    | zero => exact absurd enough (by simp)
    | succ rounds =>
      have further := ih segment.2 (Nat.le_of_succ_le_succ enough)
      rw [front, follow, segment.1]
      simp [further]

/-- Following the previous pointers visits them in the opposite order. -/
theorem Segment.follow_prev {memory : Memory ι α} {behind : Option ι} {entries : List (ι × α)}
    (segment : Segment memory none entries behind) {rounds : Nat}
    (enough : entries.length ≤ rounds) :
    follow Cell.prev memory rounds (back none entries) =
      some (entries.map Prod.fst).reverse := by
  -- The last entry is visited first, so the induction takes entries off the end.
  induction entries using List.reverseRecOn generalizing behind rounds with
  | nil => simp [back, follow]
  | append_singleton before last ih =>
    obtain ⟨earlier, cell, -⟩ := segment_append.mp segment
    rw [List.length_append, List.length_singleton] at enough
    cases rounds with
    | zero => exact absurd enough (by simp)
    | succ rounds =>
      have further := ih earlier (Nat.le_of_succ_le_succ enough)
      simp [back_append, back, follow, cell, further]

end Follow

section Relink

variable [DecidableEq ι]

/-- Assigns to the next pointer of a cell, if the pointer to the cell is not NULL. -/
def setNext (pointer next : Option ι) (memory : Memory ι α) : Option (Memory ι α) :=
  match pointer with
  | none => some memory
  | some address => (memory address).map fun cell =>
    Function.update memory address (some { cell with next })

/-- Assigns to the previous pointer of a cell, if the pointer to the cell is not NULL. -/
def setPrev (pointer prev : Option ι) (memory : Memory ι α) : Option (Memory ι α) :=
  match pointer with
  | none => some memory
  | some address => (memory address).map fun cell =>
    Function.update memory address (some { cell with prev })

/-- Writing elsewhere leaves a segment alone. -/
theorem Segment.update {memory : Memory ι α} {ahead behind : Option ι} {entries : List (ι × α)}
    (segment : Segment memory ahead entries behind) {address : ι}
    (absent : address ∉ entries.map Prod.fst) (value : Option (Cell ι α)) :
    Segment (Function.update memory address value) ahead entries behind := by
  apply segment.congr
  intro other member
  have apart : other ≠ address := fun same => absent (same ▸ member)
  exact Function.update_of_ne apart _ _

/-- The end of a chain can be linked to something else. -/
theorem Segment.setNext_back {memory : Memory ι α} {behind : Option ι} {entries : List (ι × α)}
    (segment : Segment memory none entries behind) (distinct : (entries.map Prod.fst).Nodup)
    (next : Option ι) :
    ∃ linked, setNext (back none entries) next memory = some linked ∧
      Segment linked none entries next ∧
      ∀ address ∉ entries.map Prod.fst, linked address = memory address := by
  -- The last cell is written, and the ones before it are other cells.
  cases entries using List.reverseRecOn with
  | nil => exact ⟨memory, rfl, trivial, fun _ _ => rfl⟩
  | append_singleton before last =>
    obtain ⟨earlier, cell, -⟩ := segment_append.mp segment
    rw [List.map_append, List.nodup_append'] at distinct
    have absent : last.1 ∉ before.map Prod.fst := by simpa using distinct.2.2
    refine ⟨_, by rw [back_append, back, back, setNext, cell]; rfl, ?_, ?_⟩
    · rw [segment_append]
      exact ⟨earlier.update absent _, Function.update_self .., trivial⟩
    · intro address elsewhere
      refine Function.update_of_ne ?_ _ _
      rintro rfl
      simp at elsewhere

/-- The start of a chain can be linked to something else. -/
theorem Segment.setPrev_front {memory : Memory ι α} {ahead : Option ι} {entries : List (ι × α)}
    (segment : Segment memory ahead entries none) (distinct : (entries.map Prod.fst).Nodup)
    (prev : Option ι) :
    ∃ linked, setPrev (front entries none) prev memory = some linked ∧
      Segment linked prev entries none ∧
      ∀ address ∉ entries.map Prod.fst, linked address = memory address := by
  -- The first cell is written, and the ones behind it are other cells.
  cases entries with
  | nil => exact ⟨memory, rfl, trivial, fun _ _ => rfl⟩
  | cons first rest =>
    rw [List.map_cons, List.nodup_cons] at distinct
    refine ⟨_, by rw [front, setPrev, segment.1]; rfl, ?_, ?_⟩
    · exact ⟨Function.update_self .., segment.2.update distinct.1 _⟩
    · intro address elsewhere
      refine Function.update_of_ne ?_ _ _
      rintro rfl
      simp at elsewhere

end Relink

end Machine

import Mathlib.Data.List.Basic

/-! Streams made of writes, of which only the last one may have been cut short. -/

namespace Machine

/-- A write, and how much of it was taken. -/
structure Write (β : Type) where
  contents : List β
  taken : Nat
deriving DecidableEq, Repr

variable {β : Type}

/-- Nothing of the contents got lost. -/
def Write.Whole (write : Write β) : Prop := write.contents.length ≤ write.taken

/-- What there is to be read at the other end of the stream. -/
def delivered (writes : List (Write β)) : List β :=
  writes.flatMap fun write => write.contents.take write.taken

/-- No write came after one that was cut short. -/
def Unbroken (writes : List (Write β)) : Prop := ∀ write ∈ writes.dropLast, write.Whole

/-- After whole writes there may be any other. -/
theorem unbroken_concat {writes : List (Write β)} (whole : ∀ write ∈ writes, write.Whole)
    (last : Write β) : Unbroken (writes ++ [last]) := by
  -- All but the last write are those that were there before.
  rw [Unbroken, List.dropLast_concat]
  exact whole

/-- The stream is one block after the other, and at most one of them is incomplete. -/
structure Cut (size : Nat) (writes : List (Write β)) (complete : List (List β)) (rest : List β) :
    Prop where
  written : ∃ torn, writes.map (·.contents) = complete ++ torn ∧ torn.length ≤ 1
  stream : delivered writes = complete.flatten ++ rest
  short : rest.length < size
  -- Nothing is missing unless a write was cut short.
  all : (∀ write ∈ writes, write.Whole) → complete = writes.map (·.contents)

/-- A stream of blocks is cut short within the last one only. -/
theorem Unbroken.cut {size : Nat} (positive : 0 < size) {writes : List (Write β)}
    (unbroken : Unbroken writes) (even : ∀ write ∈ writes, write.contents.length = size) :
    ∃ complete rest, Cut size writes complete rest := by
  -- By induction on the writes; the first one that was cut short has none behind it.
  induction writes with
  | nil => exact ⟨[], [], ⟨[], rfl, Nat.zero_le _⟩, rfl, positive, fun _ => rfl⟩
  | cons first others ih =>
    have length := even first (by simp)
    by_cases whole : first.Whole
    · -- The first block is delivered, and the rest of the stream follows.
      have behind : Unbroken others := by
        intro write member
        refine unbroken write ?_
        cases others with
        | nil => cases member
        | cons second others => exact List.mem_cons_of_mem _ member
      obtain ⟨complete, rest, ⟨torn, written, single⟩, stream, short, all⟩ :=
        ih behind fun write member => even write (List.mem_cons_of_mem _ member)
      refine ⟨first.contents :: complete, rest, ⟨torn, by simp [written], single⟩, ?_, short, ?_⟩
      · simp only [delivered, List.flatMap_cons, List.flatten_cons, List.append_assoc] at stream ⊢
        rw [stream, List.take_of_length_le whole]
      · intro each
        rw [all fun write member => each write (List.mem_cons_of_mem _ member), List.map_cons]
    · -- A block that was cut short is the last one.
      have last : others = [] := by
        cases others with
        | nil => rfl
        | cons second others => exact absurd (unbroken first (by simp)) whole
      subst last
      refine ⟨[], first.contents.take first.taken, ⟨[first.contents], rfl, Nat.le_refl _⟩,
        by simp [delivered], ?_, fun each => absurd (each first (by simp)) whole⟩
      rw [List.length_take, ← length]
      exact Nat.lt_of_le_of_lt (Nat.min_le_left _ _) (Nat.lt_of_not_le whole)

/-- Blocks of one size, and less than another one behind them, are as many as fit. -/
theorem blocks_count {size : Nat} {blocks : List (List β)}
    (even : ∀ block ∈ blocks, block.length = size) {rest : List β} (short : rest.length < size) :
    (blocks.flatten ++ rest).length / size = blocks.length := by
  have sizes : (blocks.map List.length).sum = blocks.length * size := by
    rw [List.map_congr_left even, List.map_const', List.sum_replicate_nat]
  rw [List.length_append, List.length_flatten, sizes, Nat.add_comm,
    Nat.add_mul_div_right _ _ (by omega), Nat.div_eq_of_lt short, Nat.zero_add]

/-- What has arrived of a stream of blocks is the first ones of them, and a part of another one. -/
theorem front_of_blocks {size : Nat} {blocks : List (List β)}
    (even : ∀ block ∈ blocks, block.length = size) {rest : List β} (short : rest.length < size)
    {front : List β} (arrived : front <+: blocks.flatten ++ rest) :
    front = (blocks.take (front.length / size)).flatten ++
        front.drop (size * (front.length / size)) ∧
      front.length / size ≤ blocks.length := by
  -- By induction on the blocks; as long as a whole one has arrived, it is the first one.
  induction blocks generalizing front with
  | nil =>
    have less : front.length / size = 0 :=
      Nat.div_eq_of_lt (Nat.lt_of_le_of_lt arrived.length_le (by simpa using short))
    simp [less]
  | cons first others ih =>
    have length := even first (by simp)
    by_cases whole : size ≤ front.length
    · -- The first block is in front, and the others are those of what is behind it.
      rw [List.flatten_cons, List.append_assoc] at arrived
      obtain ⟨behind, rfl⟩ : first <+: front :=
        List.prefix_of_prefix_length_le (List.prefix_append _ _) arrived (by omega)
      have later := (List.prefix_append_right_inj first).mp arrived
      obtain ⟨split, bound⟩ := ih (fun block member => even block (by simp [member])) later
      have count : (first ++ behind).length / size = behind.length / size + 1 := by
        rw [List.length_append, length, Nat.add_comm, Nat.add_div_right _ (by omega)]
      have past : size * (behind.length / size + 1) =
          first.length + size * (behind.length / size) := by
        rw [length, Nat.mul_succ, Nat.add_comm]
      rw [count, past, List.take_succ_cons, List.flatten_cons, List.drop_length_add_append,
        List.append_assoc, ← split]
      exact ⟨rfl, Nat.succ_le_succ bound⟩
    · have less : front.length / size = 0 := Nat.div_eq_of_lt (Nat.not_le.mp whole)
      simp [less]

end Machine

import Mathlib.Data.List.Infix

/-! Patterns that are searched for in a text, and tables in which the first one found decides. -/

namespace Machine

variable {α β : Type}

/-- A part of a pattern, for letters that a test accepts. -/
inductive Piece (α : Type) where
  | one (accepts : α → Bool)
  | optional (accepts : α → Bool)
  | many (accepts : α → Bool)

/-- What a part stands for. -/
def Piece.Accepts : Piece α → List α → Prop
  | .one accepts, text => ∃ letter, text = [letter] ∧ accepts letter = true
  | .optional accepts, text => text = [] ∨ ∃ letter, text = [letter] ∧ accepts letter = true
  | .many accepts, text => ∀ letter ∈ text, accepts letter = true

/-- What some parts stand for, one after the other. -/
def Spells : List (Piece α) → List α → Prop
  | [], text => text = []
  | piece :: pieces, text =>
    ∃ first second, text = first ++ second ∧ piece.Accepts first ∧ Spells pieces second

/-- Alternatives to look for, anywhere in a text or only at its beginning. -/
structure Pattern (α : Type) where
  anchored : Bool
  alternatives : List (List (Piece α))

/-- One of the alternatives is found in a text. -/
def Pattern.Matches (pattern : Pattern α) (text : List α) : Prop :=
  ∃ pieces ∈ pattern.alternatives, ∃ before middle after,
    text = before ++ (middle ++ after) ∧ Spells pieces middle ∧
      (pattern.anchored = true → before = [])

/-- What may be left of a text behind a run of accepted letters. -/
def restsOfMany (accepts : α → Bool) : List α → List (List α)
  | [] => [[]]
  | letter :: text => (letter :: text) :: if accepts letter then restsOfMany accepts text else []

/-- What may be left of a text behind a single accepted letter. -/
def restsOfOne (accepts : α → Bool) : List α → List (List α)
  | [] => []
  | letter :: text => if accepts letter then [text] else []

/-- What may be left of a text behind a part of a pattern. -/
def Piece.rests : Piece α → List α → List (List α)
  | .one accepts, text => restsOfOne accepts text
  | .optional accepts, text => text :: restsOfOne accepts text
  | .many accepts, text => restsOfMany accepts text

/-- Whether a text begins with some parts, trying what each of them may leave. -/
def beginsWith : List (Piece α) → List α → Bool
  | [], _ => true
  | piece :: pieces, text => (piece.rests text).any (beginsWith pieces)

/-- Whether one of the alternatives is found in a text. -/
def Pattern.test (pattern : Pattern α) (text : List α) : Bool :=
  pattern.alternatives.any fun pieces =>
    if pattern.anchored then beginsWith pieces text else text.tails.any (beginsWith pieces)

/-- The entry of the first pattern in a table that is found in a text. -/
def firstMatch (table : List (Pattern α × β)) (text : List α) : Option β :=
  (table.find? fun entry => entry.1.test text).map Prod.snd

/-- A single letter is left out if it is accepted. -/
theorem mem_restsOfOne {accepts : α → Bool} {text rest : List α} :
    rest ∈ restsOfOne accepts text ↔
      ∃ letter, text = letter :: rest ∧ accepts letter = true := by
  cases text with
  | nil => simp [restsOfOne]
  | cons letter text =>
    simp only [restsOfOne]
    constructor
    · intro member
      by_cases accepted : accepts letter = true
      · rw [if_pos accepted, List.mem_singleton] at member
        exact ⟨letter, by rw [member], accepted⟩
      · simp [accepted] at member
    · rintro ⟨other, split, accepted⟩
      obtain ⟨rfl, rfl⟩ := List.cons.inj split
      simp [accepted]

/-- Any number of accepted letters may be left out. -/
theorem mem_restsOfMany {accepts : α → Bool} {text rest : List α} :
    rest ∈ restsOfMany accepts text ↔
      ∃ first, text = first ++ rest ∧ ∀ letter ∈ first, accepts letter = true := by
  induction text with
  | nil => simp [restsOfMany]
  | cons letter text ih =>
    constructor
    · intro member
      rcases List.mem_cons.mp member with rfl | later
      · exact ⟨[], rfl, by simp⟩
      · -- The first letter is accepted, and what follows it is left by the rest of the run.
        by_cases accepted : accepts letter = true
        · rw [if_pos accepted] at later
          obtain ⟨first, rfl, all⟩ := ih.mp later
          exact ⟨letter :: first, rfl, by simpa [accepted] using all⟩
        · simp [accepted] at later
    · rintro ⟨first, split, all⟩
      cases first with
      | nil => exact List.mem_cons.mpr (.inl split.symm)
      | cons other first =>
        obtain ⟨rfl, rfl⟩ := List.cons.inj split
        have accepted : accepts letter = true := all letter (by simp)
        refine List.mem_cons_of_mem _ ?_
        rw [if_pos accepted]
        exact ih.mpr ⟨first, rfl, fun other member => all other (by simp [member])⟩

/-- A part leaves what is behind something that it stands for. -/
theorem Piece.mem_rests {piece : Piece α} {text rest : List α} :
    rest ∈ piece.rests text ↔ ∃ first, text = first ++ rest ∧ piece.Accepts first := by
  cases piece with
  | one accepts =>
    simp only [Piece.rests, Piece.Accepts, mem_restsOfOne]
    constructor
    · rintro ⟨letter, rfl, accepted⟩
      exact ⟨[letter], rfl, letter, rfl, accepted⟩
    · rintro ⟨first, rfl, letter, rfl, accepted⟩
      exact ⟨letter, rfl, accepted⟩
  | optional accepts =>
    simp only [Piece.rests, Piece.Accepts, List.mem_cons, mem_restsOfOne]
    constructor
    · rintro (rfl | ⟨letter, rfl, accepted⟩)
      · exact ⟨[], rfl, .inl rfl⟩
      · exact ⟨[letter], rfl, .inr ⟨letter, rfl, accepted⟩⟩
    · rintro ⟨first, rfl, rfl | ⟨letter, rfl, accepted⟩⟩
      · exact .inl rfl
      · exact .inr ⟨letter, rfl, accepted⟩
  | many accepts => exact mem_restsOfMany

/-- A text begins with some parts if something they stand for is in front of it. -/
theorem beginsWith_iff {pieces : List (Piece α)} {text : List α} :
    beginsWith pieces text = true ↔
      ∃ middle after, text = middle ++ after ∧ Spells pieces middle := by
  induction pieces generalizing text with
  | nil => simp [beginsWith, Spells]
  | cons piece pieces ih =>
    simp only [beginsWith, List.any_eq_true, Piece.mem_rests, ih, Spells]
    constructor
    · rintro ⟨_, ⟨first, rfl, accepted⟩, middle, after, rfl, spelled⟩
      exact ⟨first ++ middle, after, by simp, first, middle, rfl, accepted, spelled⟩
    · rintro ⟨_, after, rfl, first, second, rfl, accepted, spelled⟩
      exact ⟨second ++ after, ⟨first, by simp, accepted⟩, second, after, rfl, spelled⟩

/-- The test finds a pattern exactly if it is there. -/
theorem Pattern.test_iff {pattern : Pattern α} {text : List α} :
    pattern.test text = true ↔ pattern.Matches text := by
  simp only [Pattern.test, Pattern.Matches, List.any_eq_true]
  refine exists_congr fun pieces => and_congr_right fun _ => ?_
  cases anchored : pattern.anchored with
  | true =>
    simp only [if_true, beginsWith_iff, true_implies]
    constructor
    · rintro ⟨middle, after, rfl, spelled⟩
      exact ⟨[], middle, after, rfl, spelled, rfl⟩
    · rintro ⟨_, middle, after, rfl, spelled, rfl⟩
      exact ⟨middle, after, rfl, spelled⟩
  | false =>
    -- What the search begins with is a tail, and in front of it anything may be.
    simp only [Bool.false_eq_true, if_false, List.any_eq_true, List.mem_tails, beginsWith_iff,
      false_implies, and_true]
    constructor
    · rintro ⟨_, ⟨before, rfl⟩, middle, after, rfl, spelled⟩
      exact ⟨before, middle, after, rfl, spelled⟩
    · rintro ⟨before, middle, after, rfl, spelled⟩
      exact ⟨middle ++ after, ⟨before, rfl⟩, middle, after, rfl, spelled⟩

/-- An entry decides if its pattern is found and those in front of it are not. -/
theorem firstMatch_of_split {before after : List (Pattern α × β)} {pattern : Pattern α}
    {entry : β} {text : List α} (found : pattern.Matches text)
    (earlier : ∀ other ∈ before, ¬ other.1.Matches text) :
    firstMatch (before ++ (pattern, entry) :: after) text = some entry := by
  have passed : before.find? (fun other => other.1.test text) = none := by
    rw [List.find?_eq_none]
    intro other member
    rw [Pattern.test_iff]
    exact earlier other member
  have here : pattern.test text = true := Pattern.test_iff.mpr found
  simp [firstMatch, List.find?_append, passed, here]

end Machine

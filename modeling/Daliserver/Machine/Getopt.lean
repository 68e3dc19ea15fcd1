import Mathlib.Data.List.Basic

/-! Command lines as getopt takes them apart, and settings that may be given in any order. -/

namespace Machine

/-- What a call of getopt finds, as long as it does not find the end. -/
inductive Found where
  | flag (letter : Char)
  | value (letter : Char) (optarg : List Char)
  -- An unknown letter, or one without the argument that it needs.
  | refused
deriving DecidableEq, Repr

/-- The letter that was found. -/
def Found.letter : Found → Option Char
  | .flag letter => some letter
  | .value letter _ => some letter
  | .refused => none

/-- Whether an option string knows a letter, and whether this takes an argument. -/
def takes : List Char → Char → Option Bool
  | [], _ => none
  | known :: rest, letter =>
    -- The colon marks arguments and is no option itself.
    if known = letter ∧ letter ≠ ':' then some (rest.head? == some ':') else takes rest letter

/-- The options in one word, and the letter that still needs its argument. -/
def cluster (optstring : List Char) : List Char → List Found × Option Char
  | [] => ([], none)
  | letter :: text =>
    match takes optstring letter with
    -- The letters behind an unknown one are looked at nevertheless.
    | none => (.refused :: (cluster optstring text).1, (cluster optstring text).2)
    | some false => (.flag letter :: (cluster optstring text).1, (cluster optstring text).2)
    -- The argument is the rest of the word, if there is any.
    | some true => if text = [] then ([], some letter) else ([.value letter text], none)

/-- What the calls of getopt find in the words of a command line. -/
def scan (optstring : List Char) (permute : Bool) : Option Char → List (List Char) → List Found
  | none, [] => []
  -- The argument is missing.
  | some _, [] => [.refused]
  | some letter, optarg :: words => .value letter optarg :: scan optstring permute none words
  -- Two dashes end the options.
  | none, ['-', '-'] :: _ => []
  | none, ('-' :: letter :: text) :: words =>
    (cluster optstring (letter :: text)).1 ++
      scan optstring permute (cluster optstring (letter :: text)).2 words
  -- An operand is skipped where words are permuted, and ends the options elsewhere.
  | none, _ :: words => if permute then scan optstring permute none words else []

/-- What the calls of getopt find, the name of the program apart. -/
def getopt (optstring : List Char) (permute : Bool) (argv : List (List Char)) : List Found :=
  scan optstring permute none (argv.drop 1)

/-- A letter with its argument in the next word. -/
theorem scan_value {optstring : List Char} {letter : Char}
    (known : takes optstring letter = some true) (plain : letter ≠ '-') (permute : Bool)
    (optarg : List Char) (words : List (List Char)) :
    scan optstring permute none (['-', letter] :: optarg :: words) =
      .value letter optarg :: scan optstring permute none words := by
  -- The word has no more letters, so the next word is the argument.
  rw [scan]
  · simp [cluster, known, scan]
  · exact fun ended _ => plain ended

/-- A letter without an argument, as a word of its own. -/
theorem scan_flag {optstring : List Char} {letter : Char}
    (known : takes optstring letter = some false) (plain : letter ≠ '-') (permute : Bool)
    (words : List (List Char)) :
    scan optstring permute none (['-', letter] :: words) =
      .flag letter :: scan optstring permute none words := by
  -- The word ends with the letter, and the next one starts anew.
  rw [scan]
  · simp [cluster, known]
  · exact fun ended _ => plain ended

/-- The words that give an option, an argument in a word of its own. -/
def Found.words : Found → List (List Char)
  | .flag letter => [['-', letter]]
  | .value letter optarg => [['-', letter], optarg]
  | .refused => []

/-- An option that an option string allows. -/
def Found.Known (optstring : List Char) : Found → Prop
  | .flag letter => takes optstring letter = some false ∧ letter ≠ '-'
  | .value letter _ => takes optstring letter = some true ∧ letter ≠ '-'
  | .refused => False

/-- Options that are written out are found again. -/
theorem scan_words {optstring : List Char} {options : List Found}
    (known : ∀ option ∈ options, option.Known optstring) (permute : Bool) :
    scan optstring permute none (options.flatMap Found.words) = options := by
  -- By induction on the options, each of which is written in words of its own.
  induction options with
  | nil => rfl
  | cons option options ih =>
    have here := known option (by simp)
    have later := ih fun other member => known other (by simp [member])
    rw [List.flatMap_cons]
    cases option with
    | flag letter =>
      rw [Found.words, List.singleton_append, scan_flag here.1 here.2, later]
    | value letter optarg =>
      rw [Found.words, List.cons_append, List.singleton_append, scan_value here.1 here.2, later]
    | refused => exact here.elim

section Arrange

variable {σ α κ : Type} {step : σ → α → Option σ} {key : α → κ}

/-- Steps with different keys may be swapped. -/
def Commutes (step : σ → α → Option σ) (key : α → κ) : Prop :=
  ∀ state first second, key first ≠ key second →
    (step state first).bind (step · second) = (step state second).bind (step · first)

/-- A step may be taken first if its key does not occur in front of it. -/
theorem Commutes.toFront (commutes : Commutes step key) {before : List α} {item : α}
    (absent : ∀ other ∈ before, key other ≠ key item) (after : List α) (state : σ) :
    (before ++ item :: after).foldlM step state =
      (item :: (before ++ after)).foldlM step state := by
  -- By induction on what is in front of it.
  induction before generalizing state with
  | nil => rfl
  | cons other before ih =>
    have swap := commutes state other item (absent other (by simp))
    simp only [List.foldlM_cons, List.cons_append, Option.bind_eq_bind] at ih ⊢
    -- Behind the first step the item comes next; then the two of them are swapped.
    have front : ∀ next, (before ++ item :: after).foldlM step next =
        (step next item).bind fun next => (before ++ after).foldlM step next :=
      fun next => ih (fun other member => absent other (by simp [member])) next
    calc (step state other).bind (fun next => (before ++ item :: after).foldlM step next)
      _ = ((step state other).bind (step · item)).bind
            fun next => (before ++ after).foldlM step next := by
          simp only [front, Option.bind_assoc]
      _ = (step state item).bind fun next =>
            (step next other).bind fun next => (before ++ after).foldlM step next := by
          rw [swap, Option.bind_assoc]

variable [DecidableEq κ]

/-- An item that comes first among those of its key has only other keys in front of it. -/
theorem split_of_filter {items : List α} {item : α} {rest : List α}
    (first : items.filter (key · = key item) = item :: rest) :
    ∃ before after, items = before ++ item :: after ∧
      (∀ other ∈ before, key other ≠ key item) ∧ after.filter (key · = key item) = rest := by
  obtain ⟨before, after, rfl, absent, -, remaining⟩ := List.filter_eq_cons_iff.mp first
  exact ⟨before, after, rfl, by simpa using absent, remaining⟩

/-- Only the order of steps with the same key matters. -/
theorem Commutes.foldlM_eq (commutes : Commutes step key) {first second : List α}
    (agree : ∀ k, first.filter (key · = k) = second.filter (key · = k)) (state : σ) :
    first.foldlM step state = second.foldlM step state := by
  -- The first item of one list is brought to the front of the other one.
  induction first generalizing second state with
  | nil =>
    cases second with
    | nil => rfl
    | cons item second => simpa using agree (key item)
  | cons item first ih =>
    have here := agree (key item)
    rw [List.filter_cons_of_pos (by simp)] at here
    obtain ⟨before, after, rfl, absent, remaining⟩ := split_of_filter here.symm
    rw [commutes.toFront absent, List.foldlM_cons, List.foldlM_cons]
    refine congrArg _ (funext fun next => ih (fun k => ?_) next)
    have both := agree k
    by_cases same : key item = k
    · subst same
      have none : before.filter (key · = key item) = [] := by simpa using absent
      rw [List.filter_append, none, List.nil_append, remaining]
    · simpa [List.filter_cons_of_neg, same] using both

/-- A step that succeeds is undone by the next one with the same key. -/
def Absorbs (step : σ → α → Option σ) (key : α → κ) : Prop :=
  ∀ state first second, key first = key second → (step state first).isSome →
    (step state first).bind (step · second) = step state second

/-- The last item of each key, in order. -/
def lasts (key : α → κ) : List α → List α
  | [] => []
  | item :: rest =>
    if rest.any (key · = key item) then lasts key rest else item :: lasts key rest

/-- Of the items of a key, the last one is kept. -/
theorem filter_lasts (items : List α) (k : κ) :
    (lasts key items).filter (key · = k) = (items.filter (key · = k)).getLast?.toList := by
  -- By induction on the items: one is kept if no later one has its key.
  induction items with
  | nil => rfl
  | cons item rest ih =>
    by_cases same : key item = k
    · subst same
      rw [List.filter_cons_of_pos (by simp), lasts]
      by_cases again : ∃ other ∈ rest, key other = key item
      · -- A later item of the same key is the last one already.
        have found : rest.filter (key · = key item) ≠ [] := by simpa using again
        rw [if_pos (by simpa using again), ih, List.getLast?_cons_of_ne_nil found]
      · have none : rest.filter (key · = key item) = [] := by simpa using again
        rw [if_neg (by simpa using again), List.filter_cons_of_pos (by simp), ih, none]
        rfl
    · rw [List.filter_cons_of_neg (by simpa using same), ← ih, lasts]
      split
      · rfl
      · rw [List.filter_cons_of_neg (by simpa using same)]

/-- If no step fails, only the last step of each key matters. -/
theorem Commutes.foldlM_lasts (commutes : Commutes step key) (absorbs : Absorbs step key)
    {items : List α} {state : σ} (succeeds : (items.foldlM step state).isSome) :
    items.foldlM step state = (lasts key items).foldlM step state := by
  -- By induction on the items; only a step that is repeated later is left out.
  induction items generalizing state with
  | nil => rfl
  | cons item rest ih =>
    rw [List.foldlM_cons, Option.bind_eq_bind] at succeeds ⊢
    obtain ⟨next, taken⟩ : ∃ next, step state item = some next := by
      cases taken : step state item with
      | none => simp [taken] at succeeds
      | some next => exact ⟨next, rfl⟩
    rw [taken, Option.bind_some] at succeeds ⊢
    rw [lasts]
    by_cases again : rest.any (key · = key item) = true
    · -- The first of the later items with this key is brought forward and undoes the step.
      rw [if_pos again]
      have found : rest.filter (key · = key item) ≠ [] := by simpa using again
      obtain ⟨other, others, split⟩ := List.exists_cons_of_ne_nil found
      have same : key other = key item := by
        have member : other ∈ rest.filter (key · = key item) := by rw [split]; simp
        simpa using (List.mem_filter.mp member).2
      rw [← same] at split
      obtain ⟨before, after, rfl, absent, -⟩ := split_of_filter split
      have undone := absorbs state item other same.symm (by simp [taken])
      rw [taken, Option.bind_some] at undone
      have skip : (before ++ other :: after).foldlM step next =
          (before ++ other :: after).foldlM step state := by
        rw [commutes.toFront absent, commutes.toFront absent, List.foldlM_cons,
          List.foldlM_cons, undone]
      rw [skip]
      exact ih (by rwa [← skip])
    · rw [if_neg again, List.foldlM_cons, taken]
      exact ih succeeds

/-- If no step fails, two sequences with the same last items end in the same state. -/
theorem Commutes.eq_of_lasts (commutes : Commutes step key) (absorbs : Absorbs step key)
    {first second : List α} {state one other : σ}
    (agree : ∀ k, (first.filter (key · = k)).getLast? = (second.filter (key · = k)).getLast?)
    (ends : first.foldlM step state = some one) (ended : second.foldlM step state = some other) :
    one = other := by
  -- Both sequences come down to their last items, whose order does not matter.
  have same : (lasts key first).foldlM step state = (lasts key second).foldlM step state := by
    refine commutes.foldlM_eq (fun k => ?_) state
    rw [filter_lasts, filter_lasts, agree]
  rw [← commutes.foldlM_lasts absorbs (by simp [ends]),
    ← commutes.foldlM_lasts absorbs (by simp [ended]), ends, ended] at same
  exact Option.some.inj same

end Arrange

end Machine

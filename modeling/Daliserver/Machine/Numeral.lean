import Mathlib.Algebra.Ring.Int.Defs
import Mathlib.Algebra.Ring.Nat
import Mathlib.Data.Int.Order.Basic

/-! Numerals as the C library reads them, in the base that their first letters give. -/

namespace Machine

/-- White space of the C locale. -/
def isSpace (letter : Char) : Bool := letter = ' ' || (9 ≤ letter.toNat && letter.toNat ≤ 13)

/-- The value of a letter as a digit of a large enough base. -/
def digitValue (letter : Char) : Option Nat :=
  -- Decimal digits, small letters, and capital ones with the same values.
  if 48 ≤ letter.toNat ∧ letter.toNat ≤ 57 then some (letter.toNat - 48)
  else if 97 ≤ letter.toNat ∧ letter.toNat ≤ 122 then some (letter.toNat - 87)
  else if 65 ≤ letter.toNat ∧ letter.toNat ≤ 90 then some (letter.toNat - 55)
  else none

/-- Whether a letter is a digit of a base. -/
def isDigitOf (base : Nat) (letter : Char) : Bool := (digitValue letter).any (· < base)

/-- The value of the digits that a text begins with, behind those that were read before. -/
def leadingValue (base : Nat) : Nat → List Char → Nat
  | value, [] => value
  | value, letter :: text =>
    match digitValue letter with
    -- A digit that is too large for the base ends the numeral as any other letter does.
    | some digit => if digit < base then leadingValue base (value * base + digit) text else value
    | none => value

/-- The value of a numeral without a sign: 0x begins a hexadecimal, 0 an octal one. -/
def magnitude : List Char → Nat
  | '0' :: mark :: digit :: text =>
    -- Without a digit behind it the mark is not part of the numeral.
    if (mark = 'x' ∨ mark = 'X') ∧ isDigitOf 16 digit then leadingValue 16 0 (digit :: text)
    else leadingValue 8 0 (mark :: digit :: text)
  | '0' :: text => leadingValue 8 0 text
  | text => leadingValue 10 0 text

/-- strtol with base 0, for a long of a given width: what is out of range is cut to the range. -/
def strtol (width : Nat) (text : List Char) : Int :=
  match text.dropWhile isSpace with
  -- Without digits the value is zero, which the program takes for a number.
  | '-' :: digits => max (-2 ^ (width - 1)) (-(magnitude digits : Int))
  | '+' :: digits => min (2 ^ (width - 1) - 1) (magnitude digits : Int)
  | digits => min (2 ^ (width - 1) - 1) (magnitude digits : Int)

/-- A number in decimal digits. -/
def decimal (value : Nat) : List Char := Nat.toDigits 10 value

/-- A text in front of which a numeral ends. -/
def Stops (text : List Char) : Prop :=
  ∀ letter rest, text = letter :: rest → digitValue letter = none

theorem stops_nil : Stops [] := by simp [Stops]

theorem stops_cons {letter : Char} {text : List Char} (stop : digitValue letter = none) :
    Stops (letter :: text) := by
  intro first rest split
  obtain ⟨rfl, -⟩ := List.cons.inj split
  exact stop

/-- A digit as a character is a digit of base ten, of the same value. -/
theorem digitValue_of_isDigit {letter : Char} (digit : letter.isDigit = true) :
    digitValue letter = some (letter.toNat - '0'.toNat) ∧ letter.toNat - '0'.toNat < 10 := by
  -- Both tests are about the same ten codes.
  obtain ⟨low, high⟩ : 48 ≤ letter.toNat ∧ letter.toNat ≤ 57 := by
    simpa [Char.isDigit, UInt32.le_iff_toNat_le] using digit
  refine ⟨by simp [digitValue, low, high], ?_⟩
  show letter.toNat - 48 < 10
  omega

/-- Digits are read up to where they stop. -/
theorem leadingValue_append {digits : List Char} (all : ∀ letter ∈ digits, letter.isDigit = true)
    (value : Nat) (rest : List Char) :
    leadingValue 10 value (digits ++ rest) =
      leadingValue 10 (Nat.ofDigitChars 10 digits value) rest := by
  -- Each digit is added to ten times the value so far, on both sides alike.
  induction digits generalizing value with
  | nil => simp
  | cons letter digits ih =>
    obtain ⟨known, small⟩ := digitValue_of_isDigit (all letter (by simp))
    rw [List.cons_append, leadingValue, known]
    simp only [small, if_true]
    rw [ih (fun other member => all other (by simp [member])), Nat.ofDigitChars_cons,
      Nat.mul_comm value 10]

theorem leadingValue_stops {base value : Nat} {text : List Char} (stops : Stops text) :
    leadingValue base value text = value := by
  cases text with
  | nil => rfl
  | cons letter text => rw [leadingValue, stops letter text rfl]

/-- The decimal digits of a number begin with one that is not zero, unless it is zero. -/
theorem decimal_head (value : Nat) (positive : 0 < value) :
    ∃ letter rest, decimal value = letter :: rest ∧ letter ≠ '0' := by
  -- Dropping the last digit leaves a smaller number, until only one digit is left.
  induction value using Nat.strongRecOn with
  | ind value ih =>
    by_cases small : value < 10
    · refine ⟨value.digitChar, [], Nat.toDigits_of_lt_base small, ?_⟩
      have digits : ∀ digit < 10, 0 < digit → Nat.digitChar digit ≠ '0' := by decide
      exact digits value small positive
    · obtain ⟨letter, rest, split, head⟩ := ih (value / 10) (by omega) (by omega)
      refine ⟨letter, rest ++ [(value % 10).digitChar], ?_, head⟩
      rw [decimal, Nat.toDigits_of_base_le (by decide) (by omega)]
      rw [show Nat.toDigits 10 (value / 10) = letter :: rest from split]
      rfl

/-- A text that begins with a digit has no space and no sign in front of its numeral. -/
theorem strtol_of_digit {letter : Char} {rest : List Char} (digit : letter.isDigit = true)
    (width : Nat) :
    strtol width (letter :: rest) =
      min (2 ^ (width - 1) - 1) (magnitude (letter :: rest) : Int) := by
  -- The codes of digits are neither those of spaces nor those of signs.
  obtain ⟨low, high⟩ : 48 ≤ letter.toNat ∧ letter.toNat ≤ 57 := by
    simpa [Char.isDigit, UInt32.le_iff_toNat_le] using digit
  have printed : isSpace letter = false := by
    have blank : letter ≠ ' ' := by
      rintro rfl
      exact absurd low (by decide)
    simp only [isSpace, blank, decide_false, Bool.false_or, Bool.and_eq_false_iff,
      decide_eq_false_iff_not]
    omega
  have minus : letter ≠ '-' := by
    rintro rfl
    exact absurd low (by decide)
  have plus : letter ≠ '+' := by
    rintro rfl
    exact absurd low (by decide)
  rw [strtol, List.dropWhile_cons_of_neg (by simp [printed])]
  split
  next split => exact absurd (List.cons.inj split).1 minus
  next split => exact absurd (List.cons.inj split).1 plus
  next => rfl

/-- A decimal number is read as its value, wherever it stops. -/
theorem magnitude_decimal (value : Nat) {rest : List Char} (stops : Stops rest) :
    magnitude (decimal value ++ rest) = value := by
  by_cases zero : value = 0
  · -- A single zero is read as an octal number without digits.
    subst zero
    show magnitude ('0' :: rest) = 0
    match rest with
    | [] => rfl
    | [mark] => exact leadingValue_stops stops
    | mark :: digit :: text =>
      have unmarked : ¬ (mark = 'x' ∨ mark = 'X') := by
        have stop := stops mark (digit :: text) rfl
        rintro (rfl | rfl) <;> exact absurd stop (by decide)
      rw [magnitude, if_neg (fun both => unmarked both.1)]
      exact leadingValue_stops stops
  · have all : ∀ letter ∈ decimal value, letter.isDigit = true :=
      fun letter member => Nat.isDigit_of_mem_toDigits (by decide) (by decide) member
    obtain ⟨letter, digits, split, head⟩ := decimal_head value (by omega)
    -- The first digit is not zero, so the numeral is read in base ten.
    have plain : magnitude (decimal value ++ rest) =
        leadingValue 10 0 (decimal value ++ rest) := by
      rw [split, List.cons_append, magnitude]
      · intro mark digit text split
        exact head (List.cons.inj split).1
      · intro text split
        exact head (List.cons.inj split).1
    rw [plain, leadingValue_append all, leadingValue_stops stops]
    exact Nat.ofDigitChars_ten_toDigits

/-- What is written in decimal is read back, if it is in range. -/
theorem strtol_decimal {width value : Nat} (fits : value < 2 ^ (width - 1)) {rest : List Char}
    (stops : Stops rest) : strtol width (decimal value ++ rest) = value := by
  -- There is at least one digit, and the value is in range, so nothing is cut.
  have first : ∃ letter digits, decimal value = letter :: digits ∧ letter.isDigit = true := by
    cases split : decimal value with
    | nil => exact absurd split Nat.toDigits_ne_nil
    | cons letter digits =>
      refine ⟨letter, digits, rfl, ?_⟩
      refine Nat.isDigit_of_mem_toDigits (by decide) (by decide) (n := value) (b := 10) ?_
      rw [show Nat.toDigits 10 value = letter :: digits from split]
      exact List.mem_cons_self
  obtain ⟨letter, digits, split, digit⟩ := first
  have read := magnitude_decimal value stops
  rw [split, List.cons_append] at read ⊢
  rw [strtol_of_digit digit, read, min_eq_right]
  have bound : (value : Int) < 2 ^ (width - 1) := by exact_mod_cast fits
  omega

end Machine

import Daliserver.Perl.Commands

/-! What the commands of the Perl client are addressed to, and what they ask for. -/

namespace Daliserver

open Machine

/-- What a command is for. -/
inductive Target where
  | lamp (number : Nat)
  | group (number : Nat)
  | broadcast
deriving DecidableEq, Repr

/-- The types of targets that have an address. -/
inductive TargetType where
  | lamp
  | group
  | broadcast
deriving DecidableEq, Repr

namespace TargetType

/-- The name of a type, as it is passed in. -/
def name : TargetType → Scalar
  | .lamp => .ofString "lamp"
  | .group => .ofString "group"
  | .broadcast => .ofString "broadcast"

/-- The target with a number, of which there are 64 lamps and 16 groups. -/
def target (dest : Nat) : TargetType → Target
  | .lamp => .lamp (dest % 64)
  | .group => .group (dest % 16)
  | .broadcast => .broadcast

/-- The address byte of a target without its low bit. -/
def address (dest : Nat) : TargetType → Nat
  | .lamp => 2 * (dest % 64)
  | .group => 0x80 + 2 * (dest % 16)
  | .broadcast => 0xfe

end TargetType

/-- Calls `make_cmd` for a target, where a broadcast is called without a number. -/
def commandFor (type : TargetType) (dest cmd arg : Scalar) : Nat × Nat :=
  match type with
  | .broadcast => makeCmd type.name cmd arg ⟨[], 0⟩
  | _ => makeCmd type.name dest cmd arg

/-- Calls `make_dim` for a target, where a broadcast is called without a number. -/
def levelFor (type : TargetType) (dest value : Scalar) : Nat × Scalar :=
  match type with
  | .broadcast => makeDim type.name value ⟨[], 0⟩
  | _ => makeDim type.name dest value

/-- The target that an address byte stands for, whatever its low bit. -/
def targetOf (address : Nat) : Option Target :=
  if address < 0x80 then some (.lamp (address / 2))
  else if address < 0xa0 then some (.group ((address - 0x80) / 2))
  else if address = 0xfe ∨ address = 0xff then some .broadcast
  else none

/-- The commands that take the number of a scene or group, each with its high nibble. -/
def indexedCommands : List (String × Nat) := [
  ("set.?scene", 0x1),
  ("store.?scene", 0x4),
  ("remove.?scene", 0x5),
  ("add.?group", 0x6),
  ("remove.?group", 0x7),
  ("scene", 0xb)]

/-- The regular expression is the first one of the encoder that is found in a text. -/
def FirstFound (source : String) (text : List Char) : Prop :=
  ∃ before code after, commands = before ++ (source, code) :: after ∧
    (regex source).Matches text ∧ ∀ earlier ∈ before, ¬ (regex earlier.1).Matches text

/-- Two bytes address a target and carry the high nibble of a command and an argument. -/
structure Encodes (target : Target) (high arg : Nat) (bytes : Nat × Nat) : Prop where
  addressByte : bytes.1 ≤ 255
  codeByte : bytes.2 ≤ 255
  determines : targetOf bytes.1 = some target
  marked : bytes.1 % 2 = 1
  high : bytes.2 / 16 = high
  low : bytes.2 % 16 = arg % 16

/-- A number that fits is its own value. -/
theorem uv_of_lt {number : Nat} (fits : number < 2 ^ 64) : uv number = number :=
  Nat.min_eq_left (by omega)

/-- A number that does not fit has the value of the largest one. -/
theorem uv_of_le {number : Nat} (large : 2 ^ 64 ≤ number) : uv number = 2 ^ 64 - 1 :=
  Nat.min_eq_right (by omega)

section Addresses

/-- The number of a lamp is cut to six bits, above the low one. -/
theorem lamp_shifted (number : Nat) : (number &&& 0x3f) <<< 1 = 2 * (number % 64) := by
  have masked : number &&& 0x3f = number % 64 := Nat.and_two_pow_sub_one_eq_mod number 6
  rw [masked, Nat.shiftLeft_eq, Nat.pow_one, Nat.mul_comm]

/-- The number of a group is cut to four bits, above the low one. -/
theorem group_shifted (number : Nat) : (number &&& 0xf) <<< 1 = 2 * (number % 16) := by
  have masked : number &&& 0xf = number % 16 := Nat.and_two_pow_sub_one_eq_mod number 4
  rw [masked, Nat.shiftLeft_eq, Nat.pow_one, Nat.mul_comm]

-- The name of each type is found by its own regular expression, and by no other.

@[simp] theorem lamp_named (type : TargetType) :
    (regex "lamp").test type.name.text = decide (type = .lamp) := by
  cases type <;> decide

@[simp] theorem group_named (type : TargetType) :
    (regex "group").test type.name.text = decide (type = .group) := by
  cases type <;> decide

@[simp] theorem broadcast_named (type : TargetType) :
    (regex "broadcast").test type.name.text = decide (type = .broadcast) := by
  cases type <;> decide

/-- A command has the address of its target, with the low bit set. -/
theorem commandFor_eq (type : TargetType) (dest cmd arg : Scalar) :
    commandFor type dest cmd arg = (type.address (uv dest.number) + 1, commandCode cmd arg) := by
  cases type with
  | lamp =>
    have marked : ∀ rest < 64, 0x1 ||| 2 * rest = 2 * rest + 1 := by decide
    have small : uv dest.number % 64 < 64 := by omega
    simp [commandFor, makeCmd, lamp_shifted, marked _ small, TargetType.address]
  | group =>
    have marked : ∀ rest < 16, 0x81 ||| 2 * rest = 0x80 + 2 * rest + 1 := by decide
    have small : uv dest.number % 16 < 16 := by omega
    simp [commandFor, makeCmd, group_shifted, marked _ small, TargetType.address]
  | broadcast => simp [commandFor, makeCmd, TargetType.address]

/-- A level has the address of its target, with the low bit clear. -/
theorem levelFor_eq (type : TargetType) (dest value : Scalar) :
    levelFor type dest value = (type.address (uv dest.number), value) := by
  cases type with
  | lamp => simp [levelFor, makeDim, lamp_shifted, TargetType.address]
  | group =>
    have marked : ∀ rest < 16, 0x80 ||| 2 * rest = 0x80 + 2 * rest := by decide
    have small : uv dest.number % 16 < 16 := by omega
    simp [levelFor, makeDim, group_shifted, marked _ small, TargetType.address]
  | broadcast => simp [levelFor, makeDim, TargetType.address]

/-- An address is a byte whose low bit is free. -/
theorem TargetType.address_byte (type : TargetType) (dest : Nat) :
    type.address dest % 2 = 0 ∧ type.address dest ≤ 254 := by
  cases type with
  | lamp =>
    show 2 * (dest % 64) % 2 = 0 ∧ 2 * (dest % 64) ≤ 254
    omega
  | group =>
    show (0x80 + 2 * (dest % 16)) % 2 = 0 ∧ 0x80 + 2 * (dest % 16) ≤ 254
    omega
  | broadcast =>
    show 0xfe % 2 = 0 ∧ 0xfe ≤ 254
    omega

/-- The address byte determines the target, with or without its low bit. -/
theorem targetOf_address (type : TargetType) (dest : Nat) {low : Nat} (bit : low ≤ 1) :
    targetOf (type.address dest + low) = some (type.target dest) := by
  cases type with
  | lamp =>
    show targetOf (2 * (dest % 64) + low) = some (.lamp (dest % 64))
    rw [targetOf, if_pos (by omega)]
    congr 2
    omega
  | group =>
    show targetOf (0x80 + 2 * (dest % 16) + low) = some (.group (dest % 16))
    rw [targetOf, if_neg (by omega), if_pos (by omega)]
    congr 2
    omega
  | broadcast =>
    have whole : 0xfe + low = 0xfe ∨ 0xfe + low = 0xff := by omega
    show targetOf (0xfe + low) = some .broadcast
    rw [targetOf, if_neg (by omega), if_neg (by omega), if_pos whole]

/-- The address of a level determines its target, and no command has the same address. -/
theorem level_addressed (type : TargetType) (dest value : Scalar) :
    targetOf (levelFor type dest value).1 = some (type.target (uv dest.number)) ∧
      (levelFor type dest value).1 % 2 = 0 ∧
      ∀ (other : TargetType) (number cmd arg : Scalar),
        (commandFor other number cmd arg).1 ≠ (levelFor type dest value).1 := by
  have first := (type.address_byte (uv dest.number)).1
  rw [levelFor_eq]
  refine ⟨targetOf_address type (uv dest.number) (Nat.zero_le 1), first, ?_⟩
  intro other number cmd arg
  have second := (other.address_byte (uv number.number)).1
  rw [commandFor_eq]
  show other.address (uv number.number) + 1 ≠ type.address (uv dest.number)
  omega

/--
The number that is addressed is the one that was asked for, unless it is too large for Perl.

The largest number that Perl has stands for the last lamp and the last group.
-/
theorem target_uv_iff (type : TargetType) (dest : Nat) :
    type.target (uv dest) = type.target dest ↔
      dest < 2 ^ 64 ∨ type.target dest ∈ [.lamp 63, .group 15, .broadcast] := by
  by_cases small : dest < 2 ^ 64
  · rw [uv_of_lt small]
    exact ⟨fun _ => .inl small, fun _ => rfl⟩
  · have last : type.target (2 ^ 64 - 1) = type.target dest ↔
        type.target dest ∈ [.lamp 63, .group 15, .broadcast] := by
      cases type <;> simp [TargetType.target, eq_comm]
    rw [uv_of_le (Nat.not_lt.mp small), last]
    exact (or_iff_right small).symm

end Addresses

/-- The regular expression that is found first decides about the code. -/
theorem given_of_firstFound {command : String × Nat} (member : command ∈ indexedCommands)
    {text : List Char} (first : FirstFound command.1 text) :
    given commands text = some (.indexed (16 * command.2)) := by
  -- Each of the regular expressions stands in the table once, with the base of its command.
  have coded : ∀ command ∈ indexedCommands, ∀ entry ∈ commands, entry.1 = command.1 →
      entry.2 = .indexed (16 * command.2) := by decide
  obtain ⟨before, code, after, split, found, earlier⟩ := first
  have base : code = .indexed (16 * command.2) := by
    apply coded command member (command.1, code) _ rfl
    rw [split]
    simp
  rw [given, split, List.map_append, List.map_cons, base]
  apply firstMatch_of_split found
  intro other listed
  obtain ⟨entry, inFront, rfl⟩ := List.mem_map.mp listed
  exact earlier entry inFront

/-- The low nibble of an indexed command is all ones, and the argument mixes with the high one. -/
theorem commandCode_indexed {command : String × Nat} (member : command ∈ indexedCommands)
    {cmd : Scalar} (first : FirstFound command.1 cmd.text) (arg : Scalar) :
    commandCode cmd arg = 16 * (command.2 ||| uv arg.number / 16) + 15 := by
  rw [commandCode, given_of_firstFound member first]
  simp only
  generalize uv arg.number = number
  have ones : ∀ rest < 16, rest ||| 0xf = 0xf := by decide
  have upper : (16 * command.2 ||| (number ||| 0xf)) / 16 = command.2 ||| number / 16 := by
    have divided := @Nat.or_div_two_pow (16 * command.2) (number ||| 0xf) 4
    have again := @Nat.or_div_two_pow number 0xf 4
    simp only [Nat.reducePow] at divided again
    rw [divided, again, Nat.mul_div_cancel_left _ (by decide)]
    simp
  have lower : (16 * command.2 ||| (number ||| 0xf)) % 16 = 15 := by
    have reduced := @Nat.or_mod_two_pow (16 * command.2) (number ||| 0xf) 4
    have again := @Nat.or_mod_two_pow number 0xf 4
    simp only [Nat.reducePow, Nat.reduceMod] at reduced again
    rw [reduced, again, Nat.mul_mod_right, ones _ (by omega), Nat.zero_or]
  omega

/-- The high nibble is right only if the argument adds nothing to it, and then it is a byte. -/
theorem high_uv_iff {high : Nat} (small : high < 16) (arg : Nat) :
    high ||| uv arg / 16 = high ↔ high ||| arg / 16 = high := by
  -- A number that is too large for Perl has bits beyond the nibble on both sides.
  by_cases fits : arg < 2 ^ 64
  · rw [uv_of_lt fits]
  · have below : ∀ number, high ||| number / 16 = high → number / 16 ≤ high := by
      intro number same
      have contained : number / 16 ≤ high ||| number / 16 := Nat.right_le_or
      rwa [same] at contained
    have largest := uv_of_le (Nat.not_lt.mp fits)
    constructor
    · intro same
      have bound := below (uv arg) same
      omega
    · intro same
      have bound := below arg same
      omega

/--
A command is encoded as it should be exactly if its argument is all ones where the mask is.

The mask does not cut the argument to a nibble but sets all bits of it, so that arguments that
differ in these bits only are the same. Numbers from 2 ^ 64 on are all the same for Perl.
-/
theorem command_encoded_iff (type : TargetType) (dest cmd arg : Scalar) (command : String × Nat)
    (member : command ∈ indexedCommands) (first : FirstFound command.1 cmd.text) :
    (Encodes (type.target dest.number) command.2 arg.number (commandFor type dest cmd arg) ↔
      (dest.number < 2 ^ 64 ∨ type.target dest.number ∈ [.lamp 63, .group 15, .broadcast]) ∧
        arg.number % 16 = 15 ∧ command.2 ||| arg.number / 16 = command.2) ∧
    ∀ other : Scalar, ((arg.number % 16 ≠ other.number % 16 →
        (commandFor type dest cmd arg).2 ≠ (commandFor type dest cmd other).2) ↔
      arg.number % 16 = other.number % 16 ∨
        command.2 ||| min arg.number (2 ^ 64 - 1) / 16 ≠
          command.2 ||| min other.number (2 ^ 64 - 1) / 16) := by
  have nibble : ∀ command ∈ indexedCommands, command.2 < 16 := by decide
  have small := nibble command member
  have code := commandCode_indexed member first
  have target := targetOf_address type (uv dest.number) (Nat.le_refl 1)
  constructor
  · rw [commandFor_eq, code, ← target_uv_iff, ← high_uv_iff small]
    constructor
    · -- Division gives the high nibble back, and the rest is fifteen.
      rintro ⟨_, _, determines, _, high, low⟩
      simp only at determines high low
      rw [target] at determines
      exact ⟨Option.some.inj determines, by omega, by omega⟩
    · rintro ⟨same, low, high⟩
      have byte := type.address_byte (uv dest.number)
      refine ⟨?_, ?_, same ▸ target, ?_, ?_, ?_⟩
      · show type.address (uv dest.number) + 1 ≤ 255
        omega
      · simp only [high]
        omega
      · show (type.address (uv dest.number) + 1) % 2 = 1
        omega
      · simp only [high]
        omega
      · simp only [low]
        omega
  · intro other
    rw [commandFor_eq, commandFor_eq, code, code]
    show (_ → 16 * (command.2 ||| uv arg.number / 16) + 15 ≠
      16 * (command.2 ||| uv other.number / 16) + 15) ↔ _ ∨
        command.2 ||| uv arg.number / 16 ≠ command.2 ||| uv other.number / 16
    omega

/-- The regular expression that a search of the table comes to is the first one found. -/
theorem firstFound_of_find {source : String} {code : CommandCode} {text : List Char}
    (searched : commands.find? (fun entry => (regex entry.1).test text) = some (source, code)) :
    FirstFound source text := by
  obtain ⟨found, before, after, split, earlier⟩ := List.find?_eq_some_iff_append.mp searched
  refine ⟨before, code, after, split, Pattern.test_iff.mp found, fun other member => ?_⟩
  rw [← Pattern.test_iff]
  simpa using earlier other member

/-- The last scene can be set. -/
theorem command_encoded_last_scene :
    Encodes (.group 3) 0x1 15
      (commandFor .group (.ofNat 3) (.ofString "set scene") (.ofNat 15)) := by
  have first : FirstFound "set.?scene" (Scalar.ofString "set scene").text :=
    firstFound_of_find (by decide : _ = some ("set.?scene", .indexed 0x10))
  exact (command_encoded_iff .group (.ofNat 3) (.ofString "set scene") (.ofNat 15)
    ("set.?scene", 0x1) (by decide) first).1.mpr (by decide)

/-- Scenes 3 and 4 of a lamp are both set as scene 15. -/
theorem set_scene_ignores_number :
    FirstFound "set.?scene" (Scalar.ofString "set scene").text ∧
      commandFor .lamp (.ofNat 0) (.ofString "set scene") (.ofNat 3) = (0x01, 0x1f) ∧
      commandFor .lamp (.ofNat 0) (.ofString "set scene") (.ofNat 4) = (0x01, 0x1f) ∧
      ¬ Encodes (.lamp 0) 0x1 3
        (commandFor .lamp (.ofNat 0) (.ofString "set scene") (.ofNat 3)) := by
  refine ⟨firstFound_of_find (by decide : _ = some ("set.?scene", .indexed 0x10)), by decide,
    by decide, fun encodes => ?_⟩
  have low := encodes.low
  revert low
  decide

end Daliserver

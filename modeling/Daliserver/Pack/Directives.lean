import Daliserver.Machine.Word
import Daliserver.Pack.Format

/-! What the directives of a format mean, as one table that all three loops of pack.c follow. -/

namespace Daliserver

open Machine

/-- What a character of a format stands for. -/
inductive Directive where
  | skip
  | word (width : Nat)
  -- The byte order from here on, where `none` is the order of the machine.
  | order (mode : Option Bool)
  | nothing
deriving DecidableEq, Repr

/-- The meaning of a character. -/
def directive : Char → Directive
  | ' ' => .skip
  | 'c' | 'C' => .word 1
  | 's' | 'S' => .word 2
  -- The floating point types are packed as integers of their size.
  | 'i' | 'I' | 'f' => .word 4
  | 'l' | 'L' | 'd' => .word 8
  | '<' => .order (some true)
  | '>' => .order (some false)
  | '=' => .order none
  | _ => .nothing

/-- The number of bytes a directive covers. -/
def Directive.width : Directive → Nat
  | .skip => 1
  | .word width => width
  | .order _ => 0
  | .nothing => 0

/-- The bytes of a value in the order the mode asks for. -/
def wordBytes (little : Bool) (width value : Nat) : Bytes := ordered little (toBytes width value)

/-- Some bytes of a buffer, where zeros follow its end. -/
def window (data : Bytes) (start width : Nat) : Bytes :=
  (List.range width).map fun offset => data.getD (start + offset) 0

/-- A value of some bytes read at the cursor. -/
def readWord (little : Bool) (width : Nat) (data : Bytes) (start : Nat) : Nat :=
  ofBytes (ordered little (window data start width))

@[simp] theorem length_wordBytes (little : Bool) (width value : Nat) :
    (wordBytes little width value).length = width := by
  simp [wordBytes]

@[simp] theorem length_window (data : Bytes) (start width : Nat) :
    (window data start width).length = width := by
  simp [window]

/-- Shifting and masking takes a byte out of the middle of a value. -/
theorem byteAt_eq (value shift : Nat) : byteAt value shift = (value / 2 ^ shift).toUInt8 := by
  apply UInt8.toNat_inj.mp
  -- The mask with 0xff and the conversion to a byte are the same remainder.
  have masked := Nat.and_two_pow_sub_one_eq_mod (value >>> shift) 8
  rw [Nat.shiftRight_eq_div_pow] at masked
  simp only [Nat.reducePow, Nat.add_one_sub_one] at masked
  simp [byteAt, Nat.shiftRight_eq_div_pow, masked]

theorem byteBytes_eq (little : Bool) (value : Nat) :
    [byteAt value 0] = wordBytes little 1 value := by
  simp [wordBytes, toBytes, byteAt_eq]

theorem shortBytes_eq (little : Bool) (value : Nat) :
    shortBytes little value = wordBytes little 2 value := by
  cases little <;> simp [shortBytes, wordBytes, ordered, toBytes, byteAt_eq]

theorem intBytes_eq (little : Bool) (value : Nat) :
    intBytes little value = wordBytes little 4 value := by
  cases little <;>
    simp [intBytes, wordBytes, ordered, toBytes, byteAt_eq, Nat.div_div_eq_div_mul]

theorem longBytes_eq (little : Bool) (value : Nat) :
    longBytes little value = wordBytes little 8 value := by
  cases little <;>
    simp [longBytes, wordBytes, ordered, toBytes, byteAt_eq, Nat.div_div_eq_div_mul]

theorem readByte_eq (little : Bool) (data : Bytes) (start : Nat) :
    readByte data start = readWord little 1 data start := by
  simp [readWord, window, readByte, ofBytes_cons]

theorem readShort_eq (little : Bool) (data : Bytes) (start : Nat) :
    readShort little data start = readWord little 2 data start := by
  cases little <;>
    simp [readShort, readWord, window, ordered, readByte, ofBytes_eq_orBytes, orBytes,
      List.range_succ]

theorem readInt_eq (little : Bool) (data : Bytes) (start : Nat) :
    readInt little data start = readWord little 4 data start := by
  cases little <;>
    simp [readInt, readWord, window, ordered, readByte, ofBytes_eq_orBytes, orBytes,
      List.range_succ]

theorem readLong_eq (little : Bool) (data : Bytes) (start : Nat) :
    readLong little data start = readWord little 8 data start := by
  cases little <;>
    simp [readLong, readWord, window, ordered, readByte, ofBytes_eq_orBytes, orBytes,
      List.range_succ]

/-- Every character adds its own width to the length. -/
theorem packLength_cons (c : Char) (format : List Char) :
    packLength (c :: format) = (directive c).width + packLength format := by
  fun_cases directive c <;> simp_all [packLength, Directive.width]

/-- What the loop of `pack` does at a directive, given what it does behind it. -/
def Directive.pack (system : Bool) (rest : Bool → List Nat → Bytes → Nat → Bytes) (little : Bool)
    (args : List Nat) (data : Bytes) (out : Nat) : Directive → Bytes
  | .skip => rest little args data (out + 1)
  | .word width =>
    rest little args.tail (storeBytes data out (wordBytes little width (args.headD 0)))
      (out + width)
  | .order mode => rest (mode.getD system) args data out
  | .nothing => rest little args data out

/-- What the loop of `unpack` does at a directive, given what it does behind it. -/
def Directive.unpack (system : Bool) (rest : Bool → Bytes → Nat → List Nat) (little : Bool)
    (data : Bytes) (start : Nat) : Directive → List Nat
  | .skip => rest little data (start + 1)
  | .word width => readWord little width data start :: rest little data (start + width)
  | .order mode => rest (mode.getD system) data start
  | .nothing => rest little data start

/-- The loop of `pack` follows the table. -/
theorem packLoop_cons (system : Bool) (c : Char) (format : List Char) (little : Bool)
    (args : List Nat) (data : Bytes) (out : Nat) :
    packLoop system (c :: format) little args data out =
      (directive c).pack system (packLoop system format) little args data out := by
  -- The hand-unrolled byte sequences are all cases of one word of some width.
  fun_cases directive c <;> simp_all [packLoop, Directive.pack, byteBytes_eq little,
    shortBytes_eq, intBytes_eq, longBytes_eq]

/-- The loop of `unpack` follows the same table. -/
theorem unpackLoop_cons (system : Bool) (c : Char) (format : List Char) (little : Bool)
    (data : Bytes) (start : Nat) :
    unpackLoop system (c :: format) little data start =
      (directive c).unpack system (unpackLoop system format) little data start := by
  fun_cases directive c <;> simp_all [unpackLoop, Directive.unpack, readByte_eq little,
    readShort_eq, readInt_eq, readLong_eq]

@[simp] theorem length_storeBytes (data : Bytes) (out : Nat) (bytes : Bytes) :
    (storeBytes data out bytes).length = data.length := by
  induction bytes generalizing data out with
  | nil => rfl
  | cons byte rest ih => simp [storeBytes, ih]

/-- Storing some bytes leaves the others alone. -/
theorem storeBytes_outside {data bytes : Bytes} {out index : Nat}
    (outside : index < out ∨ out + bytes.length ≤ index) :
    (storeBytes data out bytes)[index]? = data[index]? := by
  induction bytes generalizing data out with
  | nil => rfl
  | cons byte rest ih =>
    rw [List.length_cons] at outside
    -- The first byte goes to the cursor itself, and the rest goes behind it.
    rw [storeBytes, ih (by omega), List.getElem?_set_ne (by omega)]

/-- Stored bytes are found where they were put. -/
theorem storeBytes_inside {data bytes : Bytes} {out offset : Nat} (inside : offset < bytes.length)
    (room : out + bytes.length ≤ data.length) :
    (storeBytes data out bytes)[out + offset]? = bytes[offset]? := by
  induction bytes generalizing data out offset with
  | nil => exact absurd inside (Nat.not_lt_zero _)
  | cons byte rest ih =>
    rw [List.length_cons] at inside room
    rw [storeBytes]
    cases offset with
    | zero =>
      -- The bytes that follow are stored behind the first one.
      rw [storeBytes_outside (by omega), Nat.add_zero, List.getElem?_set_self (by omega)]
      rfl
    | succ offset =>
      have shifted : out + (offset + 1) = out + 1 + offset := by omega
      rw [shifted, ih (by omega) (by rw [List.length_set]; omega)]
      rfl

end Daliserver

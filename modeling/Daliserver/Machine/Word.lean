import Mathlib.Data.Nat.Digits.Defs
import Mathlib.Tactic.Ring

/-! Words of a fixed number of bytes, and the numbers they stand for in either byte order. -/

namespace Machine

/-- The bytes of a number, the least significant one first, cut off after some of them. -/
def toBytes : Nat → Nat → List UInt8
  | 0, _ => []
  | width + 1, value => value.toUInt8 :: toBytes width (value / 256)

/-- The number that some bytes stand for, the least significant one first. -/
def ofBytes (bytes : List UInt8) : Nat := Nat.ofDigits 256 (bytes.map UInt8.toNat)

/-- Bytes between the order of the machine and the order of significance, which is its own inverse. -/
def ordered (little : Bool) (bytes : List UInt8) : List UInt8 :=
  if little then bytes else bytes.reverse

@[simp] theorem length_toBytes (width value : Nat) : (toBytes width value).length = width := by
  -- The value shrinks along with the width.
  induction width generalizing value with
  | zero => rfl
  | succ width ih => simp [toBytes, ih]

@[simp] theorem length_ordered (little : Bool) (bytes : List UInt8) :
    (ordered little bytes).length = bytes.length := by
  cases little <;> simp [ordered]

/-- Putting bytes in order twice leaves them as they were. -/
@[simp] theorem ordered_ordered (little : Bool) (bytes : List UInt8) :
    ordered little (ordered little bytes) = bytes := by
  cases little <;> simp [ordered]

/-- A single byte reads the same in both orders. -/
@[simp] theorem ordered_singleton (little : Bool) (byte : UInt8) :
    ordered little [byte] = [byte] := by
  cases little <;> rfl

@[simp] theorem ofBytes_nil : ofBytes [] = 0 := rfl

/-- One more byte in front shifts the rest up by eight bits. -/
theorem ofBytes_cons (byte : UInt8) (rest : List UInt8) :
    ofBytes (byte :: rest) = byte.toNat + 256 * ofBytes rest := by
  simp [ofBytes, Nat.ofDigits_cons]

/-- Writing a number and reading it back loses what did not fit. -/
theorem ofBytes_toBytes (width value : Nat) :
    ofBytes (toBytes width value) = value % 256 ^ width := by
  induction width generalizing value with
  | zero => simp [toBytes, Nat.mod_one]
  | succ width ih =>
    -- The low byte is the remainder, and the rest of the bytes are the same claim for the quotient.
    rw [toBytes, ofBytes_cons, ih, Nat.pow_succ', Nat.mod_mul]
    simp

/-- Reading some bytes and writing them back at their own width gives the same bytes. -/
theorem toBytes_ofBytes (bytes : List UInt8) : toBytes bytes.length (ofBytes bytes) = bytes := by
  induction bytes with
  | nil => rfl
  | cons byte rest ih =>
    have small := byte.toNat_lt
    -- The byte in front is all that the division by 256 drops.
    have quotient : (byte.toNat + 256 * ofBytes rest) / 256 = ofBytes rest := by omega
    have remainder : (byte.toNat + 256 * ofBytes rest).toUInt8 = byte := by
      apply UInt8.toNat_inj.mp
      simp
    rw [ofBytes_cons, List.length_cons, toBytes, quotient, remainder, ih]

/-- A number made of some bytes fits into their width. -/
theorem ofBytes_lt (bytes : List UInt8) : ofBytes bytes < 2 ^ (8 * bytes.length) := by
  induction bytes with
  | nil => simp
  | cons byte rest ih =>
    have small := byte.toNat_lt
    have wider : 2 ^ (8 * (rest.length + 1)) = 256 * 2 ^ (8 * rest.length) := by
      rw [Nat.mul_succ, Nat.pow_add, Nat.mul_comm]
    rw [ofBytes_cons, List.length_cons, wider]
    omega

/-- One more byte behind is or-ed in above the rest. -/
theorem ofBytes_concat (bytes : List UInt8) (byte : UInt8) :
    ofBytes (bytes ++ [byte]) = ofBytes bytes ||| byte.toNat <<< (8 * bytes.length) := by
  have above : byte.toNat <<< (8 * bytes.length) = 2 ^ (8 * bytes.length) * byte.toNat := by
    rw [Nat.shiftLeft_eq, Nat.mul_comm]
  -- The bytes so far fit below the new one, so that or-ing is adding.
  rw [above, Nat.or_comm, ← Nat.two_pow_add_eq_or_of_lt (ofBytes_lt bytes)]
  simp [ofBytes, Nat.ofDigits_append, Nat.ofDigits_singleton, Nat.pow_mul, Nat.add_comm]

/-- Bytes that are shifted to their places and or-ed together, one after the other. -/
def orBytes : Nat → Nat → List UInt8 → Nat
  | _, value, [] => value
  | shift, value, byte :: rest => orBytes (shift + 8) (value ||| byte.toNat <<< shift) rest

/-- Or-ing bytes together at growing shifts makes the number they stand for. -/
theorem orBytes_eq (bytes rest : List UInt8) :
    orBytes (8 * bytes.length) (ofBytes bytes) rest = ofBytes (bytes ++ rest) := by
  -- The bytes already or-ed in grow by one, so they stay quantified over.
  induction rest generalizing bytes with
  | nil => simp [orBytes]
  | cons byte rest ih =>
    have grown := ih (bytes ++ [byte])
    rw [ofBytes_concat, List.length_append, List.length_singleton, Nat.mul_succ] at grown
    rw [orBytes, grown, List.append_assoc, List.singleton_append]

/-- The first byte is taken as it is, and the others are or-ed in above it. -/
theorem ofBytes_eq_orBytes (byte : UInt8) (rest : List UInt8) :
    ofBytes (byte :: rest) = orBytes 8 byte.toNat rest := by
  have whole := orBytes_eq [byte] rest
  rw [ofBytes_cons, ofBytes_nil] at whole
  exact whole.symm

end Machine

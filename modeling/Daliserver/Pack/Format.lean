import Mathlib.Data.List.Basic

/-! Serializing values into a byte buffer under a format string, and reading them back (pack.c). -/

namespace Daliserver

/-- A byte buffer, as both the device and the network hand it over. -/
abbrev Bytes := List UInt8

/-- The byte order of the build host, which governs a format until it names its own. -/
def systemLittle : Bool := true

/-- The number of buffer bytes a format covers. -/
def packLength : List Char → Nat
  | [] => 0
  | directive :: format =>
    match directive with
    | 'c' | 'C' | ' ' => 1 + packLength format
    | 's' | 'S' => 2 + packLength format
    | 'i' | 'I' | 'f' => 4 + packLength format
    | 'l' | 'L' | 'd' => 8 + packLength format
    -- Byte order marks and unknown characters cover nothing.
    | _ => packLength format

/-- The byte of a value that starts at the given bit, `(value >> shift) & 0xff`. -/
def byteAt (value shift : Nat) : UInt8 := ((value >>> shift) &&& 0xff).toUInt8

/-- Writes bytes to consecutive positions, as a run of `out[k] = ...` does. -/
def storeBytes (data : Bytes) (out : Nat) : Bytes → Bytes
  | [] => data
  | byte :: rest => storeBytes (data.set out byte) (out + 1) rest

/-- The bytes of a two-byte value in the order the mode asks for. -/
def shortBytes (little : Bool) (value : Nat) : Bytes :=
  if little then [byteAt value 0, byteAt value 8] else [byteAt value 8, byteAt value 0]

/-- The bytes of a four-byte value in the order the mode asks for. -/
def intBytes (little : Bool) (value : Nat) : Bytes :=
  if little then [byteAt value 0, byteAt value 8, byteAt value 16, byteAt value 24]
  else [byteAt value 24, byteAt value 16, byteAt value 8, byteAt value 0]

/-- The bytes of an eight-byte value in the order the mode asks for. -/
def longBytes (little : Bool) (value : Nat) : Bytes :=
  if little then [byteAt value 0, byteAt value 8, byteAt value 16, byteAt value 24,
    byteAt value 32, byteAt value 40, byteAt value 48, byteAt value 56]
  else [byteAt value 56, byteAt value 48, byteAt value 40, byteAt value 32,
    byteAt value 24, byteAt value 16, byteAt value 8, byteAt value 0]

/--
The loop of `pack`: the format left, the byte order mode, the arguments left, and the cursor.

An argument that was never passed reads as zero; in C it would be undefined.
-/
def packLoop (system : Bool) : List Char → Bool → List Nat → Bytes → Nat → Bytes
  | [], _, _, data, _ => data
  | directive :: format, little, args, data, out =>
    match directive with
    -- A space leaves the byte under it as it was.
    | ' ' => packLoop system format little args data (out + 1)
    | 'c' | 'C' =>
      packLoop system format little args.tail
        (storeBytes data out [byteAt (args.headD 0) 0]) (out + 1)
    | 's' | 'S' =>
      packLoop system format little args.tail
        (storeBytes data out (shortBytes little (args.headD 0))) (out + 2)
    -- A float arrives as its 32-bit pattern.
    | 'i' | 'I' | 'f' =>
      packLoop system format little args.tail
        (storeBytes data out (intBytes little (args.headD 0))) (out + 4)
    | 'l' | 'L' | 'd' =>
      packLoop system format little args.tail
        (storeBytes data out (longBytes little (args.headD 0))) (out + 8)
    | '<' => packLoop system format true args data out
    | '>' => packLoop system format false args data out
    | '=' => packLoop system format system args data out
    | _ => packLoop system format little args data out

/--
Packs the arguments into a buffer and reports the new value of `*size`.

Without a buffer one of the right length is allocated, and without a size nothing is stored there.
-/
def pack (system : Bool) (format : List Char) (data : Option Bytes) (size : Option Nat)
    (args : List Nat) : Option (Bytes × Option Nat) :=
  let length := packLength format
  match data, size with
  -- A caller that brings a buffer must say how long it is.
  | some _, none => none
  | some buffer, some room =>
    if length > room then none
    else some (packLoop system format system args buffer 0, some length)
  | none, _ =>
    some (packLoop system format system args (List.replicate length 0) 0, size.map fun _ => length)

/-- The byte at a position of the input as an integer. -/
def readByte (data : Bytes) (position : Nat) : Nat := (data.getD position 0).toNat

/-- A two-byte value read at the cursor. -/
def readShort (little : Bool) (data : Bytes) (at_ : Nat) : Nat :=
  if little then readByte data at_ ||| readByte data (at_ + 1) <<< 8
  else readByte data (at_ + 1) ||| readByte data at_ <<< 8

/-- A four-byte value read at the cursor. -/
def readInt (little : Bool) (data : Bytes) (at_ : Nat) : Nat :=
  if little then readByte data at_ ||| readByte data (at_ + 1) <<< 8 |||
    readByte data (at_ + 2) <<< 16 ||| readByte data (at_ + 3) <<< 24
  else readByte data (at_ + 3) ||| readByte data (at_ + 2) <<< 8 |||
    readByte data (at_ + 1) <<< 16 ||| readByte data at_ <<< 24

/-- An eight-byte value read at the cursor. -/
def readLong (little : Bool) (data : Bytes) (at_ : Nat) : Nat :=
  if little then readByte data at_ ||| readByte data (at_ + 1) <<< 8 |||
    readByte data (at_ + 2) <<< 16 ||| readByte data (at_ + 3) <<< 24 |||
    readByte data (at_ + 4) <<< 32 ||| readByte data (at_ + 5) <<< 40 |||
    readByte data (at_ + 6) <<< 48 ||| readByte data (at_ + 7) <<< 56
  else readByte data (at_ + 7) ||| readByte data (at_ + 6) <<< 8 |||
    readByte data (at_ + 5) <<< 16 ||| readByte data (at_ + 4) <<< 24 |||
    readByte data (at_ + 3) <<< 32 ||| readByte data (at_ + 2) <<< 40 |||
    readByte data (at_ + 1) <<< 48 ||| readByte data at_ <<< 56

/-- The loop of `unpack`: the values stored through the output arguments, in order. -/
def unpackLoop (system : Bool) : List Char → Bool → Bytes → Nat → List Nat
  | [], _, _, _ => []
  | directive :: format, little, data, at_ =>
    match directive with
    -- A blank skips one byte and stores nothing.
    | ' ' => unpackLoop system format little data (at_ + 1)
    | 'c' | 'C' => readByte data at_ :: unpackLoop system format little data (at_ + 1)
    | 's' | 'S' => readShort little data at_ :: unpackLoop system format little data (at_ + 2)
    | 'i' | 'I' | 'f' => readInt little data at_ :: unpackLoop system format little data (at_ + 4)
    | 'l' | 'L' | 'd' => readLong little data at_ :: unpackLoop system format little data (at_ + 8)
    -- The order directives take no byte and hold until the next of their kind.
    | '<' => unpackLoop system format true data at_
    | '>' => unpackLoop system format false data at_
    | '=' => unpackLoop system format system data at_
    -- An unknown directive is ignored, exactly as it adds nothing to the length.
    | _ => unpackLoop system format little data at_

/-- Unpacks a buffer whose usable length is `*size`, or refuses it when the format needs more. -/
def unpack (system : Bool) (format : List Char) (data : Bytes) (size : Option Nat) :
    Option (List Nat) :=
  match size with
  | none => none
  | some room =>
    if packLength format > room then none else some (unpackLoop system format system data 0)

/-- Masking a byte that is already a byte changes nothing. -/
@[simp] theorem byteAt_toNat (byte : UInt8) : byteAt byte.toNat 0 = byte := by
  -- The mask is one below a power of two, so it is the remainder the conversion takes anyway.
  have masked : byte.toNat &&& 0xff = byte.toNat := by
    have := Nat.and_two_pow_sub_one_eq_mod byte.toNat 8
    have := byte.toNat_lt
    simp_all
  simp [byteAt, masked]

/-- Reading a byte and storing it into a byte variable gives that byte. -/
@[simp] theorem readByte_toUInt8 (data : Bytes) (position : Nat) :
    (readByte data position).toUInt8 = data.getD position 0 := by
  simp [readByte]

end Daliserver

import Daliserver.Pack.Format

/-! The dynamic array of array.c, down to the bytes that it copies. -/

namespace Daliserver

/-- An element, which is passed in as a block of bytes of a fixed size. -/
abbrev Element (elemsize : Nat) := { bytes : Bytes // bytes.length = elemsize }

/-- A call of `memcpy` that writes to the storage of an array. -/
structure ArrayCopy where
  -- How many bytes the storage has.
  storage : Nat
  dest : Nat
  -- Where in the storage the source begins, unless it is memory of the caller.
  source : Option Nat
  count : Nat
deriving DecidableEq, Repr

/-- The copy stays within the storage, and what it reads is not what it writes. -/
def ArrayCopy.Safe (copy : ArrayCopy) : Prop :=
  copy.dest + copy.count ≤ copy.storage ∧
    ∀ start ∈ copy.source, start + copy.count ≤ copy.storage ∧
      (copy.dest + copy.count ≤ start ∨ start + copy.count ≤ copy.dest)

instance (copy : ArrayCopy) : Decidable copy.Safe :=
  inferInstanceAs (Decidable (_ ∧ ∀ start ∈ copy.source, _))

/-- What the C library leaves open in a call of one of the functions. -/
structure Unspecified where
  -- What memory holds that was not written yet.
  fresh : Nat → UInt8
  -- What is found in the storage after a copy with undefined behavior.
  undefined : Bytes

/-- Memory of some size. -/
def malloc (unspecified : Unspecified) (size : Nat) : Bytes :=
  (List.range size).map unspecified.fresh

/-- Memory of another size that holds what it held before. -/
def realloc (unspecified : Unspecified) (data : Bytes) (size : Nat) : Bytes :=
  data.take size ++ (malloc unspecified size).drop data.length

/-- Copies bytes into a storage, which is undefined if the copy is not safe. -/
def memcpy (unspecified : Unspecified) (copy : ArrayCopy) (source data : Bytes) : Bytes :=
  if copy.Safe then
    data.take copy.dest ++ source.take copy.count ++ data.drop (copy.dest + copy.count)
  else unspecified.undefined

/-- An array, where data of `none` is a NULL pointer. -/
structure DynamicArray (elemsize : Nat) where
  allocated : Nat
  length : Nat
  data : Option Bytes
  -- All calls of `memcpy`, in order.
  copies : List ArrayCopy

variable {elemsize : Nat}

/-- An empty array. -/
def arrayNew (elemsize : Nat) : DynamicArray elemsize where
  allocated := 0
  length := 0
  data := none
  copies := []

/-- Where in the storage an element is, if there is one at the index. -/
def arrayGet (index : Nat) (array : DynamicArray elemsize) : Option Nat :=
  if index < array.length then some (elemsize * index) else none

/-- Appends an element and returns its index, or -1 for a NULL pointer. -/
def arrayAppend (unspecified : Unspecified) (data : Option (Element elemsize))
    (array : DynamicArray elemsize) : Int × DynamicArray elemsize :=
  match data with
  | none => (-1, array)
  | some element =>
    let opened : DynamicArray elemsize := match array.data with
      | some _ => array
      | none => { array with allocated := 1, data := some (malloc unspecified (elemsize * 1)) }
    let grown : DynamicArray elemsize :=
      if opened.length + 1 > opened.allocated then
        { opened with
          allocated := opened.allocated <<< 1
          data := opened.data.map fun data =>
            realloc unspecified data (elemsize * (opened.allocated <<< 1)) }
      else opened
    match grown.data with
    | none => (-1, grown)
    | some storage =>
      let copy : ArrayCopy :=
        ⟨elemsize * grown.allocated, elemsize * grown.length, none, elemsize⟩
      (grown.length,
        { grown with
          data := some (memcpy unspecified copy element.val storage)
          length := grown.length + 1
          copies := grown.copies ++ [copy] })

/-- Removes an element by copying the ones behind it over it. -/
def arrayRemove (unspecified : Unspecified) (index : Nat) (array : DynamicArray elemsize) :
    DynamicArray elemsize :=
  if index < array.length then
    let behind := elemsize * (index + 1)
    -- The number of elements behind the index, and one more.
    let copy : ArrayCopy := ⟨elemsize * array.allocated, elemsize * index, some behind,
      elemsize * (array.length - index)⟩
    let copied : DynamicArray elemsize := { array with
      data := array.data.map fun data => memcpy unspecified copy (data.drop behind) data
      length := array.length - 1
      copies := array.copies ++ [copy] }
    if copied.length < 1 then { copied with allocated := 0, data := none } else copied
  else array

/-- A call of one of the functions, with what it meets in the C library. -/
inductive ArrayOp (elemsize : Nat) where
  | append (unspecified : Unspecified) (data : Option (Element elemsize))
  | remove (unspecified : Unspecified) (index : Nat)

/-- Carries out a call. -/
def arrayStep (array : DynamicArray elemsize) : ArrayOp elemsize → DynamicArray elemsize
  | .append unspecified data => (arrayAppend unspecified data array).2
  | .remove unspecified index => arrayRemove unspecified index array

/-- What a call returns. -/
def arrayResult (array : DynamicArray elemsize) : ArrayOp elemsize → Option Int
  | .append unspecified data => some (arrayAppend unspecified data array).1
  | .remove _ _ => none

namespace DynamicArray

/-- The bytes of the element at an index. -/
def element (array : DynamicArray elemsize) (index : Nat) : Option Bytes := do
  let start ← arrayGet index array
  let data ← array.data
  return (data.drop start).take elemsize

/-- All elements, in order. -/
def contents (array : DynamicArray elemsize) : List (Option Bytes) :=
  (List.range array.length).map array.element

end DynamicArray

end Daliserver

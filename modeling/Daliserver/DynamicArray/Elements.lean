import Daliserver.DynamicArray.Storage
import Daliserver.Machine.Run

/-! When the dynamic array is a list of its elements. -/

namespace Daliserver

open Machine

variable {elemsize : Nat}

/-- What a call does to a list of elements. -/
def elementsStep (elements : List (Element elemsize)) :
    ArrayOp elemsize → List (Element elemsize)
  | .append _ none => elements
  | .append _ (some element) => elements ++ [element]
  -- An index out of range changes nothing.
  | .remove _ index => elements.eraseIdx index

/-- What a call returns on a list of elements. -/
def elementsResult (elements : List (Element elemsize)) : ArrayOp elemsize → Option Int
  | .append _ none => some (-1)
  | .append _ (some _) => some elements.length
  | .remove _ _ => none

/-- After some calls, the array is like a list, and all its copies have been safe. -/
structure AsList (elemsize : Nat) (ops : List (ArrayOp elemsize)) : Prop where
  contents : (run arrayStep (arrayNew elemsize) ops).contents =
    (run elementsStep [] ops).map fun element => some element.val
  results : outputs arrayStep arrayResult (arrayNew elemsize) ops =
    outputs elementsStep elementsResult [] ops
  fits : (run arrayStep (arrayNew elemsize) ops).length ≤
    (run arrayStep (arrayNew elemsize) ops).allocated
  absent : (run arrayStep (arrayNew elemsize) ops).data = none ↔
    (run arrayStep (arrayNew elemsize) ops).length = 0
  safe : ∀ copy ∈ (run arrayStep (arrayNew elemsize) ops).copies, copy.Safe

/-- A removal is out of range, or it is of the last element and the storage is not full. -/
def Harmless (array : DynamicArray elemsize) : ArrayOp elemsize → Prop
  | .append _ _ => True
  | .remove _ index => array.length ≤ index ∨
    index + 1 = array.length ∧ array.length < array.allocated

/-- The bytes of some elements, one after the other. -/
def flat (elements : List (Element elemsize)) : Bytes := elements.flatMap Subtype.val

@[simp] theorem flat_nil : flat ([] : List (Element elemsize)) = [] := rfl

@[simp] theorem flat_cons (element : Element elemsize) (rest : List (Element elemsize)) :
    flat (element :: rest) = element.val ++ flat rest := rfl

@[simp] theorem flat_append (first second : List (Element elemsize)) :
    flat (first ++ second) = flat first ++ flat second :=
  List.flatMap_append

@[simp] theorem length_flat (elements : List (Element elemsize)) :
    (flat elements).length = elemsize * elements.length := by
  -- Every element carries the proof that it has the size of one.
  induction elements with
  | nil => rfl
  | cons element rest ih =>
    have size := element.property
    rw [flat_cons, List.length_append, ih, size, List.length_cons, Nat.mul_add, Nat.mul_one,
      Nat.add_comm]

/-- The elements are at the front of the storage, and the rest of it is spare. -/
structure Stores (array : DynamicArray elemsize) (elements : List (Element elemsize)) : Prop where
  length : array.length = elements.length
  fits : array.length ≤ array.allocated
  absent : array.data = none ↔ array.length = 0
  bytes : ∀ data, array.data = some data → ∃ spare, data = flat elements ++ spare ∧
    data.length = elemsize * array.allocated

theorem stores_arrayNew : Stores (arrayNew elemsize) [] where
  length := rfl
  fits := Nat.le_refl _
  absent := ⟨fun _ => rfl, fun _ => rfl⟩
  bytes := by
    intro data present
    cases present

/-- A stored element is found at its index. -/
theorem Stores.element {array : DynamicArray elemsize} {elements : List (Element elemsize)}
    (stores : Stores array elements) {index : Nat} (inside : index < elements.length) :
    array.element index = some (elements[index]).val := by
  have bound : index < array.length := by
    rw [stores.length]
    exact inside
  obtain ⟨data, present⟩ : ∃ data, array.data = some data := by
    apply Option.ne_none_iff_exists'.mp
    intro none
    have empty := stores.absent.mp none
    omega
  obtain ⟨spare, split, -⟩ := stores.bytes data present
  -- The elements in front of the index take up all the bytes in front of it.
  have parts : elements = elements.take index ++ elements[index] :: elements.drop (index + 1) := by
    simp
  have around := congrArg flat parts
  rw [flat_append, flat_cons] at around
  have front : (flat (elements.take index)).length = elemsize * index := by
    rw [length_flat, List.length_take, Nat.min_eq_left (Nat.le_of_lt inside)]
  simp only [DynamicArray.element, arrayGet, if_pos bound, present, split]
  rw [around, List.append_assoc, ← front]
  simp [elements[index].property]

/-- The array holds the stored elements, and no others. -/
theorem Stores.contents {array : DynamicArray elemsize} {elements : List (Element elemsize)}
    (stores : Stores array elements) :
    array.contents = elements.map fun element => some element.val := by
  -- Both have the same length, and the same element at every index.
  apply List.ext_getElem
  · simp [DynamicArray.contents, stores.length]
  · intro index _ inside
    rw [List.length_map] at inside
    simp only [DynamicArray.contents, List.getElem_map, List.getElem_range]
    exact stores.element inside

/-- Memory that gets larger keeps all of its bytes. -/
theorem realloc_larger {data : Bytes} {size : Nat} (larger : data.length ≤ size)
    (unspecified : Unspecified) :
    ∃ more, realloc unspecified data size = data ++ more ∧
      (realloc unspecified data size).length = size := by
  refine ⟨(malloc unspecified size).drop data.length, ?_, ?_⟩
  · rw [realloc, List.take_of_length_le larger]
  · simp only [realloc, malloc, List.length_append, List.length_take, List.length_drop,
      List.length_map, List.length_range]
    omega

/-- A safe copy replaces the bytes behind the ones in front of its destination. -/
theorem memcpy_safe {copy : ArrayCopy} (safe : copy.Safe) {front : Bytes}
    (dest : copy.dest = front.length) (unspecified : Unspecified) (source rest : Bytes) :
    memcpy unspecified copy source (front ++ rest) =
      front ++ (source.take copy.count ++ rest.drop copy.count) := by
  rw [memcpy, if_pos safe, dest]
  simp [List.drop_length_add_append]

/-- A safe copy leaves as many bytes as there were. -/
theorem length_memcpy {copy : ArrayCopy} (safe : copy.Safe) {source data : Bytes}
    (size : data.length = copy.storage) (enough : copy.count ≤ source.length)
    (unspecified : Unspecified) :
    (memcpy unspecified copy source data).length = copy.storage := by
  have within := safe.1
  rw [memcpy, if_pos safe]
  simp only [List.length_append, List.length_take, List.length_drop]
  omega

/-- The copy of a new element behind the others. -/
def appendCopy (elemsize allocated length : Nat) : ArrayCopy :=
  ⟨elemsize * allocated, elemsize * length, none, elemsize⟩

/-- The array once an element was copied into its storage. -/
def DynamicArray.filled (unspecified : Unspecified) (allocated : Nat) (data : Bytes)
    (element : Element elemsize) (array : DynamicArray elemsize) : DynamicArray elemsize where
  allocated := allocated
  length := array.length + 1
  data := some (memcpy unspecified (appendCopy elemsize allocated array.length) element.val data)
  copies := array.copies ++ [appendCopy elemsize allocated array.length]

/-- Before an element is copied in, there is room for it. -/
theorem Stores.arrayAppend_eq {array : DynamicArray elemsize}
    {elements : List (Element elemsize)} (stores : Stores array elements)
    (unspecified : Unspecified) (element : Element elemsize) :
    ∃ allocated spare, array.length < allocated ∧
      (flat elements ++ spare).length = elemsize * allocated ∧
      arrayAppend unspecified (some element) array = ((array.length : Int),
        array.filled unspecified allocated (flat elements ++ spare) element) := by
  cases present : array.data with
  | none =>
    -- The first element gets storage of its own, which need not grow.
    have empty : array.length = 0 := stores.absent.mp present
    have nothing : elements = [] := List.length_eq_zero_iff.mp (stores.length.symm.trans empty)
    refine ⟨1, malloc unspecified (elemsize * 1), by omega, ?_, ?_⟩
    · simp [nothing, malloc]
    · simp [arrayAppend, present, empty, nothing, DynamicArray.filled, appendCopy]
  | some data =>
    obtain ⟨spare, rfl, size⟩ := stores.bytes data present
    have inUse : array.length ≠ 0 := by
      intro empty
      rw [stores.absent.mpr empty] at present
      cases present
    by_cases full : array.length + 1 > array.allocated
    · -- Full storage is doubled, and keeps what it holds.
      have fits := stores.fits
      have doubled : array.allocated <<< 1 = 2 * array.allocated := by
        rw [Nat.shiftLeft_eq, Nat.pow_one, Nat.mul_comm]
      have larger : (flat elements ++ spare).length ≤ elemsize * (array.allocated <<< 1) := by
        rw [size]
        apply Nat.mul_le_mul_left
        omega
      obtain ⟨more, same, length⟩ := realloc_larger larger unspecified
      refine ⟨array.allocated <<< 1, spare ++ more, by omega, ?_, ?_⟩
      · rw [← List.append_assoc, ← same, length]
      · rw [← List.append_assoc, ← same]
        simp only [arrayAppend, present, full, if_true, Option.map_some]
        rfl
    · refine ⟨array.allocated, spare, by omega, size, ?_⟩
      simp only [arrayAppend, present, full, if_false]
      rfl

/-- Appending an element appends to the list, with a safe copy. -/
theorem Stores.append {array : DynamicArray elemsize} {elements : List (Element elemsize)}
    (stores : Stores array elements) (unspecified : Unspecified) (element : Element elemsize) :
    Stores (arrayAppend unspecified (some element) array).2 (elements ++ [element]) ∧
      (arrayAppend unspecified (some element) array).1 = elements.length ∧
      ∃ copy : ArrayCopy, copy.Safe ∧
        (arrayAppend unspecified (some element) array).2.copies = array.copies ++ [copy] := by
  obtain ⟨allocated, spare, room, size, called⟩ := stores.arrayAppend_eq unspecified element
  have length := stores.length
  have safe : (appendCopy elemsize allocated array.length).Safe := by
    refine ⟨?_, by simp [appendCopy]⟩
    show elemsize * array.length + elemsize ≤ elemsize * allocated
    rw [← Nat.mul_succ]
    exact Nat.mul_le_mul_left _ room
  rw [called]
  refine ⟨⟨?_, room, ?_, ?_⟩, congrArg Int.ofNat length, _, safe, rfl⟩
  · rw [List.length_append, List.length_singleton, ← length]
    rfl
  · simp [DynamicArray.filled]
  · -- The element goes to the front of the spare bytes.
    intro data present
    have dest : (appendCopy elemsize allocated array.length).dest = (flat elements).length := by
      rw [length_flat, ← length]
      rfl
    have whole : element.val.take elemsize = element.val :=
      List.take_of_length_le (Nat.le_of_eq element.property)
    have copied := memcpy_safe safe dest unspecified element.val spare
    have kept := length_memcpy safe size (Nat.le_of_eq element.property.symm) unspecified
    simp only [DynamicArray.filled, Option.some.injEq] at present
    rw [present] at copied kept
    refine ⟨spare.drop elemsize, ?_, kept⟩
    rw [copied, flat_append, flat_cons, flat_nil, List.append_nil, List.append_assoc]
    show flat elements ++ (element.val.take elemsize ++ spare.drop elemsize) = _
    rw [whole]

/-- The copy with which an element is removed. -/
def removeCopy (index : Nat) (array : DynamicArray elemsize) : ArrayCopy :=
  ⟨elemsize * array.allocated, elemsize * index, some (elemsize * (index + 1)),
    elemsize * (array.length - index)⟩

/-- An element that is in range is removed with one copy. -/
theorem copies_arrayRemove {array : DynamicArray elemsize} {index : Nat}
    (inside : index < array.length) (unspecified : Unspecified) :
    (arrayRemove unspecified index array).copies = array.copies ++ [removeCopy index array] := by
  unfold arrayRemove
  rw [if_pos inside]
  simp only
  split <;> rfl

/--
The copy is safe exactly for the last element of storage that is not full.

One element too many is copied: it has to be there, and in front of it nothing may be left to move.
-/
theorem removeCopy_safe_iff (positive : 1 ≤ elemsize) {array : DynamicArray elemsize} {index : Nat}
    (inside : index < array.length) :
    (removeCopy index array).Safe ↔
      index + 1 = array.length ∧ array.length < array.allocated := by
  have scale : ∀ first second, elemsize * first ≤ elemsize * second ↔ first ≤ second :=
    fun first second => Nat.mul_le_mul_left_iff positive
  simp only [removeCopy, ArrayCopy.Safe, Option.mem_some_iff, forall_eq', ← Nat.mul_add, scale]
  omega

/-- Removing the last element of storage that is not full removes it from the list. -/
theorem Stores.removeLast {array : DynamicArray elemsize} {elements : List (Element elemsize)}
    (stores : Stores array elements) {index : Nat} (last : index + 1 = array.length)
    (safe : (removeCopy index array).Safe) (unspecified : Unspecified) :
    Stores (arrayRemove unspecified index array) (elements.eraseIdx index) := by
  have length := stores.length
  have inside : index < array.length := by omega
  have erased : elements.eraseIdx index = elements.take index := by
    rw [List.eraseIdx_eq_take_drop_succ, List.drop_of_length_le (by omega), List.append_nil]
  have front : (elements.take index).length = index := by
    rw [List.length_take, ← length, Nat.min_eq_left (Nat.le_of_lt inside)]
  have shorter : array.length - 1 = (elements.take index).length := by
    rw [front]
    omega
  rw [erased, arrayRemove, if_pos inside]
  simp only
  split
  · -- The storage is released along with the only element.
    rename_i emptied
    refine ⟨shorter, ?_, ?_, ?_⟩
    · show array.length - 1 ≤ 0
      omega
    · exact ⟨fun _ => Nat.lt_one_iff.mp emptied, fun _ => rfl⟩
    · intro data present
      cases present
  · rename_i more
    refine ⟨shorter, ?_, ?_, ?_⟩
    · have fits := stores.fits
      show array.length - 1 ≤ array.allocated
      omega
    · have present : array.data ≠ none := fun none => by
        have empty := stores.absent.mp none
        omega
      have left : array.length - 1 ≠ 0 := fun none => more (Nat.lt_one_iff.mpr none)
      simp [present, left]
    · intro after copied
      obtain ⟨data, present, rfl⟩ := Option.map_eq_some_iff.mp copied
      obtain ⟨spare, split, size⟩ := stores.bytes data present
      -- The elements in front of the last one are in front of the destination.
      have around : data = flat (elements.take index) ++ (flat (elements.drop index) ++ spare) := by
        rw [split, ← List.append_assoc, ← flat_append, List.take_append_drop]
      have dest : (removeCopy index array).dest = (flat (elements.take index)).length := by
        rw [length_flat, front]
        rfl
      have enough : (removeCopy index array).count ≤
          (data.drop (elemsize * (index + 1))).length := by
        have within := (safe.2 _ rfl).1
        simp only [removeCopy] at within ⊢
        rw [List.length_drop, size]
        omega
      have moved := memcpy_safe safe dest unspecified (data.drop (elemsize * (index + 1)))
        (flat (elements.drop index) ++ spare)
      rw [← around] at moved
      exact ⟨_, moved, length_memcpy safe size enough unspecified⟩

/-- A call that is harmless leaves an array that stores what it should. -/
theorem Stores.step {array : DynamicArray elemsize} {elements : List (Element elemsize)}
    (positive : 1 ≤ elemsize) (stores : Stores array elements) {op : ArrayOp elemsize}
    (harmless : Harmless array op) :
    Stores (arrayStep array op) (elementsStep elements op) := by
  cases op with
  | append unspecified data =>
    cases data with
    | none => exact stores
    | some element => exact (stores.append unspecified element).1
  | remove unspecified index =>
    have length := stores.length
    rcases harmless with outside | last
    · -- Out of range, neither the array nor the list has anything to remove.
      have same : elements.eraseIdx index = elements := List.eraseIdx_of_length_le (by omega)
      simp only [arrayStep, elementsStep, arrayRemove, if_neg (Nat.not_lt.mpr outside), same]
      exact stores
    · have safe := (removeCopy_safe_iff positive (by omega)).mpr last
      exact stores.removeLast last.1 safe unspecified

/-- What a call returns is what it returns on the list. -/
theorem Stores.result {array : DynamicArray elemsize} {elements : List (Element elemsize)}
    (stores : Stores array elements) (op : ArrayOp elemsize) :
    arrayResult array op = elementsResult elements op := by
  cases op with
  | append unspecified data =>
    cases data with
    | none => rfl
    | some element => exact congrArg some (stores.append unspecified element).2.1
  | remove unspecified index => rfl

/-- After a call, all copies are safe exactly if they were safe before and the call is harmless. -/
theorem Stores.copies_iff {array : DynamicArray elemsize} {elements : List (Element elemsize)}
    (positive : 1 ≤ elemsize) (stores : Stores array elements) (op : ArrayOp elemsize) :
    (∀ copy ∈ (arrayStep array op).copies, copy.Safe) ↔
      (∀ copy ∈ array.copies, copy.Safe) ∧ Harmless array op := by
  cases op with
  | append unspecified data =>
    cases data with
    | none => simp [arrayStep, arrayAppend, Harmless]
    | some element =>
      obtain ⟨copy, safe, copies⟩ := (stores.append unspecified element).2.2
      simp only [arrayStep, copies, Harmless, List.forall_mem_append, List.forall_mem_singleton,
        safe]
  | remove unspecified index =>
    by_cases inside : index < array.length
    · have safe := removeCopy_safe_iff positive inside
      simp only [arrayStep, copies_arrayRemove inside, List.forall_mem_append,
        List.forall_mem_singleton, safe, Harmless, Nat.not_le.mpr inside, false_or]
    · simp [arrayStep, arrayRemove, inside, Harmless, Nat.not_lt.mp inside]

/-- As long as all calls are harmless, the array stores what it should. -/
theorem stores_run (positive : 1 ≤ elemsize) {ops : List (ArrayOp elemsize)}
    (harmless : StepsMeet arrayStep Harmless (arrayNew elemsize) ops) :
    Stores (run arrayStep (arrayNew elemsize) ops) (run elementsStep [] ops) ∧
      outputs arrayStep arrayResult (arrayNew elemsize) ops =
        outputs elementsStep elementsResult [] ops ∧
      ∀ copy ∈ (run arrayStep (arrayNew elemsize) ops).copies, copy.Safe := by
  -- The run is generalized to start from any array that stores some elements safely.
  suffices general : ∀ (array : DynamicArray elemsize) elements, Stores array elements →
      (∀ copy ∈ array.copies, copy.Safe) → StepsMeet arrayStep Harmless array ops →
      Stores (run arrayStep array ops) (run elementsStep elements ops) ∧
        outputs arrayStep arrayResult array ops = outputs elementsStep elementsResult elements ops ∧
        ∀ copy ∈ (run arrayStep array ops).copies, copy.Safe by
    exact general _ _ stores_arrayNew (by simp [arrayNew]) harmless
  clear harmless
  induction ops with
  | nil => exact fun array elements stores safe _ => ⟨stores, rfl, safe⟩
  | cons op rest ih =>
    rintro array elements stores safe ⟨first, later⟩
    have next := (stores.copies_iff positive op).mpr ⟨safe, first⟩
    obtain ⟨kept, results, copies⟩ := ih _ _ (stores.step positive first) next later
    refine ⟨kept, ?_, copies⟩
    rw [outputs, outputs, stores.result op, results]

/--
The array is a list exactly as long as only the last element of storage that is not full is removed.

Any other removal copies between overlapping ranges, or reads behind the end of the storage.
-/
theorem array_refines_list_iff (positive : 1 ≤ elemsize) (ops : List (ArrayOp elemsize)) :
    (∀ past, past <+: ops → AsList elemsize past) ↔
      StepsMeet arrayStep Harmless (arrayNew elemsize) ops := by
  apply prefixes_iff_stepsMeet
  · intro past harmless
    obtain ⟨stores, results, safe⟩ := stores_run positive harmless
    exact ⟨stores.contents, results, stores.fits, stores.absent, safe⟩
  · -- The copy of the last call tells whether it was harmless.
    intro past op harmless list
    obtain ⟨stores, -, -⟩ := stores_run positive harmless
    have all := list.safe
    rw [run_append] at all
    exact ((stores.copies_iff positive op).mp all).2

/-- A C library that leaves zeros wherever it is free to choose. -/
def zeros : Unspecified := ⟨fun _ => 0, []⟩

/-- Appends an element of four equal bytes. -/
def appendFour (byte : UInt8) : ArrayOp 4 := .append zeros (some ⟨[byte, byte, byte, byte], rfl⟩)

/-- Of three elements the last one is removed, and then one that is not there. -/
theorem array_refines_list_popped :
    AsList 4 [appendFour 1, appendFour 2, appendFour 3, .remove zeros 2, .remove zeros 7] := by
  refine (array_refines_list_iff (by decide) _).mpr ?_ _ (List.prefix_refl _)
  exact ⟨trivial, trivial, trivial, .inr ⟨by decide, by decide⟩, .inl (by decide), trivial⟩

/--
Removing the only element reads behind the end of the storage.

Removing the first one of three copies between ranges that overlap.
-/
theorem array_remove_copies_too_much :
    ¬ AsList 4 [appendFour 1, .remove zeros 0] ∧
      ¬ AsList 4 [appendFour 1, appendFour 2, appendFour 3, .remove zeros 0] := by
  refine ⟨fun list => ?_, fun list => ?_⟩
  · have beyond := list.safe ⟨4, 0, some 4, 4⟩ (by decide)
    revert beyond
    decide
  · have overlap := list.safe ⟨16, 0, some 4, 12⟩ (by decide)
    revert overlap
    decide

end Daliserver

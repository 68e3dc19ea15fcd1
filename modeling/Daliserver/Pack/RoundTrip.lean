import Daliserver.Pack.Memory

/-! Packing and unpacking undo each other, whatever the format and the byte orders involved. -/

namespace Daliserver

open Machine

/-- The width of the value a directive takes, if it takes one. -/
def Directive.value? : Directive → Option Nat
  | .word width => some width
  | _ => none

/-- The widths of the values a format takes, in order. -/
def valueWidths (format : List Char) : List Nat := format.filterMap fun c => (directive c).value?

/-- What is left of some values at the widths of a format. -/
def truncated (format : List Char) (values : List Nat) : List Nat :=
  List.zipWith (fun width value => value % 2 ^ (8 * width)) (valueWidths format) values

/-- A word takes the first value. -/
theorem valueWidths_word {c : Char} {width : Nat} (meaning : directive c = .word width)
    (format : List Char) : valueWidths (c :: format) = width :: valueWidths format := by
  simp [valueWidths, meaning, Directive.value?]

/-- Any other directive takes none. -/
theorem valueWidths_other {c : Char} {other : Directive} (meaning : directive c = other)
    (none : other.value? = none) (format : List Char) :
    valueWidths (c :: format) = valueWidths format := by
  simp [valueWidths, meaning, none]

/-- No value of several bytes depends on the machine, given whether the mode does so far. -/
def governed : Bool → List Char → Bool
  | _, [] => true
  | explicit, c :: format =>
    match directive c with
    -- A `=` takes the machine's own order again.
    | .order mode => governed mode.isSome format
    -- A single byte is the same in any order.
    | .word width => (explicit || width ≤ 1) && governed explicit format
    | .skip | .nothing => governed explicit format

/-- Every value of several bytes comes behind a `<` or `>`, without a `=` in between. -/
def orderExplicit (format : List Char) : Bool := governed false format

/-- Two machines whose modes can be mixed in the rest of a format. -/
def Agree (packer unpacker : Bool) (first second : Bool) (format : List Char) : Prop :=
  packer = unpacker ∧ first = second ∨
    ∃ explicit, governed explicit format = true ∧ (explicit = true → first = second)

section Agree

variable {packer unpacker first second : Bool} {c : Char} {format : List Char}

/-- Short words read the same in both orders. -/
theorem ordered_of_short {bytes : Bytes} (short : bytes.length ≤ 1) (little : Bool) :
    ordered little bytes = bytes := by
  cases bytes with
  | nil => cases little <;> rfl
  | cons byte rest =>
    have none : rest = [] := List.length_eq_zero_iff.mp (by simpa using short)
    rw [none, ordered_singleton]

/-- At a word both machines use the same order, and go on agreeing. -/
theorem Agree.word {width : Nat} (agree : Agree packer unpacker first second (c :: format))
    (meaning : directive c = .word width) :
    Agree packer unpacker first second format ∧
      ∀ bytes : Bytes, bytes.length = width → ordered first bytes = ordered second bytes := by
  rcases agree with ⟨same, rfl⟩ | ⟨explicit, rest, known⟩
  · exact ⟨.inl ⟨same, rfl⟩, fun _ _ => rfl⟩
  · simp only [governed, meaning, Bool.and_eq_true, Bool.or_eq_true, decide_eq_true_eq] at rest
    refine ⟨.inr ⟨explicit, rest.2, known⟩, ?_⟩
    rintro bytes rfl
    -- A word is behind a mark, or it is too short for the order to matter.
    rcases rest.1 with marked | short
    · rw [known marked]
    · rw [ordered_of_short short, ordered_of_short short]

/-- An order mark sets the modes of both machines. -/
theorem Agree.order {mode : Option Bool} (agree : Agree packer unpacker first second (c :: format))
    (meaning : directive c = .order mode) :
    Agree packer unpacker (mode.getD packer) (mode.getD unpacker) format := by
  rcases agree with ⟨same, rfl⟩ | ⟨explicit, rest, known⟩
  · exact .inl ⟨same, by rw [same]⟩
  · simp only [governed, meaning] at rest
    -- An explicit mark is the same on both machines, and `=` promises nothing.
    refine .inr ⟨mode.isSome, rest, fun marked => ?_⟩
    obtain ⟨little, rfl⟩ := Option.isSome_iff_exists.mp marked
    rfl

/-- Any other character leaves the modes alone. -/
theorem Agree.other (agree : Agree packer unpacker first second (c :: format))
    (meaning : directive c = .skip ∨ directive c = .nothing) :
    Agree packer unpacker first second format := by
  rcases agree with same | ⟨explicit, rest, known⟩
  · exact .inl same
  · refine .inr ⟨explicit, ?_, known⟩
    rcases meaning with skip | nothing
    · simpa only [governed, skip] using rest
    · simpa only [governed, nothing] using rest

end Agree

/-- The loop changes nothing in front of its cursor and behind the end of the format. -/
theorem packLoop_outside {system little : Bool} {format : List Char} {args : List Nat}
    {data : Bytes} {out index : Nat} (outside : index < out ∨ out + packLength format ≤ index) :
    (packLoop system format little args data out)[index]? = data[index]? := by
  -- The rounds keep a record of where they write, which the loop does not.
  have rounds := packStep_packLoop system format ⟨little, args, data, out, []⟩
  rw [← rounds]
  refine (data_packSteps fun member => ?_).2
  rcases written_packSteps member with none | ⟨above, below⟩
  · exact List.not_mem_nil none
  · simp only at above below
    omega

@[simp] theorem length_packLoop (system : Bool) (format : List Char) (little : Bool)
    (args : List Nat) (data : Bytes) (out : Nat) :
    (packLoop system format little args data out).length = data.length := by
  induction format generalizing little args data out with
  | nil => rfl
  | cons c format ih =>
    rw [packLoop_cons]
    cases directive c <;> simp [Directive.pack, ih]

/-- A window shows the bytes that stand there. -/
theorem window_eq {data bytes : Bytes} {start width : Nat} (length : bytes.length = width)
    (found : ∀ offset < width, data[start + offset]? = bytes[offset]?) :
    window data start width = bytes := by
  apply List.ext_getElem?
  intro offset
  rw [window, List.getElem?_map]
  by_cases inside : offset < width
  · -- Inside the window the buffer has a byte, so the default is not used.
    have bound : offset < bytes.length := by omega
    rw [List.getElem?_range inside, Option.map_some, List.getD_eq_getElem?_getD,
      found offset inside, List.getElem?_eq_getElem bound]
    rfl
  · simp [inside, length]

/-- A window shows the bytes of the buffer. -/
theorem getElem?_window {data : Bytes} {start width offset : Nat} (inside : offset < width)
    (room : start + width ≤ data.length) :
    (window data start width)[offset]? = data[start + offset]? := by
  have bound : start + offset < data.length := by omega
  rw [window, List.getElem?_map, List.getElem?_range inside, Option.map_some,
    List.getD_eq_getElem?_getD, List.getElem?_eq_getElem bound]
  rfl

/-- A stored word is read back, cut to its width. -/
theorem readWord_storeBytes {first second : Bool} {width value out : Nat} {data after : Bytes}
    (same : ∀ bytes : Bytes, bytes.length = width → ordered first bytes = ordered second bytes)
    (room : out + width ≤ data.length)
    (kept : ∀ index < out + width,
      after[index]? = (storeBytes data out (wordBytes first width value))[index]?) :
    readWord second width after out = value % 2 ^ (8 * width) := by
  have bytes : window after out width = wordBytes first width value := by
    have length := length_wordBytes first width value
    apply window_eq length
    intro offset inside
    -- What is packed later goes behind the word and leaves it alone.
    rw [kept (out + offset) (by omega), storeBytes_inside (by omega) (by omega)]
  rw [readWord, bytes, wordBytes, same _ (length_toBytes _ _), ordered_ordered, ofBytes_toBytes,
    Nat.pow_mul]

/-- Unpacking what was packed gives the values, cut to their widths. -/
theorem unpackLoop_packLoop {packer unpacker first second : Bool} {format : List Char}
    {args : List Nat} {data : Bytes} {out : Nat}
    (agree : Agree packer unpacker first second format)
    (room : out + packLength format ≤ data.length)
    (complete : args.length = (valueWidths format).length) :
    unpackLoop unpacker format second (packLoop packer format first args data out) out =
      truncated format args := by
  -- Both loops go through the format together, each with its own mode.
  induction format generalizing first second args data out with
  | nil => rfl
  | cons c format ih =>
    rw [packLength_cons] at room
    rw [packLoop_cons, unpackLoop_cons]
    cases meaning : directive c with
    | word width =>
      obtain ⟨rest, same⟩ := agree.word meaning
      rw [valueWidths_word meaning] at complete
      -- There is an argument for each word, so the default of a missing one is not used.
      obtain ⟨value, args, rfl⟩ := List.exists_cons_of_length_eq_add_one complete
      rw [meaning] at room
      simp only [Directive.width] at room
      rw [truncated, valueWidths_word meaning, List.zipWith_cons_cons]
      show readWord second width (packLoop packer format first args
        (storeBytes data out (wordBytes first width value)) (out + width)) out :: _ = _
      rw [readWord_storeBytes same (by omega) fun index below => packLoop_outside (.inl below)]
      -- The rest is packed into the buffer that holds the word already.
      congr 1
      apply ih rest
      · rw [length_storeBytes]
        omega
      · simpa using complete
    | order mode =>
      rw [valueWidths_other meaning rfl] at complete
      rw [truncated, valueWidths_other meaning rfl]
      exact ih (agree.order meaning) (by omega) complete
    | skip =>
      rw [valueWidths_other meaning rfl] at complete
      rw [meaning] at room
      simp only [Directive.width] at room
      rw [truncated, valueWidths_other meaning rfl]
      exact ih (agree.other (.inl meaning)) (by omega) complete
    | nothing =>
      rw [valueWidths_other meaning rfl] at complete
      rw [truncated, valueWidths_other meaning rfl]
      exact ih (agree.other (.inr meaning)) (by omega) complete

/-- Only the space skips a byte. -/
theorem eq_space_of_skip {c : Char} (meaning : directive c = .skip) : c = ' ' := by
  fun_cases directive c <;> simp_all [directive]

/-- A byte under a space stays so behind one more directive. -/
theorem UnderSpace.cons {format : List Char} {index : Nat} (space : UnderSpace format index)
    (c : Char) : UnderSpace (c :: format) ((directive c).width + index) := by
  obtain ⟨before, after, rfl, rfl⟩ := space
  exact ⟨c :: before, after, rfl, packLength_cons c before⟩

/-- Packing what was unpacked gives the bytes that are not under a space. -/
theorem packLoop_unpackLoop {packer unpacker first second : Bool} {format : List Char}
    {data buffer : Bytes} {out offset : Nat} (agree : Agree packer unpacker first second format)
    (readable : out + packLength format ≤ buffer.length)
    (room : out + packLength format ≤ data.length) (inside : offset < packLength format)
    (covered : ¬ UnderSpace format offset) :
    (packLoop packer format first (unpackLoop unpacker format second buffer out) data
      out)[out + offset]? = buffer[out + offset]? := by
  induction format generalizing first second data out offset with
  | nil => exact absurd inside (Nat.not_lt_zero _)
  | cons c format ih =>
    rw [packLength_cons] at readable room inside
    rw [packLoop_cons, unpackLoop_cons]
    -- Behind the directive the same holds of the rest of the format.
    have later : (directive c).width ≤ offset →
        ∃ further, offset = (directive c).width + further ∧ further < packLength format ∧
          ¬ UnderSpace format further := by
      intro behind
      refine ⟨offset - (directive c).width, by omega, by omega, fun space => covered ?_⟩
      have same : (directive c).width + (offset - (directive c).width) = offset := by omega
      rw [← same]
      exact space.cons c
    cases meaning : directive c with
    | word width =>
      obtain ⟨rest, same⟩ := agree.word meaning
      rw [meaning] at readable room inside later
      simp only [Directive.width] at readable room inside later
      simp only [Directive.pack, Directive.unpack, List.headD_cons, List.tail_cons]
      by_cases here : offset < width
      · -- The word at the cursor is written from the very bytes it was read from.
        have copied : wordBytes first width (readWord second width buffer out) =
            window buffer out width := by
          have whole := toBytes_ofBytes (ordered second (window buffer out width))
          rw [length_ordered, length_window] at whole
          rw [wordBytes, readWord, whole, same _ (by simp), ordered_ordered]
        have length := length_window buffer out width
        rw [packLoop_outside (.inl (by omega)), copied, storeBytes_inside (by omega) (by omega),
          getElem?_window here (by omega)]
      · obtain ⟨further, rfl, within, clear⟩ := later (by omega)
        rw [← Nat.add_assoc]
        exact ih rest (by omega) (by rw [length_storeBytes]; omega) within clear
    | order mode =>
      obtain ⟨further, rfl, within, clear⟩ := later (by rw [meaning]; exact Nat.zero_le _)
      rw [meaning]
      simp only [Directive.width, Nat.zero_add]
      exact ih (agree.order meaning) (by omega) (by omega) within clear
    | skip =>
      rw [meaning] at readable room inside later
      simp only [Directive.width] at readable room inside later
      by_cases here : offset = 0
      · -- The byte at the cursor is the one under this space.
        refine absurd ?_ covered
        rw [here, eq_space_of_skip meaning]
        exact ⟨[], format, rfl, rfl⟩
      · obtain ⟨further, rfl, within, clear⟩ := later (by omega)
        rw [← Nat.add_assoc]
        exact ih (agree.other (.inl meaning)) (by omega) (by omega) within clear
    | nothing =>
      obtain ⟨further, rfl, within, clear⟩ := later (by rw [meaning]; exact Nat.zero_le _)
      rw [meaning]
      simp only [Directive.width, Nat.zero_add]
      exact ih (agree.other (.inr meaning)) (by omega) (by omega) within clear

/-- Packing leaves the bytes under a space as they were. -/
theorem packLoop_underSpace {system : Bool} {format : List Char} {args : List Nat} {data : Bytes}
    {index : Nat} (space : UnderSpace format index) :
    (packLoop system format system args data 0)[index]? = data[index]? := by
  rw [← packStep_packLoop system format ⟨system, args, data, 0, []⟩]
  exact (data_packSteps (not_written_underSpace space)).2

/--
Packing and unpacking with the same format undo each other, on one machine or between two.

The machines may differ in byte order if every value of several bytes is behind an explicit mark.
-/
theorem pack_unpack_inverse (packer unpacker : Bool) (format : List Char)
    (orders : packer = unpacker ∨ orderExplicit format = true) :
    (∀ args, args.length = (valueWidths format).length →
      (∀ size, ∃ bytes, pack packer format none size args =
          some (bytes, size.map fun _ => packLength format) ∧
        unpack unpacker format bytes (some (packLength format)) =
          some (truncated format args)) ∧
      ∀ buffer room, packLength format ≤ room → room ≤ buffer.length →
        ∃ bytes, pack packer format (some buffer) (some room) args =
            some (bytes, some (packLength format)) ∧
          unpack unpacker format bytes (some (packLength format)) =
            some (truncated format args)) ∧
    ∀ buffer : Bytes, buffer.length = packLength format →
      ∃ values, unpack unpacker format buffer (some (packLength format)) = some values ∧
        ∀ second room, packLength format ≤ room → room ≤ second.length →
          ∃ bytes, pack packer format (some second) (some room) values =
              some (bytes, some (packLength format)) ∧
            bytes.length = second.length ∧
            ∀ index < packLength format,
              (¬ UnderSpace format index → bytes[index]? = buffer[index]?) ∧
              (UnderSpace format index → bytes[index]? = second[index]?) := by
  -- Each machine starts in its own mode, which counts as not explicit.
  have agree : Agree packer unpacker packer unpacker format := by
    rcases orders with rfl | explicit
    · exact .inl ⟨rfl, rfl⟩
    · exact .inr ⟨false, explicit, fun wrong => absurd wrong (by decide)⟩
  have inverse : ∀ args data, packLength format ≤ data.length →
      args.length = (valueWidths format).length →
      unpack unpacker format (packLoop packer format packer args data 0)
        (some (packLength format)) = some (truncated format args) := by
    intro args data room complete
    rw [← Nat.zero_add (packLength format)] at room
    rw [← unpackLoop_packLoop agree room complete]
    simp [unpack]
  refine ⟨fun args complete => ⟨fun size => ?_, fun buffer room fits within => ?_⟩,
    fun buffer whole => ?_⟩
  -- Without a buffer, one of the right length is allocated, whatever the size says.
  · exact ⟨_, rfl, inverse args _ (by simp) complete⟩
  · refine ⟨_, ?_, inverse args buffer (by omega) complete⟩
    simp [pack, Nat.not_lt.mpr fits]
  · refine ⟨unpackLoop unpacker format unpacker buffer 0, by simp [unpack],
      fun second room fits within => ?_⟩
    refine ⟨packLoop packer format packer (unpackLoop unpacker format unpacker buffer 0) second 0,
      by simp [pack, Nat.not_lt.mpr fits], length_packLoop .., fun index inside => ⟨?_, ?_⟩⟩
    · intro covered
      have readable : 0 + packLength format ≤ buffer.length := by omega
      have writable : 0 + packLength format ≤ second.length := by omega
      have written := packLoop_unpackLoop agree readable writable inside covered
      rwa [Nat.zero_add] at written
    · exact packLoop_underSpace

/-- A format with a skip and values of all widths, between machines of different byte order. -/
theorem pack_unpack_inverse_mixed :
    orderExplicit " c>Sl <If".toList = true ∧
    ∃ bytes, pack false " c>Sl <If".toList none none [0x1ff, 0x1234, 5, 6, 7] =
        some (bytes, none) ∧
      unpack true " c>Sl <If".toList bytes (some 21) = some [0xff, 0x1234, 5, 6, 7] := by
  have explicit : orderExplicit " c>Sl <If".toList = true := by decide
  have inverse := pack_unpack_inverse false true " c>Sl <If".toList (.inr explicit)
  obtain ⟨bytes, packed, unpacked⟩ := (inverse.1 [0x1ff, 0x1234, 5, 6, 7] (by decide)).1 none
  exact ⟨explicit, bytes, packed, unpacked⟩

end Daliserver

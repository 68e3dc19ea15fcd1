import Daliserver.Pack.Directives

/-! The accesses of `pack` and `unpack` to the memory of their caller, one directive at a time. -/

namespace Daliserver

/-- The variables of `pack`, with the indices of the buffer that were assigned to. -/
structure PackState where
  little : Bool
  args : List Nat
  data : Bytes
  -- How far the output cursor is from the start of the buffer.
  out : Nat
  written : List Nat
deriving DecidableEq, Repr

namespace PackState

/-- Moves the cursor. -/
def forward (state : PackState) (distance : Nat) : PackState :=
  { state with out := state.out + distance }

/-- Uses up an argument and assigns bytes to the positions from the cursor on. -/
def put (state : PackState) (bytes : Bytes) : PackState :=
  { state with
    args := state.args.tail
    data := storeBytes state.data state.out bytes
    written := state.written ++ (List.range bytes.length).map (state.out + ·) }

end PackState

/-- One round of the loop of `pack`. -/
def packStep (system : Bool) (state : PackState) (c : Char) : PackState :=
  let value := state.args.headD 0
  match c with
  -- A space skips a byte without an argument.
  | ' ' => state.forward 1
  | 'c' | 'C' => (state.put [byteAt value 0]).forward 1
  | 's' | 'S' => (state.put (shortBytes state.little value)).forward 2
  | 'i' | 'I' | 'f' => (state.put (intBytes state.little value)).forward 4
  | 'l' | 'L' | 'd' => (state.put (longBytes state.little value)).forward 8
  | '<' => { state with little := true }
  | '>' => { state with little := false }
  | '=' => { state with little := system }
  -- Characters without a meaning are passed over.
  | _ => state

/-- The variables of `unpack`, with the indices of the buffer that were read. -/
structure UnpackState where
  little : Bool
  data : Bytes
  -- How far the input cursor is from the start of the buffer.
  position : Nat
  -- The values assigned to the output arguments, from the first argument on.
  stored : List Nat
  read : List Nat
deriving DecidableEq, Repr

namespace UnpackState

/-- Moves the cursor. -/
def forward (state : UnpackState) (distance : Nat) : UnpackState :=
  { state with position := state.position + distance }

/-- Assigns a value to the next argument that was put together from some bytes at the cursor. -/
def take (state : UnpackState) (width value : Nat) : UnpackState :=
  { state with
    stored := state.stored ++ [value]
    read := state.read ++ (List.range width).map (state.position + ·) }

end UnpackState

/-- One round of the loop of `unpack`. -/
def unpackStep (system : Bool) (state : UnpackState) (c : Char) : UnpackState :=
  match c with
  | ' ' => state.forward 1
  | 'c' | 'C' => (state.take 1 (readByte state.data state.position)).forward 1
  | 's' | 'S' => (state.take 2 (readShort state.little state.data state.position)).forward 2
  | 'i' | 'I' | 'f' => (state.take 4 (readInt state.little state.data state.position)).forward 4
  | 'l' | 'L' | 'd' => (state.take 8 (readLong state.little state.data state.position)).forward 8
  | '<' => { state with little := true }
  | '>' => { state with little := false }
  | '=' => { state with little := system }
  | _ => state

/-- What the caller of `pack` finds after the call. -/
structure PackCall where
  -- Whether the buffer was returned, and not NULL.
  accepted : Bool
  buffer : Bytes
  size : Option Nat
  cursor : Nat
  written : List Nat
deriving DecidableEq, Repr

/-- A call of `pack` with a buffer, where a size of `none` is a NULL pointer. -/
def packCall (system : Bool) (format : List Char) (buffer : Bytes) (size : Option Nat)
    (args : List Nat) : PackCall :=
  let length := packLength format
  match size with
  | none => ⟨false, buffer, none, 0, []⟩
  | some room =>
    if length > room then ⟨false, buffer, some room, 0, []⟩
    else
      -- The size is set to what the format takes, which may be less than the room.
      let state := format.foldl (packStep system) ⟨system, args, buffer, 0, []⟩
      ⟨true, state.data, some length, state.out, state.written⟩

/-- What the caller of `unpack` finds after the call. -/
structure UnpackCall where
  -- Whether the call returned 0, and not -1.
  accepted : Bool
  buffer : Bytes
  size : Option Nat
  outputs : List Nat
  cursor : Nat
  read : List Nat
deriving DecidableEq, Repr

/-- A call of `unpack` with a buffer, and with what its output arguments held before. -/
def unpackCall (system : Bool) (format : List Char) (buffer : Bytes) (size : Option Nat)
    (outputs : List Nat) : UnpackCall :=
  let length := packLength format
  match size with
  | none => ⟨false, buffer, none, outputs, 0, []⟩
  | some room =>
    if length > room then ⟨false, buffer, some room, outputs, 0, []⟩
    else
      -- Arguments beyond the ones the format asks for are not touched.
      let state := format.foldl (unpackStep system) ⟨system, buffer, 0, [], []⟩
      ⟨true, state.data, some room, state.stored ++ outputs.drop state.stored.length,
        state.position, state.read⟩

/-- One round of `pack` by the meaning of the character. -/
def Directive.put (system : Bool) (state : PackState) : Directive → PackState
  | .skip => state.forward 1
  | .word width =>
    (state.put (wordBytes state.little width (state.args.headD 0))).forward width
  | .order mode => { state with little := mode.getD system }
  | .nothing => state

/-- One round of `unpack` by the meaning of the character. -/
def Directive.take (system : Bool) (state : UnpackState) : Directive → UnpackState
  | .skip => state.forward 1
  | .word width =>
    (state.take width (readWord state.little width state.data state.position)).forward width
  | .order mode => { state with little := mode.getD system }
  | .nothing => state

theorem packStep_eq (system : Bool) (state : PackState) (c : Char) :
    packStep system state c = (directive c).put system state := by
  fun_cases directive c <;> simp_all [packStep, Directive.put, byteBytes_eq state.little,
    shortBytes_eq, intBytes_eq, longBytes_eq]

theorem unpackStep_eq (system : Bool) (state : UnpackState) (c : Char) :
    unpackStep system state c = (directive c).take system state := by
  fun_cases directive c <;> simp_all [unpackStep, Directive.take, readByte_eq state.little,
    readShort_eq, readInt_eq, readLong_eq]

/-- The rounds of `pack` fill the buffer as its loop does. -/
theorem packStep_packLoop (system : Bool) (format : List Char) (state : PackState) :
    (format.foldl (packStep system) state).data =
      packLoop system format state.little state.args state.data state.out := by
  induction format generalizing state with
  | nil => rfl
  | cons c format ih =>
    rw [List.foldl_cons, ih, packLoop_cons, packStep_eq]
    cases directive c <;> rfl

/-- The rounds of `unpack` store the values its loop does. -/
theorem unpackStep_unpackLoop (system : Bool) (format : List Char) (state : UnpackState) :
    (format.foldl (unpackStep system) state).stored =
      state.stored ++ unpackLoop system format state.little state.data state.position := by
  induction format generalizing state with
  | nil => simp [unpackLoop]
  | cons c format ih =>
    rw [List.foldl_cons, ih, unpackLoop_cons, unpackStep_eq]
    cases directive c <;> simp [Directive.take, Directive.unpack, UnpackState.take,
      UnpackState.forward]

/-- The call of `pack` returns what `pack` computes. -/
theorem packCall_pack (system : Bool) (format : List Char) (buffer : Bytes) (size : Option Nat)
    (args : List Nat) :
    pack system format (some buffer) size args =
      if (packCall system format buffer size args).accepted then
        some ((packCall system format buffer size args).buffer,
          (packCall system format buffer size args).size)
      else none := by
  cases size with
  | none => rfl
  | some room =>
    by_cases short : packLength format > room
    · simp [pack, packCall, short]
    · simp [pack, packCall, short, packStep_packLoop]

/-- The call of `unpack` stores what `unpack` computes, and leaves further arguments alone. -/
theorem unpackCall_unpack (system : Bool) (format : List Char) (buffer : Bytes)
    (size : Option Nat) (outputs : List Nat) :
    (unpackCall system format buffer size outputs).outputs =
      (unpack system format buffer size).elim outputs
        fun values => values ++ outputs.drop values.length := by
  cases size with
  | none => rfl
  | some room =>
    by_cases short : packLength format > room
    · simp [unpack, unpackCall, short]
    · simp [unpack, unpackCall, short, unpackStep_unpackLoop]

/-- A round moves the output cursor by the width of its directive. -/
theorem out_packStep (system : Bool) (state : PackState) (c : Char) :
    (packStep system state c).out = state.out + (directive c).width := by
  rw [packStep_eq]
  cases directive c <;> rfl

/-- A round moves the input cursor by the width of its directive. -/
theorem position_unpackStep (system : Bool) (state : UnpackState) (c : Char) :
    (unpackStep system state c).position = state.position + (directive c).width := by
  rw [unpackStep_eq]
  cases directive c <;> rfl

/-- The output cursor advances by the length of the format. -/
theorem out_packSteps (system : Bool) (format : List Char) (state : PackState) :
    (format.foldl (packStep system) state).out = state.out + packLength format := by
  induction format generalizing state with
  | nil => rfl
  | cons c format ih =>
    rw [List.foldl_cons, ih, out_packStep, packLength_cons, Nat.add_assoc]

/-- The input cursor advances by the length of the format. -/
theorem position_unpackSteps (system : Bool) (format : List Char) (state : UnpackState) :
    (format.foldl (unpackStep system) state).position = state.position + packLength format := by
  induction format generalizing state with
  | nil => rfl
  | cons c format ih =>
    rw [List.foldl_cons, ih, position_unpackStep, packLength_cons, Nat.add_assoc]

/-- A round assigns only to positions between the cursor before and the cursor after it. -/
theorem written_packStep {system : Bool} {state : PackState} {c : Char} {index : Nat}
    (member : index ∈ (packStep system state c).written) :
    index ∈ state.written ∨ state.out ≤ index ∧ index < state.out + (directive c).width := by
  rw [packStep_eq] at member
  cases meaning : directive c with
  | word width =>
    -- A word is the only directive that assigns, one byte after the other.
    simp only [meaning, Directive.put, PackState.forward, PackState.put, List.mem_append,
      List.mem_map, List.mem_range, length_wordBytes] at member
    rcases member with old | ⟨offset, small, rfl⟩
    · exact .inl old
    · exact .inr ⟨Nat.le_add_right _ _, Nat.add_lt_add_left small _⟩
  | skip | order | nothing =>
    rw [meaning] at member
    exact .inl member

/-- Any number of rounds assigns only to positions that the cursor passes. -/
theorem written_packSteps {system : Bool} {format : List Char} {state : PackState} {index : Nat}
    (member : index ∈ (format.foldl (packStep system) state).written) :
    index ∈ state.written ∨ state.out ≤ index ∧ index < state.out + packLength format := by
  induction format generalizing state with
  | nil => exact .inl member
  | cons c format ih =>
    rw [packLength_cons]
    -- The positions of later rounds start at the cursor that this round leaves.
    have moved := out_packStep system state c
    rcases ih member with here | ⟨above, below⟩
    · rcases written_packStep here with old | ⟨above, below⟩
      · exact .inl old
      · exact .inr ⟨above, by omega⟩
    · exact .inr ⟨by omega, by omega⟩

/-- A round reads only positions between the cursor before and the cursor after it. -/
theorem read_unpackStep {system : Bool} {state : UnpackState} {c : Char} {index : Nat}
    (member : index ∈ (unpackStep system state c).read) :
    index ∈ state.read ∨ index < state.position + (directive c).width := by
  rw [unpackStep_eq] at member
  cases meaning : directive c with
  | word width =>
    simp only [meaning, Directive.take, UnpackState.forward, UnpackState.take, List.mem_append,
      List.mem_map, List.mem_range] at member
    rcases member with old | ⟨offset, small, rfl⟩
    · exact .inl old
    · exact .inr (Nat.add_lt_add_left small _)
  | skip | order | nothing =>
    rw [meaning] at member
    exact .inl member

/-- Any number of rounds reads only positions that the cursor passes. -/
theorem read_unpackSteps {system : Bool} {format : List Char} {state : UnpackState} {index : Nat}
    (member : index ∈ (format.foldl (unpackStep system) state).read) :
    index ∈ state.read ∨ index < state.position + packLength format := by
  induction format generalizing state with
  | nil => exact .inl member
  | cons c format ih =>
    rw [packLength_cons]
    -- Later rounds read from the cursor that this round leaves.
    have moved := position_unpackStep system state c
    rcases ih member with here | below
    · rcases read_unpackStep here with old | below
      · exact .inl old
      · exact .inr (by omega)
    · exact .inr (by omega)

/-- Nothing that `unpack` does changes the buffer it reads. -/
theorem data_unpackSteps (system : Bool) (format : List Char) (state : UnpackState) :
    (format.foldl (unpackStep system) state).data = state.data := by
  induction format generalizing state with
  | nil => rfl
  | cons c format ih =>
    rw [List.foldl_cons, ih, unpackStep_eq]
    cases directive c <;> rfl

/-- A round changes the buffer only where it assigns, and it forgets no assignment. -/
theorem data_packStep {system : Bool} {state : PackState} {c : Char} {index : Nat}
    (absent : index ∉ (packStep system state c).written) :
    index ∉ state.written ∧ (packStep system state c).data[index]? = state.data[index]? := by
  rw [packStep_eq] at absent ⊢
  cases meaning : directive c with
  | word width =>
    simp only [meaning, Directive.put, PackState.forward, PackState.put, List.mem_append,
      List.mem_map, List.mem_range, length_wordBytes, not_or, not_exists, not_and] at absent ⊢
    refine ⟨absent.1, storeBytes_outside ?_⟩
    rw [length_wordBytes]
    -- Between the cursor and its new place every position is assigned to.
    have elsewhere := absent.2 (index - state.out)
    omega
  | skip | order | nothing =>
    rw [meaning] at absent
    exact ⟨absent, rfl⟩

/-- Any number of rounds changes the buffer only where they assign. -/
theorem data_packSteps {system : Bool} {format : List Char} {state : PackState} {index : Nat}
    (absent : index ∉ (format.foldl (packStep system) state).written) :
    index ∉ state.written ∧
      (format.foldl (packStep system) state).data[index]? = state.data[index]? := by
  induction format generalizing state with
  | nil => exact ⟨absent, rfl⟩
  | cons c format ih =>
    -- What was assigned to stays recorded, so the position was absent all along.
    obtain ⟨earlier, same⟩ := ih absent
    obtain ⟨before, kept⟩ := data_packStep earlier
    exact ⟨before, same.trans kept⟩

/-- The byte at an index lies under a space of the format. -/
def UnderSpace (format : List Char) (index : Nat) : Prop :=
  ∃ before after, format = before ++ ' ' :: after ∧ packLength before = index

/-- Nothing is ever assigned to a byte under a space. -/
theorem not_written_underSpace {system little : Bool} {format : List Char} {args : List Nat}
    {buffer : Bytes} {index : Nat} (space : UnderSpace format index) :
    index ∉ (format.foldl (packStep system) ⟨little, args, buffer, 0, []⟩).written := by
  -- The cursor stands on the byte when the space comes, and beyond it after the space.
  obtain ⟨before, after, rfl, here⟩ := space
  rw [List.foldl_append, List.foldl_cons]
  have reached := out_packSteps system before ⟨little, args, buffer, 0, []⟩
  simp only [Nat.zero_add] at reached
  intro member
  rcases written_packSteps member with earlier | ⟨above, _⟩
  · -- The round of the space itself assigns nothing.
    rcases written_packSteps earlier with none | ⟨_, below⟩
    · exact List.not_mem_nil none
    · simp only [Nat.zero_add] at below
      omega
  · rw [out_packStep, reached] at above
    simp only [directive, Directive.width] at above
    omega

/-- The size does not cover the format, or there is none. -/
def Refused (format : List Char) (size : Option Nat) : Prop :=
  size = none ∨ ∃ room, size = some room ∧ packLength format > room

/-- A refused call leaves the memory of the caller alone. -/
theorem packCall_refused {system : Bool} {format : List Char} {buffer : Bytes}
    {size : Option Nat} {args : List Nat} (refused : Refused format size) :
    packCall system format buffer size args = ⟨false, buffer, size, 0, []⟩ := by
  rcases refused with rfl | ⟨room, rfl, short⟩
  · rfl
  · simp [packCall, short]

theorem unpackCall_refused {system : Bool} {format : List Char} {buffer : Bytes}
    {size : Option Nat} {outputs : List Nat} (refused : Refused format size) :
    unpackCall system format buffer size outputs = ⟨false, buffer, size, outputs, 0, []⟩ := by
  rcases refused with rfl | ⟨room, rfl, short⟩
  · rfl
  · simp [unpackCall, short]

/-- An accepted call goes through the whole format. -/
theorem packCall_accepted {system : Bool} {format : List Char} {buffer : Bytes} {room : Nat}
    {args : List Nat} (enough : packLength format ≤ room) :
    packCall system format buffer (some room) args =
      ⟨true, (format.foldl (packStep system) ⟨system, args, buffer, 0, []⟩).data,
        some (packLength format), packLength format,
        (format.foldl (packStep system) ⟨system, args, buffer, 0, []⟩).written⟩ := by
  simp [packCall, Nat.not_lt.mpr enough, out_packSteps]

theorem unpackCall_accepted {system : Bool} {format : List Char} {buffer : Bytes} {room : Nat}
    {outputs : List Nat} (enough : packLength format ≤ room) :
    unpackCall system format buffer (some room) outputs =
      ⟨true, buffer, some room,
        unpackLoop system format system buffer 0 ++
          outputs.drop (unpackLoop system format system buffer 0).length,
        packLength format,
        (format.foldl (unpackStep system) ⟨system, buffer, 0, [], []⟩).read⟩ := by
  simp [unpackCall, Nat.not_lt.mpr enough, position_unpackSteps, data_unpackSteps,
    unpackStep_unpackLoop]

/--
Both functions stay inside the buffer they are given, or leave everything as it was.

The size is a natural number, so a length that does not fit into a `size_t` is left out.
-/
theorem pack_stays_inside (system : Bool) (format : List Char) (buffer : Bytes)
    (size : Option Nat) (args outputs : List Nat) :
    let packed := packCall system format buffer size args
    let unpacked := unpackCall system format buffer size outputs
    (∀ state, (format.foldl (packStep system) state).out = state.out + packLength format) ∧
    (∀ state, (format.foldl (unpackStep system) state).position =
      state.position + packLength format) ∧
    (packed.accepted = false ↔ Refused format size) ∧
    (unpacked.accepted = false ↔ Refused format size) ∧
    (Refused format size →
      packed.buffer = buffer ∧ packed.size = size ∧ packed.written = [] ∧
      unpacked.buffer = buffer ∧ unpacked.size = size ∧ unpacked.outputs = outputs ∧
      unpacked.read = []) ∧
    (¬ Refused format size →
      (∃ room, size = some room ∧ packLength format ≤ room) ∧
      (∀ index ∈ packed.written, index < packLength format) ∧
      (∀ index ∈ unpacked.read, index < packLength format) ∧
      packed.size = some (packLength format) ∧
      (∀ index, packLength format ≤ index ∨ UnderSpace format index →
        packed.buffer[index]? = buffer[index]?) ∧
      unpacked.size = size ∧ unpacked.buffer = buffer) := by
  intro packed unpacked
  refine ⟨out_packSteps system format, position_unpackSteps system format, ?_⟩
  by_cases refused : Refused format size
  · -- A refused call does nothing, so all of it can be read off.
    have first : packed = _ := packCall_refused refused
    have second : unpacked = _ := unpackCall_refused refused
    simp [first, second, refused]
  · obtain ⟨room, rfl, enough⟩ : ∃ room, size = some room ∧ packLength format ≤ room := by
      cases size with
      | none => exact absurd (.inl rfl) refused
      | some room =>
        exact ⟨room, rfl, Nat.le_of_not_lt fun short => refused (.inr ⟨room, rfl, short⟩)⟩
    have first : packed = _ := packCall_accepted enough
    have second : unpacked = _ := unpackCall_accepted enough
    have inside : ∀ index ∈ packed.written, index < packLength format := by
      intro index member
      rw [first] at member
      -- The call starts with nothing written.
      rcases written_packSteps member with none | ⟨_, below⟩
      · exact absurd none List.not_mem_nil
      · simpa using below
    have seen : ∀ index ∈ unpacked.read, index < packLength format := by
      intro index member
      rw [second] at member
      rcases read_unpackSteps member with none | below
      · exact absurd none List.not_mem_nil
      · simpa using below
    have kept : ∀ index, packLength format ≤ index ∨ UnderSpace format index →
        packed.buffer[index]? = buffer[index]? := by
      intro index outside
      -- Neither kind of position is ever assigned to.
      rw [first]
      refine (data_packSteps ?_).2
      rcases outside with behind | space
      · intro member
        rw [first] at inside
        exact absurd (inside index member) (Nat.not_lt.mpr behind)
      · exact not_written_underSpace space
    refine ⟨?_, ?_, fun wrong => absurd wrong refused, fun _ => ⟨⟨room, rfl, enough⟩, inside, seen,
      ?_, kept, ?_, ?_⟩⟩
    · simp [first, refused]
    · simp [second, refused]
    · rw [first]
    · rw [second]
    · rw [second]

end Daliserver

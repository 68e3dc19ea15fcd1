import Daliserver.Machine.Pattern
import Mathlib.Algebra.Ring.Nat

/-! The encoder for commands in the Perl client (usbdali.pm). -/

namespace Daliserver

open Machine

/-- A Perl scalar: patterns look at its text, and bitwise operators at its value. -/
structure Scalar where
  text : List Char
  number : Nat
deriving DecidableEq, Repr

/-- A string that is not used as a number. -/
def Scalar.ofString (text : String) : Scalar := ⟨text.toList, 0⟩

/-- An integer that is not used as a string, other than in a message. -/
def Scalar.ofNat (number : Nat) : Scalar := ⟨(toString number).toList, number⟩

/--
The value that a bitwise operator works on.

An unsigned integer of Perl has 64 bits, and whatever does not fit is taken for the largest one.
-/
def uv (number : Nat) : Nat := min number (2 ^ 64 - 1)

/-- The parts of a regular expression. Groups are only there to enclose. -/
def regexPieces : List Char → List (Piece Char)
  | [] => []
  -- The dot stands for any character but a newline.
  | '.' :: '?' :: rest => .optional (· != '\n') :: regexPieces rest
  | '.' :: '*' :: rest => .many (· != '\n') :: regexPieces rest
  | '(' :: rest => regexPieces rest
  | ')' :: rest => regexPieces rest
  | letter :: rest => .one (· == letter) :: regexPieces rest

/-- A regular expression, as far as the client makes use of them. -/
def regex (source : String) : Pattern Char :=
  match source.toList with
  | '^' :: rest => ⟨true, [regexPieces rest]⟩
  | text => ⟨false, (text.splitOn '|').map regexPieces⟩

/-- The entry of the first `when` whose regular expression is found in a text. -/
def given {β : Type} (whens : List (String × β)) (text : List Char) : Option β :=
  firstMatch (whens.map fun entry => (regex entry.1, entry.2)) text

/-- How a command is encoded. -/
inductive CommandCode where
  | fixed (code : Nat)
  -- A base that is combined with the number of a scene or group.
  | indexed (base : Nat)
deriving DecidableEq, Repr

/-- The commands, in the order in which they are tried. -/
def commands : List (String × CommandCode) := [
  ("off", .fixed 0x00),
  ("dim.?up", .fixed 0x01),
  ("dim.?down", .fixed 0x02),
  ("inc", .fixed 0x03),
  ("dec", .fixed 0x04),
  ("set.?max", .fixed 0x05),
  ("set.?min", .fixed 0x06),
  -- This one and the next are duplicates of commands 4 and 3.
  ("down", .fixed 0x07),
  ("^up", .fixed 0x08),
  ("set.?scene", .indexed 0x10),
  ("reset", .fixed 0x20),
  ("store.?dtr", .fixed 0x21),
  ("store.?max", .fixed 0x2a),
  ("store.?min", .fixed 0x2b),
  ("store.?fail", .fixed 0x2c),
  ("store.?power", .fixed 0x2d),
  ("store.*time", .fixed 0x2e),
  ("store.*rate", .fixed 0x2f),
  ("store.?scene", .indexed 0x40),
  ("remove.?scene", .indexed 0x50),
  ("add.?group", .indexed 0x60),
  ("remove.?group", .indexed 0x70),
  ("store.?address", .fixed 0x80),
  ("status", .fixed 0x90),
  ("check.?work", .fixed 0x91),
  ("check.?lamp", .fixed 0x92),
  ("check.?operat", .fixed 0x93),
  ("check.?level", .fixed 0x94),
  ("check.?reset", .fixed 0x95),
  ("check.?address", .fixed 0x96),
  ("version", .fixed 0x97),
  ("dtr", .fixed 0x98),
  ("type", .fixed 0x99),
  ("physical", .fixed 0x9a),
  ("check.?fail", .fixed 0x9b),
  ("level", .fixed 0xa0),
  ("max", .fixed 0xa1),
  ("min", .fixed 0xa2),
  ("power", .fixed 0xa3),
  ("fail", .fixed 0xa4),
  ("(time)|(rate)", .fixed 0xa5),
  ("scene", .indexed 0xb0),
  ("group0", .fixed 0xc0),
  ("group8", .fixed 0xc1),
  ("randomh", .fixed 0xc2),
  ("randomm", .fixed 0xc3),
  ("randoml", .fixed 0xc4),
  ("temperature", .fixed 0xe7)]

/-- The special commands, each with its first byte and whether the second one is an argument. -/
def specials : List (String × Nat × Bool) := [
  ("term", 0xa1, false),
  ("dtr0", 0xa3, true),
  ("init", 0xa5, true),
  ("random", 0xa7, false),
  ("compare", 0xa9, false),
  ("withdraw", 0xab, false),
  ("searchh", 0xb1, true),
  ("searchm", 0xb3, true),
  ("searchl", 0xb5, true),
  ("set", 0xb7, true),
  ("check", 0xb9, true),
  ("address", 0xbb, false),
  ("phys", 0xbd, false),
  ("type", 0xc1, true),
  ("dtr1", 0xc3, true),
  ("dtr2", 0xc5, true)]

/-- The second byte of a command. -/
def commandCode (cmd arg : Scalar) : Nat :=
  match given commands cmd.text with
  | none => 0x00
  | some (.fixed code) => code
  -- The mask is combined with the argument by `|`, as the base is.
  | some (.indexed base) => base ||| (uv arg.number ||| 0xf)

/-- Both bytes of a special command. -/
def specialCode (dest cmd : Scalar) : Nat × Nat :=
  match given specials dest.text with
  | none => (0x00, 0x00)
  | some (code, false) => (code, 0x00)
  | some (code, true) => (code, uv cmd.number &&& 0xff)

/-- `make_cmd`: the two bytes of a command, given the type of its target. -/
def makeCmd (type dest cmd arg : Scalar) : Nat × Nat :=
  if (regex "lamp").test type.text then
    (0x1 ||| ((uv dest.number &&& 0x3f) <<< 1), commandCode cmd arg)
  else if (regex "group").test type.text then
    (0x81 ||| ((uv dest.number &&& 0xf) <<< 1), commandCode cmd arg)
  else if (regex "broadcast").test type.text then
    -- A broadcast has no number, so the other arguments move up.
    (0xff, commandCode dest cmd)
  else if (regex "special").test type.text then specialCode dest cmd
  else (0x00, commandCode cmd arg)

/-- `make_dim`: the address and the level of a lamp, a group, or all of them. -/
def makeDim (type dest value : Scalar) : Nat × Scalar :=
  if (regex "lamp").test type.text then ((uv dest.number &&& 0x3f) <<< 1, value)
  else if (regex "group").test type.text then (0x80 ||| ((uv dest.number &&& 0xf) <<< 1), value)
  else if (regex "broadcast").test type.text then (0xfe, dest)
  else (0, .ofNat 0)

end Daliserver

import Mathlib.Logic.Function.Basic

/-! A pair of connected sockets: what is written to one of them can be read from the other. -/

namespace Machine

/-- The two ends of a pair. -/
inductive Side where
  | first
  | second
deriving DecidableEq, Repr

/-- The end that a given one is connected with. -/
def Side.other : Side → Side
  | .first => .second
  | .second => .first

/-- An end is not connected with itself. -/
@[simp] theorem Side.ne_other (side : Side) : side ≠ side.other := by
  cases side <;> decide

/-- What can be read at each end, oldest first. -/
structure SocketPair (α : Type) where
  waiting : Side → List α

namespace SocketPair

variable {α : Type}

/-- A new pair, on which nothing was written. -/
def fresh : SocketPair α := ⟨fun _ => []⟩

/-- Writes to an end. -/
def write (side : Side) (sent : List α) (pair : SocketPair α) : SocketPair α :=
  ⟨Function.update pair.waiting side.other (pair.waiting side.other ++ sent)⟩

/-- Reads one item from an end, if there is one. Otherwise the call waits. -/
def read (side : Side) (pair : SocketPair α) : Option α × SocketPair α :=
  match pair.waiting side with
  -- Nothing is taken from the other end, even if there is something.
  | [] => (none, pair)
  | item :: rest => (some item, ⟨Function.update pair.waiting side rest⟩)

/-- What is written to an end cannot be read from the same end. -/
@[simp] theorem waiting_write_self (side : Side) (sent : List α) (pair : SocketPair α) :
    (pair.write side sent).waiting side = pair.waiting side :=
  Function.update_of_ne side.ne_other ..

/-- There is nothing to read at an end without anything waiting. -/
theorem read_empty {side : Side} {pair : SocketPair α} (empty : pair.waiting side = []) :
    pair.read side = (none, pair) := by
  simp only [read, empty]

end SocketPair

end Machine

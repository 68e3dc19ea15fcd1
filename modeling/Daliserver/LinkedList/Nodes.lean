import Daliserver.Machine.Chain
import Daliserver.Machine.Run

/-! The doubly linked list behind the request queue and the connections (list.c). -/

namespace Daliserver

open Machine

/-- A list node, where data of `none` is a NULL pointer. -/
abbrev ListNode (α : Type) := Cell Nat (Option α)

/-- A list with the nodes that were allocated for it. -/
structure LinkedList (α : Type) where
  head : Option Nat
  tail : Option Nat
  -- Whether a destructor was passed in.
  free : Bool
  length : Nat
  nodes : Nat → Option (ListNode α)

namespace LinkedList

variable {α : Type}

/-- An empty list. -/
def listNew (free : Bool) : LinkedList α where
  head := none
  tail := none
  free := free
  length := 0
  nodes := fun _ => none

-- The operations return nothing at all if they would touch a node that is not allocated.

/-- Appends an entry in a node that `malloc` returned. -/
def listEnqueue (node : Nat) (data : Option α) (list : LinkedList α) :
    Option (Option Nat × LinkedList α) := do
  let filled := Function.update list.nodes node (some ⟨list.tail, none, data⟩)
  let nodes ← setNext list.tail (some node) filled
  return (some node,
    { list with
      nodes
      tail := some node
      head := if list.head = none then some node else list.head
      length := list.length + 1 })

/-- Removes the entry at the head and returns its data. -/
def listDequeue (list : LinkedList α) : Option (Option α × LinkedList α) :=
  match list.head with
  | none => some (none, list)
  | some temp => do
    let first ← list.nodes temp
    let nodes ← setPrev first.next none list.nodes
    return (first.data,
      { list with
        nodes := Function.update nodes temp none
        head := first.next
        tail := if list.tail = some temp then none else list.tail
        length := list.length - 1 })

/-- The loop of `list_free`, with the data handed to the destructor so far. -/
def freeLoop : Nat → LinkedList α → List α → Option (List α × LinkedList α)
  -- The rounds bound the loop; the source stops on the head alone.
  | 0, list, freed => if list.head = none then some (freed, list) else none
  | rounds + 1, list, freed =>
    match list.head with
    | none => some (freed, list)
    | some _ => do
      let (data, rest) ← listDequeue list
      freeLoop rounds rest (if list.free then freed ++ data.toList else freed)

/-- The number of entries. -/
def listLength (list : LinkedList α) : Nat := list.length

/-- Removes a node and returns its data. -/
def listRemove (node : Option Nat) (list : LinkedList α) : Option (Option α × LinkedList α) :=
  match node with
  | none => some (none, list)
  | some address => do
    let cell ← list.nodes address
    let head := if list.head = some address then cell.next else list.head
    let tail := if list.tail = some address then cell.prev else list.tail
    let nodes ← setPrev cell.next cell.prev list.nodes
    let cell ← nodes address
    let nodes ← setNext cell.prev cell.next nodes
    return (cell.data,
      { list with
        nodes := Function.update nodes address none
        head
        tail
        length := list.length - 1 })

/-- The data of a node. -/
def listData (node : Option Nat) (list : LinkedList α) : Option (Option α) :=
  match node with
  | none => some none
  | some address => (list.nodes address).map (·.data)

/-- The loop of `list_find`, from a node on. -/
def findLoop (func : Option α → Bool) (nodes : Nat → Option (ListNode α)) :
    Nat → Option Nat → Option (Option Nat)
  | _, none => some none
  | 0, some _ => none
  | rounds + 1, some address => do
    let cell ← nodes address
    if func cell.data then return some address else findLoop func nodes rounds cell.next

/-- The first node whose data matches. No more nodes are looked at than there are. -/
def listFind (func : Option α → Bool) (list : LinkedList α) : Option (Option Nat) :=
  findLoop func list.nodes list.length list.head

/-- The first node. -/
def listFirst (list : LinkedList α) : Option Nat := list.head

/-- The node behind another one. -/
def listNext (node : Option Nat) (list : LinkedList α) : Option (Option Nat) :=
  match node with
  | none => some none
  | some address => (list.nodes address).map (·.next)

/-- A call of one of the functions. -/
inductive ListOp (α : Type) where
  -- The node is the one that `malloc` returns.
  | enqueue (node : Nat) (data : Option α)
  | dequeue
  | remove (node : Option Nat)
  | find (func : Option α → Bool)
  | first
  | next (node : Option Nat)

/-- What a call returns. -/
inductive ListResult (α : Type) where
  | node (node : Option Nat)
  | data (data : Option α)
deriving DecidableEq, Repr

/-- Carries out a call. -/
def listStep (list : LinkedList α) : ListOp α → Option (ListResult α × LinkedList α)
  | .enqueue node data => (listEnqueue node data list).map fun (node, list) => (.node node, list)
  | .dequeue => (listDequeue list).map fun (data, list) => (.data data, list)
  | .remove node => (listRemove node list).map fun (data, list) => (.data data, list)
  | .find func => (listFind func list).map fun node => (.node node, list)
  | .first => some (.node (listFirst list), list)
  | .next node => (listNext node list).map fun node => (.node node, list)

/-- Carries out calls in order. -/
def listRun : LinkedList α → List (ListOp α) → Option (List (ListResult α) × LinkedList α)
  | list, [] => some ([], list)
  | list, op :: rest => do
    let (result, list) ← listStep list op
    let (results, list) ← listRun list rest
    return (result :: results, list)

end LinkedList

end Daliserver

import Mathlib.Data.List.Basic

/-! A queue served by one server, first come first served, with nothing lost on the way. -/

namespace Machine

/-- Requests already served, the one being served, and those still waiting, oldest first. -/
structure Fifo (ρ : Type) where
  served : List ρ
  current : Option ρ
  waiting : List ρ

namespace Fifo

variable {ρ : Type}

/-- Every request the queue ever took in, in the order in which it is or will be served. -/
def history (queue : Fifo ρ) : List ρ :=
  queue.served ++ queue.current.toList ++ queue.waiting

/-- The requests on which service has at least begun. -/
def started (queue : Fifo ρ) : List ρ := queue.served ++ queue.current.toList

/-- A new request goes to the back. -/
def join (queue : Fifo ρ) (request : ρ) : Fifo ρ :=
  { queue with waiting := queue.waiting ++ [request] }

/-- An idle server takes the request at the front. -/
def start (queue : Fifo ρ) : Fifo ρ :=
  match queue.current, queue.waiting with
  | none, request :: rest => { queue with current := some request, waiting := rest }
  -- A busy server or an empty queue leaves everything where it is.
  | _, _ => queue

/-- The request being served is done. -/
def finish (queue : Fifo ρ) : Fifo ρ :=
  { queue with served := queue.served ++ queue.current.toList, current := none }

/-- Requests are started in the order in which they came. -/
theorem history_eq_started (queue : Fifo ρ) : queue.history = queue.started ++ queue.waiting := rfl

/-- Finishing a request starts no other. -/
@[simp] theorem started_finish (queue : Fifo ρ) : queue.finish.started = queue.started := by
  simp [started, finish]

/-- Taking in a request adds it to the end of the history. -/
@[simp] theorem history_join (queue : Fifo ρ) (request : ρ) :
    (queue.join request).history = queue.history ++ [request] := by
  simp [history, join]

/-- Starting a request moves it without disturbing the order. -/
@[simp] theorem history_start (queue : Fifo ρ) : queue.start.history = queue.history := by
  -- Only an idle server with a waiting request changes anything at all.
  rcases queue with ⟨served, current, waiting⟩
  cases current with
  | some request => rfl
  | none =>
    cases waiting with
    | nil => rfl
    | cons request rest => simp [history, start]

/-- Finishing a request moves it without disturbing the order. -/
@[simp] theorem history_finish (queue : Fifo ρ) : queue.finish.history = queue.history := by
  simp [history, finish]

end Fifo

end Machine

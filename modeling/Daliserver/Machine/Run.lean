/-! Runs of an event-driven machine, and the rules that carry a property along a whole run. -/

namespace Machine

variable {σ ε τ δ : Type}

/-- The state reached after handling a sequence of events in order. -/
def run (step : σ → ε → σ) (start : σ) (events : List ε) : σ :=
  events.foldl step start

/-- A property that holds in every state of a run, its first and last one included. -/
def Throughout (step : σ → ε → σ) (good : σ → Prop) : σ → List ε → Prop
  | state, [] => good state
  | state, event :: rest => good state ∧ Throughout step good (step state event) rest

/-- A condition that every step of a run meets in the state in which it is taken. -/
def StepsMeet (step : σ → ε → σ) (allowed : σ → ε → Prop) : σ → List ε → Prop
  -- An empty run takes no step, so there is nothing to meet.
  | _, [] => True
  | state, event :: rest => allowed state event ∧ StepsMeet step allowed (step state event) rest

@[simp] theorem run_nil (step : σ → ε → σ) (start : σ) : run step start [] = start := rfl

@[simp] theorem run_cons (step : σ → ε → σ) (start : σ) (event : ε) (rest : List ε) :
    run step start (event :: rest) = run step (step start event) rest := rfl

/-- Handling two sequences one after the other is handling their concatenation. -/
theorem run_append (step : σ → ε → σ) (start : σ) (first second : List ε) :
    run step start (first ++ second) = run step (run step start first) second :=
  List.foldl_append

/-- What a machine answers along a run, where some events get no answer. -/
def outputs {o : Type} (step : σ → ε → σ) (answer : σ → ε → Option o) : σ → List ε → List o
  | _, [] => []
  | state, event :: rest =>
    (answer state event).toList ++ outputs step answer (step state event) rest

/-- Where a sequence that ends in an event is split, it is split at this event or before it. -/
theorem split_concat {events past rest : List ε} {last event : ε}
    (split : events ++ [last] = past ++ event :: rest) :
    (past = events ∧ event = last ∧ rest = []) ∨
      ∃ middle, rest = middle ++ [last] ∧ events = past ++ event :: middle := by
  rcases List.append_eq_append_iff.mp split with ⟨more, rfl, ending⟩ | ⟨between, rfl, ending⟩
  · -- Nothing fits between the events and their last one.
    cases more with
    | nil =>
      simp only [List.nil_append, List.cons.injEq] at ending
      exact .inl ⟨List.append_nil _, ending.1.symm, ending.2.symm⟩
    | cons first more => simp at ending
  · cases between with
    | nil =>
      simp only [List.nil_append, List.cons.injEq] at ending
      exact .inl ⟨(List.append_nil _).symm, ending.1, ending.2⟩
    | cons first middle =>
      simp only [List.cons_append, List.cons.injEq] at ending
      exact .inr ⟨middle, ending.2, by rw [ending.1]⟩

/-- The answers to two sequences one after the other are those to their concatenation. -/
theorem outputs_append {o : Type} (step : σ → ε → σ) (answer : σ → ε → Option o) (start : σ)
    (first second : List ε) :
    outputs step answer start (first ++ second) =
      outputs step answer start first ++ outputs step answer (run step start first) second := by
  -- The second sequence is answered in the state in which the first one ends.
  induction first generalizing start with
  | nil => rfl
  | cons event rest ih => simp [outputs, ih]

/-- What holds at the start and survives every step holds after every run. -/
theorem run_invariant {step : σ → ε → σ} {good : σ → Prop}
    (preserved : ∀ state event, good state → good (step state event))
    {start : σ} (initial : good start) (events : List ε) : good (run step start events) := by
  -- The state is generalized because each step moves the start of the remaining run.
  induction events generalizing start with
  | nil => exact initial
  | cons event rest ih => exact ih (preserved start event initial)

/-- What ties a state to the events that led to it is tied to them after every run. -/
theorem run_history {step : σ → ε → σ} {good : List ε → σ → Prop} {start : σ}
    (initial : good [] start)
    (preserved : ∀ past state event, good past state → good (past ++ [event]) (step state event))
    (events : List ε) : good events (run step start events) := by
  -- The relation is generalized along with the start, since its histories get longer at the front.
  induction events generalizing start good with
  | nil => exact initial
  | cons event rest ih =>
    have next : good [event] (step start event) := preserved [] start event initial
    exact ih next fun past state other tied => preserved (event :: past) state other tied

/-- What the last of the events with a value has set. -/
def latest {α : Type} (value : ε → Option α) (default : α) (events : List ε) : α :=
  (events.filterMap value).getLast?.getD default

/-- An event replaces what was set before if it has a value. -/
@[simp] theorem latest_concat {α : Type} (value : ε → Option α) (default : α) (events : List ε)
    (event : ε) :
    latest value default (events ++ [event]) =
      (value event).getD (latest value default events) := by
  cases present : value event with
  | none => simp [latest, present]
  | some set => simp [latest, present]

/-- Events without a value leave what was set before them. -/
theorem latest_append {α : Type} {value : ε → Option α} {later : List ε}
    (silent : ∀ event ∈ later, value event = none) (default : α) (events : List ε) :
    latest value default (events ++ later) = latest value default events := by
  have nothing : later.filterMap value = [] := List.filterMap_eq_nil_iff.mpr silent
  rw [latest, latest, List.filterMap_append, nothing, List.append_nil]

/-- An invariant kept by the steps that meet a condition holds throughout a run of such steps. -/
theorem throughout_of_stepsMeet {step : σ → ε → σ} {good : σ → Prop} {allowed : σ → ε → Prop}
    (preserved : ∀ state event, good state → allowed state event → good (step state event))
    {start : σ} (initial : good start) {events : List ε}
    (met : StepsMeet step allowed start events) : Throughout step good start events := by
  -- Each step starts from a good state and is allowed there, which is all that preservation asks
  -- for.
  induction events generalizing start with
  | nil => exact initial
  | cons event rest ih => exact ⟨initial, ih (preserved start event initial met.1) met.2⟩

/-- A run of steps that all meet a condition, or one that bears the mark of a step that does not. -/
theorem stepsMeet_or_marked {step : σ → ε → σ} {good marked : σ → Prop} {allowed : σ → ε → Prop}
    (preserved : ∀ state event, good state → allowed state event → good (step state event))
    (marks : ∀ state event, good state → ¬ allowed state event → marked (step state event))
    (lasting : ∀ state event, marked state → marked (step state event))
    {start : σ} (initial : good start) (events : List ε) :
    StepsMeet step allowed start events ∨ marked (run step start events) := by
  -- The first step that does not meet the condition leaves the mark.
  induction events generalizing start with
  | nil => exact .inl trivial
  | cons event rest ih =>
    by_cases met : allowed start event
    · exact (ih (preserved start event initial met)).imp_left fun later => ⟨met, later⟩
    · exact .inr (run_invariant lasting (marks start event initial met) rest)

/-- The first state of a run has whatever holds throughout it. -/
theorem Throughout.first {step : σ → ε → σ} {good : σ → Prop} {start : σ} {events : List ε}
    (always : Throughout step good start events) : good start := by
  -- Even the empty run visits its starting state.
  cases events with
  | nil => exact always
  | cons event rest => exact always.1

/-- The last state of a run inherits whatever holds throughout it. -/
theorem Throughout.last {step : σ → ε → σ} {good : σ → Prop} {start : σ} {events : List ε}
    (always : Throughout step good start events) : good (run step start events) := by
  -- The last state is the starting state of the remaining run, so walk to its end.
  induction events generalizing start with
  | nil => exact always
  | cons event rest ih => exact ih always.2

/-- A condition that no state can violate is met by every run. -/
theorem stepsMeet_of_forall {step : σ → ε → σ} {allowed : σ → ε → Prop} {events : List ε}
    (all : ∀ state, ∀ event ∈ events, allowed state event) (start : σ) :
    StepsMeet step allowed start events := by
  -- A condition free of the state needs no knowledge of where the run has got to.
  induction events generalizing start with
  | nil => trivial
  | cons event rest ih =>
    exact ⟨all start event (by simp),
      ih (fun state other member => all state other (by simp [member])) _⟩

/-- A condition met along a run is met in particular by any one of its steps. -/
theorem StepsMeet.middle {step : σ → ε → σ} {allowed : σ → ε → Prop} {start : σ}
    {past : List ε} {event : ε} {rest : List ε}
    (met : StepsMeet step allowed start (past ++ event :: rest)) :
    allowed (run step start past) event := by
  -- Replaying the past brings the run to the state in which the event was judged.
  induction past generalizing start with
  | nil => exact met.1
  | cons first past ih => exact ih met.2

/--
The steps a property survives decide exactly the runs along which it holds.

The invariant is what every run keeps, so that survival may be judged in its states only.
-/
theorem throughout_iff_stepsMeet {step : σ → ε → σ} {kept good : σ → Prop}
    {allowed : σ → ε → Prop}
    (invariant : ∀ state event, kept state → kept (step state event))
    (exact : ∀ state event, kept state → good state →
      (good (step state event) ↔ allowed state event))
    {start : σ} (initial : kept start) (first : good start) (events : List ε) :
    Throughout step good start events ↔ StepsMeet step allowed start events := by
  induction events generalizing start with
  | nil => exact ⟨fun _ => trivial, fun _ => first⟩
  | cons event rest ih =>
    have survives := exact start event initial first
    have tail := fun next => ih (invariant start event initial) next
    constructor
    · -- The head of the remaining run is the state just after this step.
      rintro ⟨-, later⟩
      exact ⟨survives.mp later.first, (tail later.first).mp later⟩
    · rintro ⟨met, later⟩
      exact ⟨first, (tail (survives.mpr met)).mpr later⟩

/--
A property of histories holds at every point of a run exactly if every step meets a condition.

The condition is enough for the whole history, and it is needed of the last step of one.
-/
theorem prefixes_iff_stepsMeet {step : σ → ε → σ} {allowed : σ → ε → Prop}
    {good : List ε → Prop} {start : σ}
    (enough : ∀ past, StepsMeet step allowed start past → good past)
    (needed : ∀ past event, StepsMeet step allowed start past → good (past ++ [event]) →
      allowed (run step start past) event) (events : List ε) :
    (∀ past, past <+: events → good past) ↔ StepsMeet step allowed start events := by
  -- The histories are generalized along with the start, since they get longer at their front.
  induction events generalizing start good with
  | nil =>
    refine ⟨fun _ => trivial, fun _ past short => ?_⟩
    rw [List.prefix_nil.mp short]
    exact enough [] trivial
  | cons event rest ih =>
    have tail : allowed start event →
        ((∀ past, past <+: rest → good (event :: past)) ↔
          StepsMeet step allowed (step start event) rest) := by
      intro met
      exact ih (fun past later => enough (event :: past) ⟨met, later⟩)
        fun past last later => needed (event :: past) last ⟨met, later⟩
    constructor
    · intro all
      have met := needed [] event trivial (all [event] ⟨rest, rfl⟩)
      refine ⟨met, (tail met).mp fun past short => all (event :: past) ?_⟩
      exact List.cons_prefix_cons.mpr ⟨rfl, short⟩
    · rintro ⟨met, later⟩ past short
      cases past with
      | nil => exact enough [] trivial
      | cons other past =>
        obtain ⟨rfl, shorter⟩ := List.cons_prefix_cons.mp short
        exact (tail met).mpr later past shorter

/-- How many steps of a run are of a kind, each one judged in the state in which it is taken. -/
def stepsCount (step : σ → ε → σ) (kind : σ → ε → Bool) : σ → List ε → Nat
  | _, [] => 0
  | state, event :: rest =>
    (if kind state event then 1 else 0) + stepsCount step kind (step state event) rest

/--
A rank that no step raises, and that the steps of a kind lower, is used up by these.

The invariant is what every run keeps, so that the rank need only fall in its states.
-/
theorem run_rank {step : σ → ε → σ} {kind : σ → ε → Bool} {kept : σ → Prop} {rank : σ → Nat}
    (invariant : ∀ state event, kept state → kept (step state event))
    (falls : ∀ state event, kept state →
      rank (step state event) ≤ rank state - if kind state event then 1 else 0)
    {start : σ} (initial : kept start) (events : List ε) :
    rank (run step start events) ≤ rank start - stepsCount step kind start events := by
  -- Each step pays for itself, and what is left of the run pays from the lower rank.
  induction events generalizing start with
  | nil => exact Nat.le_refl _
  | cons event rest ih =>
    have first := falls start event initial
    have later := ih (invariant start event initial)
    rw [run_cons, stepsCount]
    omega

/-- A machine whose every step is matched by a run of another one is matched along every run. -/
theorem run_simulates {step : σ → ε → σ} {base : τ → δ → τ} {matched : σ → τ → Prop}
    (simulates : ∀ state below event, matched state below →
      ∃ events, matched (step state event) (run base below events))
    {start : σ} {below : τ} (initial : matched start below) (events : List ε) :
    ∃ lower, matched (run step start events) (run base below lower) := by
  -- Each upper step is answered by a stretch of lower steps, and the stretches join end to end.
  induction events generalizing start below with
  | nil => exact ⟨[], initial⟩
  | cons event rest ih =>
    obtain ⟨first, next⟩ := simulates start below event initial
    obtain ⟨second, last⟩ := ih next
    exact ⟨first ++ second, by rwa [run_append]⟩

end Machine

import Mathlib.Data.Finset.Basic
import Mathlib.Data.Finset.Lattice.Lemmas

/-! Resources that are acquired and released, each of them while those that it needs are held. -/

namespace Machine

/-- What is done to a resource. -/
inductive Use (ρ : Type) where
  | acquire (resource : ρ)
  | release (resource : ρ)
deriving DecidableEq, Repr

/-- The resource that is acquired or released. -/
def Use.resource {ρ : Type} : Use ρ → ρ
  | .acquire resource => resource
  | .release resource => resource

/-- What a function did to resources on its way to an outcome. -/
structure Attempt (ρ ε β : Type) where
  uses : List (Use ρ)
  outcome : Except ε β

namespace Attempt

variable {ρ ε β γ : Type}

/-- A failure before anything was done. -/
def fail (error : ε) : Attempt ρ ε β := ⟨[], .error error⟩

/-- A success. -/
def done (uses : List (Use ρ)) (value : β) : Attempt ρ ε β := ⟨uses, .ok value⟩

/-- An attempt that goes on with what another one returned. -/
def andThen (first : Attempt ρ ε β) (next : β → Attempt ρ ε γ) : Attempt ρ ε γ :=
  match first.outcome with
  -- What the first one holds is handed on, and it is up to the second one to undo it.
  | .ok value => ⟨first.uses ++ (next value).uses, (next value).outcome⟩
  | .error error => ⟨first.uses, .error error⟩

/-- An attempt behind some acquisitions, which are undone only if it fails. -/
def within (opening : List (Use ρ)) (body : Attempt ρ ε β) (closing : List (Use ρ)) :
    Attempt ρ ε β :=
  match body.outcome with
  -- The caller gets the acquisitions along with the value.
  | .ok value => ⟨opening ++ body.uses, .ok value⟩
  | .error error => ⟨opening ++ body.uses ++ closing, .error error⟩

@[simp] theorem outcome_fail (error : ε) :
    (fail error : Attempt ρ ε β).outcome = .error error := rfl

@[simp] theorem outcome_done (uses : List (Use ρ)) (value : β) :
    (done uses value : Attempt ρ ε β).outcome = .ok value := rfl

end Attempt

variable {ρ ε β γ : Type} [DecidableEq ρ] {needs : ρ → Finset ρ}

/--
What is held behind one more use of a resource, or nothing if the use is wrong.

A resource is acquired once and with everything that it needs at hand.
It is released while it is held, and not before those that need it.
-/
def useStep (needs : ρ → Finset ρ) (held : Finset ρ) : Use ρ → Option (Finset ρ)
  -- A second acquisition would lose the first one.
  | .acquire resource =>
    if resource ∉ held ∧ needs resource ⊆ held then some (insert resource held) else none
  -- A second release, or one that leaves others in the air, is an error.
  | .release resource =>
    if resource ∈ held ∧ ∀ other ∈ held, resource ∉ needs other then some (held.erase resource)
    else none

/-- What is held behind some uses of resources, or nothing if one of them is wrong. -/
def holding (needs : ρ → Finset ρ) (held : Finset ρ) (uses : List (Use ρ)) : Option (Finset ρ) :=
  uses.foldlM (useStep needs) held

theorem holding_append (held : Finset ρ) (first second : List (Use ρ)) :
    holding needs held (first ++ second) =
      (holding needs held first).bind fun middle => holding needs middle second :=
  List.foldlM_append

/-- Right uses of some resources, with what is held before and behind them. -/
structure Leads (needs : ρ → Finset ρ) (scope held : Finset ρ) (uses : List (Use ρ))
    (final : Finset ρ) : Prop where
  holds : holding needs held uses = some final
  inside : ∀ use ∈ uses, use.resource ∈ scope

instance (scope held : Finset ρ) (uses : List (Use ρ)) (final : Finset ρ) :
    Decidable (Leads needs scope held uses final) :=
  decidable_of_iff (holding needs held uses = some final ∧ ∀ use ∈ uses, use.resource ∈ scope)
    ⟨fun both => ⟨both.1, both.2⟩, fun leads => ⟨leads.holds, leads.inside⟩⟩

/-- One use leaves alone what it has nothing to do with. -/
theorem useStep_frame {held final frame : Finset ρ} {use : Use ρ}
    (outside : use.resource ∉ frame) (unneeded : ∀ other ∈ frame, use.resource ∉ needs other)
    (step : useStep needs held use = some final) :
    useStep needs (held ∪ frame) use = some (final ∪ frame) := by
  -- The resource is not in the frame, and nothing in the frame needs it.
  cases use with
  | acquire resource =>
    simp only [useStep, Option.ite_none_right_eq_some, Option.some.injEq] at step ⊢
    obtain ⟨⟨fresh, provided⟩, rfl⟩ := step
    refine ⟨⟨?_, provided.trans Finset.subset_union_left⟩, (Finset.insert_union ..).symm⟩
    exact fun member => (Finset.mem_union.mp member).elim fresh outside
  | release resource =>
    simp only [useStep, Option.ite_none_right_eq_some, Option.some.injEq] at step ⊢
    obtain ⟨⟨present, free⟩, rfl⟩ := step
    refine ⟨⟨Finset.mem_union_left _ present, fun other member => ?_⟩, ?_⟩
    · exact (Finset.mem_union.mp member).elim (free other) (unneeded other)
    · have same : frame.erase resource = frame := Finset.erase_eq_of_notMem outside
      rw [Finset.erase_union_distrib, same]

/-- Resources that have nothing to do with those of a scope. -/
def Apart (needs : ρ → Finset ρ) (scope frame : Finset ρ) : Prop :=
  ∀ resource ∈ scope, resource ∉ frame ∧ ∀ other ∈ frame, resource ∉ needs other

instance (scope frame : Finset ρ) : Decidable (Apart needs scope frame) :=
  inferInstanceAs (Decidable (∀ resource ∈ scope, _ ∧ ∀ other ∈ frame, _))

omit [DecidableEq ρ] in
/-- What has nothing to do with some resources has nothing to do with fewer of them. -/
theorem Apart.subset {scope frame smaller : Finset ρ} (apart : Apart needs scope frame)
    (smaller_subset : smaller ⊆ frame) : Apart needs scope smaller :=
  fun resource member => ⟨fun other => (apart resource member).1 (smaller_subset other),
    fun other held => (apart resource member).2 other (smaller_subset held)⟩

namespace Leads

variable {scope held middle final : Finset ρ} {uses : List (Use ρ)}

/-- Uses one after the other. -/
theorem trans {more : List (Use ρ)} (begins : Leads needs scope held uses middle)
    (ends : Leads needs scope middle more final) : Leads needs scope held (uses ++ more) final where
  holds := by rw [holding_append, begins.holds, Option.bind_some, ends.holds]
  inside use member := (List.mem_append.mp member).elim (begins.inside use) (ends.inside use)

/-- What is held may be written in another way. -/
theorem congr (leads : Leads needs scope held uses final) {before after : Finset ρ}
    (same : held = before) (ends : final = after) : Leads needs scope before uses after :=
  same ▸ ends ▸ leads

/-- The frame rule: what is outside of the scope is held as before. -/
theorem frame (leads : Leads needs scope held uses final) {frame : Finset ρ}
    (apart : Apart needs scope frame) :
    Leads needs scope (held ∪ frame) uses (final ∪ frame) := by
  -- By induction on the uses, all of which stay inside of the scope.
  obtain ⟨holds, inside⟩ := leads
  refine ⟨?_, inside⟩
  induction uses generalizing held with
  | nil =>
    obtain rfl := Option.some.inj holds
    rfl
  | cons use uses ih =>
    obtain ⟨next, step, later⟩ := Option.bind_eq_some_iff.mp holds
    obtain ⟨outside, unneeded⟩ := apart use.resource (inside use (by simp))
    refine Option.bind_eq_some_iff.mpr ⟨_, useStep_frame outside unneeded step, ?_⟩
    exact ih later fun other member => inside other (by simp [member])

end Leads

/-- What an attempt holds when it succeeds and when it fails. -/
structure Ends (needs : ρ → Finset ρ) (scope held : Finset ρ) (attempt : Attempt ρ ε β)
    (success : β → Finset ρ) (failure : ε → Finset ρ) : Prop where
  ok : ∀ value, attempt.outcome = .ok value →
    Leads needs scope held attempt.uses (success value)
  error : ∀ error, attempt.outcome = .error error →
    Leads needs scope held attempt.uses (failure error)

namespace Ends

variable {scope held middle : Finset ρ} {success : β → Finset ρ} {failure : ε → Finset ρ}

/-- A failure holds what its uses lead to. -/
theorem failed {uses : List (Use ρ)} {error : ε}
    (leads : Leads needs scope held uses (failure error)) :
    Ends needs scope held (⟨uses, .error error⟩ : Attempt ρ ε β) success failure where
  ok value outcome := by cases outcome
  error other outcome := by
    obtain rfl := Except.error.inj outcome
    exact leads

/-- A failure at once leaves everything as it was. -/
theorem fail {error : ε} (unchanged : failure error = held) :
    Ends needs scope held (Attempt.fail error : Attempt ρ ε β) success failure :=
  .failed ⟨congrArg some unchanged.symm, by simp⟩

/-- A success holds what its uses lead to. -/
theorem done {uses : List (Use ρ)} {value : β}
    (leads : Leads needs scope held uses (success value)) :
    Ends needs scope held (Attempt.done uses value : Attempt ρ ε β) success failure where
  ok other outcome := by
    obtain rfl := Except.ok.inj outcome
    exact leads
  error error outcome := by cases outcome

/-- An attempt that goes on where another one has succeeded. -/
theorem andThen {first : Attempt ρ ε γ} {next : γ → Attempt ρ ε β} {between : γ → Finset ρ}
    (begins : Ends needs scope held first between failure)
    (ends : ∀ value, Ends needs scope (between value) (next value) success failure) :
    Ends needs scope held (first.andThen next) success failure := by
  -- The second attempt starts with what the first one holds when it succeeds.
  unfold Attempt.andThen
  cases outcome : first.outcome with
  | error error => exact .failed (begins.error error outcome)
  | ok value =>
    exact ⟨fun result got => (begins.ok value outcome).trans ((ends value).ok result got),
      fun error got => (begins.ok value outcome).trans ((ends value).error error got)⟩

/-- An attempt whose surroundings are undone if it fails. -/
theorem within {opening closing : List (Use ρ)} {body : Attempt ρ ε β} {inner : ε → Finset ρ}
    (opens : Leads needs scope held opening middle)
    (ends : Ends needs scope middle body success inner)
    (closes : ∀ error, body.outcome = .error error →
      Leads needs scope (inner error) closing (failure error)) :
    Ends needs scope held (body.within opening closing) success failure := by
  -- A failure goes on with the closing uses, and a success does not.
  unfold Attempt.within
  cases outcome : body.outcome with
  | error error =>
    exact .failed ((opens.trans (ends.error error outcome)).trans (closes error outcome))
  | ok value => exact .done (opens.trans (ends.ok value outcome))

end Ends

end Machine

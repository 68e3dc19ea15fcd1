import Daliserver.Machine.Run

/-! A counter with one line of tickets, at which clients come and go while their tickets wait. -/

namespace Machine

variable {κ ρ ω : Type}

/--
A counter that serves one ticket after the other.

A ticket says who asked for what, and it stays in the line when its client leaves.
-/
structure Service (κ ρ ω : Type) where
  -- Everyone who ever came, and those who are still there.
  arrived : List κ
  present : List κ
  -- The tickets in the order in which they were taken, and the outcomes of the first of them.
  asked : List (κ × ρ)
  outcomes : List ω
  -- What the clients were told.
  told : List (κ × ρ × ω)

/-- What can happen at the counter. -/
inductive ServiceEvent (κ ρ ω : Type) where
  | arrive (client : κ)
  | leave (client : κ)
  | ask (client : κ) (request : ρ)
  | answer (outcome : ω)

namespace Service

/-- The counter before it opens. -/
def blank : Service κ ρ ω := ⟨[], [], [], [], []⟩

/-- A ticket along with its outcome. -/
def entry (ticket : κ × ρ) (outcome : ω) : κ × ρ × ω := (ticket.1, ticket.2, outcome)

/-- The tickets that have an outcome, along with it. -/
def answered (service : Service κ ρ ω) : List (κ × ρ × ω) :=
  List.zipWith entry service.asked service.outcomes

/-- The tickets that wait for their outcome. -/
def line (service : Service κ ρ ω) : List (κ × ρ) := service.asked.drop service.outcomes.length

variable [DecidableEq κ]

/-- Handles one event. -/
def step (service : Service κ ρ ω) : ServiceEvent κ ρ ω → Service κ ρ ω
  | .arrive client =>
    -- Nobody comes back.
    if client ∈ service.arrived then service
    else { service with
      arrived := service.arrived ++ [client]
      present := service.present ++ [client] }
  | .leave client => { service with present := service.present.filter (· ≠ client) }
  | .ask client request =>
    if client ∈ service.present then
      { service with asked := service.asked ++ [(client, request)] }
    else service
  | .answer outcome =>
    match service.line with
    | [] => service
    | (client, request) :: _ =>
      { service with
        outcomes := service.outcomes ++ [outcome]
        -- A client that has left is not told.
        told := if client ∈ service.present then service.told ++ [(client, request, outcome)]
          else service.told }

/-- The entries that concern a client. -/
def concerning (client : κ) (entries : List (κ × ρ × ω)) : List (κ × ρ × ω) :=
  entries.filter (·.1 = client)

@[simp] theorem concerning_concat (client : κ) (entries : List (κ × ρ × ω)) (entry : κ × ρ × ω) :
    concerning client (entries ++ [entry]) =
      concerning client entries ++ if entry.1 = client then [entry] else [] := by
  by_cases own : entry.1 = client <;> simp [concerning, own]

/-- Everyone is told the outcomes of their own tickets, in the order in which they asked. -/
structure Fair (service : Service κ ρ ω) : Prop where
  known : ∀ client ∈ service.present, client ∈ service.arrived
  tickets : ∀ ticket ∈ service.asked, ticket.1 ∈ service.arrived
  begun : service.outcomes.length ≤ service.asked.length
  -- Clients are told in the order in which the tickets were taken.
  ordered : service.told.Sublist service.answered
  -- A client that left has missed the last of its outcomes at most.
  front : ∀ client, concerning client service.told <+: concerning client service.answered
  -- A client that is still there has missed nothing.
  whole : ∀ client ∈ service.present,
    concerning client service.told = concerning client service.answered

omit [DecidableEq κ] in
/-- Who has an outcome has asked. -/
theorem mem_asked_of_answered {service : Service κ ρ ω} {given : κ × ρ × ω}
    (member : given ∈ service.answered) : (given.1, given.2.1) ∈ service.asked := by
  -- An entry at some place is made of the ticket and the outcome at that place.
  unfold answered at member
  rw [List.mem_iff_getElem?] at member
  obtain ⟨place, found⟩ := member
  rw [List.getElem?_zipWith] at found
  cases ticket : service.asked[place]? with
  | none => simp [ticket] at found
  | some value =>
    cases outcome : service.outcomes[place]? with
    | none => simp [ticket, outcome] at found
    | some value' =>
      simp only [ticket, outcome, Option.some.injEq] at found
      subst found
      exact List.mem_of_getElem? ticket

/-- The tickets of a client that have an outcome are the first of those it took. -/
theorem concerning_answered_prefix (client : κ) (service : Service κ ρ ω) :
    (concerning client service.answered).map (·.2.1) <+:
      (service.asked.filter (·.1 = client)).map Prod.snd := by
  -- The entries are made of the first tickets, in order.
  have tickets : service.answered.map (fun entry => (entry.1, entry.2.1)) <+: service.asked := by
    rw [answered, List.map_zipWith]
    generalize service.asked = asked, service.outcomes = outcomes
    induction asked generalizing outcomes with
    | nil => exact List.nil_prefix
    | cons ticket rest ih =>
      cases outcomes with
      | nil => exact List.nil_prefix
      | cons outcome outcomes => exact List.cons_prefix_cons.mpr ⟨rfl, ih outcomes⟩
  have own := (tickets.filter (·.1 = client)).map Prod.snd
  rw [List.filter_map, List.map_map] at own
  exact own

omit [DecidableEq κ] in
/-- Tickets beyond those with an outcome do not matter for what is answered. -/
theorem zipWith_entry {front rest : List (κ × ρ)} {outcomes : List ω}
    (even : front.length = outcomes.length) :
    List.zipWith entry (front ++ rest) outcomes = List.zipWith entry front outcomes := by
  -- There is no outcome for the tickets at the end.
  have apart : List.zipWith entry (front ++ rest) (outcomes ++ []) =
      List.zipWith entry front outcomes ++ List.zipWith entry rest [] := List.zipWith_append even
  rwa [List.append_nil, List.zipWith_nil_right, List.append_nil] at apart

omit [DecidableEq κ] in
/-- The tickets are those that have an outcome, and those that wait. -/
theorem split_asked {service : Service κ ρ ω}
    (begun : service.outcomes.length ≤ service.asked.length) :
    ∃ front, service.asked = front ++ service.line ∧ front.length = service.outcomes.length :=
  ⟨service.asked.take service.outcomes.length, (List.take_append_drop ..).symm,
    List.length_take_of_le begun⟩

omit [DecidableEq κ] in
/-- A ticket that is taken has no outcome yet. -/
theorem answered_ask {service : Service κ ρ ω}
    (begun : service.outcomes.length ≤ service.asked.length) (ticket : κ × ρ) :
    ({ service with asked := service.asked ++ [ticket] } : Service κ ρ ω).answered =
      service.answered := by
  -- The new ticket stands behind all those that have an outcome.
  obtain ⟨front, split, even⟩ := split_asked begun
  simp only [answered, split, List.append_assoc]
  rw [zipWith_entry even, zipWith_entry even]

omit [DecidableEq κ] in
/-- An outcome belongs to the first ticket that waits. -/
theorem answered_answer {service : Service κ ρ ω}
    (begun : service.outcomes.length ≤ service.asked.length) {ticket : κ × ρ}
    {rest : List (κ × ρ)} (head : service.line = ticket :: rest) (outcome : ω) :
    List.zipWith entry service.asked (service.outcomes ++ [outcome]) =
      service.answered ++ [entry ticket outcome] := by
  -- The outcomes are those of the front, and the first ticket behind it gets the new one.
  obtain ⟨front, split, even⟩ := split_asked begun
  simp only [answered, split, head]
  rw [List.zipWith_append even, zipWith_entry even]
  simp

/-- Before anyone came, nobody has been wronged. -/
theorem fair_blank : Fair (blank : Service κ ρ ω) := by
  refine ⟨by simp [blank], by simp [blank], Nat.le_refl _, List.Sublist.refl _, ?_, by simp [blank]⟩
  exact fun client => List.prefix_refl _

/-- Who never came has nothing to be told. -/
theorem Fair.stranger {service : Service κ ρ ω} (fair : service.Fair) {client : κ}
    (stranger : client ∉ service.arrived) :
    concerning client service.told = [] ∧ concerning client service.answered = [] := by
  have nothing : concerning client service.answered = [] := by
    rw [concerning, List.filter_eq_nil_iff]
    intro given member own
    have ticket := fair.tickets _ (mem_asked_of_answered member)
    exact stranger (of_decide_eq_true own ▸ ticket)
  have front := fair.front client
  rw [nothing, List.prefix_nil] at front
  exact ⟨front, nothing⟩

/-- Whatever happens at the counter, nobody is wronged. -/
theorem Fair.step {service : Service κ ρ ω} (fair : service.Fair) (event : ServiceEvent κ ρ ω) :
    (service.step event).Fair := by
  cases event with
  | arrive client =>
    simp only [Service.step]
    split
    · exact fair
    · -- Neither side has anything for a client that has just come.
      rename_i stranger
      obtain ⟨untold, unanswered⟩ := fair.stranger stranger
      refine ⟨?_, ?_, fair.begun, fair.ordered, fair.front, ?_⟩
      · intro other member
        rcases List.mem_append.mp member with old | new
        · exact List.mem_append_left _ (fair.known other old)
        · exact List.mem_append_right _ new
      · exact fun ticket member => List.mem_append_left _ (fair.tickets ticket member)
      · intro other member
        rcases List.mem_append.mp member with old | new
        · exact fair.whole other old
        · obtain rfl := List.mem_singleton.mp new
          exact untold.trans unanswered.symm
  | leave client =>
    refine ⟨?_, fair.tickets, fair.begun, fair.ordered, fair.front, ?_⟩
    · exact fun other member => fair.known other (List.mem_filter.mp member).1
    · exact fun other member => fair.whole other (List.mem_filter.mp member).1
  | ask client request =>
    simp only [Service.step]
    split
    · rename_i there
      have same := answered_ask fair.begun (client, request)
      refine ⟨fair.known, ?_, ?_, ?_, ?_, ?_⟩
      · intro ticket member
        rcases List.mem_append.mp member with old | new
        · exact fair.tickets ticket old
        · obtain rfl := List.mem_singleton.mp new
          exact fair.known client there
      · rw [List.length_append]
        exact Nat.le_add_right_of_le fair.begun
      · rw [same]
        exact fair.ordered
      · rw [same]
        exact fair.front
      · rw [same]
        exact fair.whole
    · exact fair
  | answer outcome =>
    simp only [Service.step]
    split
    · exact fair
    · rename_i client request rest head
      have grown := answered_answer fair.begun head outcome
      have room : service.outcomes.length < service.asked.length := by
        have some := congrArg List.length head
        simp only [line, List.length_drop, List.length_cons] at some
        omega
      -- The client of the ticket is told if it is there, and all others are not concerned.
      have entry_eq : entry (client, request) outcome = (client, request, outcome) := rfl
      by_cases there : client ∈ service.present
      · simp only [there, if_true]
        refine ⟨fair.known, fair.tickets, ?_, ?_, ?_, ?_⟩
        · rw [List.length_append]
          exact room
        · rw [answered, grown]
          exact fair.ordered.append (List.Sublist.refl _)
        · intro other
          rw [answered, grown, entry_eq, concerning_concat, concerning_concat]
          by_cases own : client = other
          · simp only [fair.whole other (own ▸ there), List.prefix_refl]
          · rw [if_neg own, List.append_nil, List.append_nil]
            exact fair.front other
        · intro other member
          rw [answered, grown, entry_eq, concerning_concat, concerning_concat,
            fair.whole other member]
      · simp only [there, if_false]
        refine ⟨fair.known, fair.tickets, ?_, ?_, ?_, ?_⟩
        · rw [List.length_append]
          exact room
        · rw [answered, grown]
          exact fair.ordered.trans (List.sublist_append_left _ _)
        · intro other
          rw [answered, grown, concerning_concat]
          exact (fair.front other).trans (List.prefix_append _ _)
        · intro other member
          have apart : client ≠ other := fun same => there (same ▸ member)
          rw [answered, grown, entry_eq, concerning_concat, if_neg apart, List.append_nil,
            fair.whole other member]

/-- The counter is fair along every run. -/
theorem fair_run (events : List (ServiceEvent κ ρ ω)) : (run step blank events).Fair := by
  refine run_invariant (fun service event fair => ?_) fair_blank events
  exact Fair.step fair event

end Service

end Machine

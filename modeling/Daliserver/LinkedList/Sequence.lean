import Daliserver.LinkedList.Nodes

/-! The linked list is a sequence of nodes with their data, whatever is done with it. -/

namespace Daliserver

namespace LinkedList

open Machine

variable {α : Type}

/-- A sequence of data, each with the node that was handed out for it. -/
abbrev Entries (α : Type) := List (Nat × Option α)

/-- What a call returns on a sequence. -/
def sequenceResult (entries : Entries α) : ListOp α → ListResult α
  | .enqueue node _ => .node (some node)
  | .dequeue => .data (entries.head?.bind (·.2))
  | .remove none => .data none
  | .remove (some node) => .data ((entries.find? (·.1 = node)).bind (·.2))
  -- The first match in the order of the sequence, whatever the test is.
  | .find func => .node ((entries.find? fun entry => func entry.2).map (·.1))
  | .first => .node (entries.head?.map (·.1))
  | .next none => .node none
  | .next (some node) => .node ((entries.dropWhile (·.1 ≠ node)).tail.head?.map (·.1))

/-- What a call does to a sequence. -/
def sequenceStep (entries : Entries α) : ListOp α → Entries α
  | .enqueue node data => entries ++ [(node, data)]
  | .dequeue => entries.tail
  | .remove none => entries
  | .remove (some node) => entries.eraseP (·.1 = node)
  -- Looking at the list does not change it.
  | .find _ => entries
  | .first => entries
  | .next _ => entries

/-- What some calls return, one after the other. -/
def sequenceResults : Entries α → List (ListOp α) → List (ListResult α)
  | _, [] => []
  | entries, op :: rest =>
    sequenceResult entries op :: sequenceResults (sequenceStep entries op) rest

/-- A new node is not in use, and a node that is passed in is in the list or NULL. -/
def Allowed (entries : Entries α) : ListOp α → Prop
  | .enqueue node _ => node ∉ entries.map Prod.fst
  | .remove (some node) => node ∈ entries.map Prod.fst
  | .next (some node) => node ∈ entries.map Prod.fst
  | _ => True

/-- The list holds a sequence in its nodes, and uses no others. -/
structure Represents (list : LinkedList α) (entries : Entries α) : Prop where
  -- Both ends are NULL exactly if there are no entries.
  head : list.head = front entries none
  tail : list.tail = back none entries
  length : list.length = entries.length
  distinct : (entries.map Prod.fst).Nodup
  linked : Segment list.nodes none entries none
  unused : ∀ address ∉ entries.map Prod.fst, list.nodes address = none

theorem represents_listNew (free : Bool) : Represents (listNew free : LinkedList α) [] where
  head := rfl
  tail := rfl
  length := rfl
  distinct := List.nodup_nil
  linked := trivial
  unused := fun _ _ => rfl

/-- Enqueueing appends to the sequence. -/
theorem represents_listEnqueue {list : LinkedList α} {entries : Entries α}
    (represents : Represents list entries) {node : Nat} (fresh : node ∉ entries.map Prod.fst)
    (data : Option α) :
    ∃ after, listEnqueue node data list = some (some node, after) ∧
      Represents after (entries ++ [(node, data)]) ∧ after.free = list.free := by
  -- The new node is written first, and then the old tail is linked to it.
  obtain ⟨nodes, written, linked, same⟩ :=
    (represents.linked.update fresh (some ⟨list.tail, none, data⟩)).setNext_back
      represents.distinct (some node)
  rw [← represents.tail] at written
  have called : listEnqueue node data list = some (some node,
      { list with
        nodes
        tail := some node
        head := if list.head = none then some node else list.head
        length := list.length + 1 }) := by
    rw [listEnqueue, written]
    rfl
  refine ⟨_, called, ⟨?_, ?_, ?_, ?_, ?_, ?_⟩, rfl⟩
  · -- The head changes only if there was none.
    cases entries with
    | nil => simp [represents.head, front]
    | cons first rest => simp [represents.head, front]
  · rw [back_append]
    rfl
  · simp [represents.length]
  · simpa [List.nodup_append'] using ⟨represents.distinct, by simpa using fresh⟩
  · rw [segment_append]
    refine ⟨linked, ?_, trivial⟩
    show nodes node = _
    rw [same node fresh, Function.update_self, represents.tail]
    rfl
  · intro address absent
    rw [List.map_append, List.mem_append, not_or] at absent
    show nodes address = none
    rw [same address absent.1, Function.update_of_ne (by simpa using absent.2)]
    exact represents.unused address absent.1

/-- Dequeueing removes the first entry. -/
theorem represents_listDequeue {list : LinkedList α} {entries : Entries α}
    (represents : Represents list entries) :
    ∃ after, listDequeue list = some (entries.head?.bind (·.2), after) ∧
      Represents after entries.tail ∧ after.free = list.free := by
  -- An empty list is left alone, and otherwise the second node becomes the head.
  cases entries with
  | nil =>
    have none : list.head = none := represents.head
    exact ⟨list, by rw [listDequeue, none]; rfl, represents, rfl⟩
  | cons first rest =>
    have head : list.head = some first.1 := represents.head
    obtain ⟨cell, chain⟩ := represents.linked
    have distinct := represents.distinct
    rw [List.map_cons, List.nodup_cons] at distinct
    obtain ⟨nodes, written, linked, same⟩ := chain.setPrev_front distinct.2 none
    have called : listDequeue list = some (first.2,
        { list with
          nodes := Function.update nodes first.1 none
          head := front rest none
          tail := if list.tail = some first.1 then none else list.tail
          length := list.length - 1 }) := by
      simp [listDequeue, head, cell, written]
    refine ⟨_, called, ⟨rfl, ?_, ?_, distinct.2, linked.update distinct.1 _, ?_⟩, rfl⟩
    · -- The tail is lost along with the only entry, and is another entry otherwise.
      have only : list.tail = some first.1 ↔ rest = [] := by
        rw [represents.tail, ← List.nil_append (first :: rest)]
        exact back_eq_iff distinct.1
      cases rest with
      | nil => simp [only, back]
      | cons second further =>
        have other : list.tail ≠ some first.1 := by simp [only]
        rw [if_neg other, represents.tail]
        rfl
    · simp [represents.length]
    · intro address absent
      show Function.update nodes first.1 none address = none
      by_cases freed : address = first.1
      · rw [freed, Function.update_self]
      · rw [Function.update_of_ne freed, same address absent]
        exact represents.unused address (by simpa [freed] using absent)

/-- Removing a node takes its entry out of the sequence. -/
theorem represents_listRemove {list : LinkedList α} {before after : Entries α} {node : Nat}
    {data : Option α} (represents : Represents list (before ++ (node, data) :: after)) :
    ∃ removed, listRemove (some node) list = some (data, removed) ∧
      Represents removed (before ++ after) ∧ removed.free = list.free := by
  -- The sequence is taken apart at the node, and no part contains its address.
  obtain ⟨ahead, cell, behind⟩ := segment_append.mp represents.linked
  have distinct := represents.distinct
  rw [List.map_append, List.map_cons, List.nodup_middle, List.nodup_cons, List.mem_append,
    not_or] at distinct
  obtain ⟨⟨unlikeBefore, unlikeAfter⟩, apart⟩ := distinct
  obtain ⟨distinctBefore, distinctAfter, disjoint⟩ := List.nodup_append'.mp apart
  -- First the entry behind is linked to the one ahead, and then the other way round.
  obtain ⟨first, writtenFirst, linkedAfter, sameFirst⟩ :=
    behind.setPrev_front distinctAfter (back none before)
  have kept := ahead.congr fun address member => sameFirst address (disjoint member)
  obtain ⟨second, writtenSecond, linkedBefore, sameSecond⟩ :=
    kept.setNext_back distinctBefore (front after none)
  have still : first node = some ⟨back none before, front after none, data⟩ :=
    (sameFirst node unlikeAfter).trans cell
  have called : listRemove (some node) list = some (data,
      { list with
        nodes := Function.update second node none
        head := if list.head = some node then front after none else list.head
        tail := if list.tail = some node then back none before else list.tail
        length := list.length - 1 }) := by
    simp [listRemove, cell, writtenFirst, still, writtenSecond]
  refine ⟨_, called, ⟨?_, ?_, ?_, by rwa [List.map_append], ?_, ?_⟩, rfl⟩
  · have atFront : list.head = some node ↔ before = [] := by
      rw [represents.head]
      exact front_eq_iff unlikeBefore
    -- The head moves on if the node was the first one.
    cases before with
    | nil => simp [atFront]
    | cons entry rest =>
      have other : list.head ≠ some node := by simp [atFront]
      rw [if_neg other, represents.head]
      rfl
  · have atBack : list.tail = some node ↔ after = [] := by
      rw [represents.tail]
      exact back_eq_iff unlikeAfter
    -- The tail moves back if the node was the last one.
    cases after with
    | nil => simp [atBack]
    | cons entry rest =>
      have other : list.tail ≠ some node := by simp [atBack]
      rw [if_neg other, represents.tail, back_append, back_append]
      rfl
  · simp [represents.length]
  · rw [segment_append]
    refine ⟨linkedBefore.update unlikeBefore _, ?_⟩
    refine (linkedAfter.congr fun address member => ?_).update unlikeAfter _
    exact sameSecond address fun other => disjoint other member
  · intro address absent
    rw [List.map_append, List.mem_append, not_or] at absent
    show Function.update second node none address = none
    by_cases freed : address = node
    · rw [freed, Function.update_self]
    · rw [Function.update_of_ne freed, sameSecond address absent.1, sameFirst address absent.2]
      apply represents.unused
      simpa [freed] using absent

/-- Searching looks at the entries in order. -/
theorem findLoop_eq {func : Option α → Bool} {nodes : Memory Nat (Option α)} {ahead : Option Nat}
    {entries : Entries α} (linked : Segment nodes ahead entries none) {rounds : Nat}
    (enough : entries.length ≤ rounds) :
    findLoop func nodes rounds (front entries none) =
      some ((entries.find? fun entry => func entry.2).map (·.1)) := by
  -- Each round looks at the entry at the front and goes on to the next one.
  induction entries generalizing ahead rounds with
  | nil => simp [front, findLoop]
  | cons entry rest ih =>
    cases rounds with
    | zero => exact absurd enough (by simp)
    | succ rounds =>
      have further := ih linked.2 (Nat.le_of_succ_le_succ enough)
      rw [front, findLoop, linked.1]
      cases found : func entry.2 with
      | true => simp [found]
      | false => simp [found, further]

/-- A node of the list has its entry somewhere in the sequence, and nowhere before that. -/
theorem Represents.split {list : LinkedList α} {entries : Entries α}
    (represents : Represents list entries) {node : Nat} (member : node ∈ entries.map Prod.fst) :
    ∃ before data after, entries = before ++ (node, data) :: after ∧
      ∀ entry ∈ before, entry.1 ≠ node := by
  -- No two entries have the same node.
  obtain ⟨⟨_, data⟩, found, rfl⟩ := List.mem_map.mp member
  obtain ⟨before, after, rfl⟩ := List.append_of_mem found
  have distinct := represents.distinct
  rw [List.map_append, List.map_cons, List.nodup_middle, List.nodup_cons, List.mem_append,
    not_or] at distinct
  exact ⟨before, data, after, rfl, fun entry earlier same =>
    distinct.1.1 (List.mem_map.mpr ⟨entry, earlier, same⟩)⟩

/-- Every call does to the list what it does to the sequence, and touches only its nodes. -/
theorem represents_listStep {list : LinkedList α} {entries : Entries α} {op : ListOp α}
    (represents : Represents list entries) (allowed : Allowed entries op) :
    ∃ after, listStep list op = some (sequenceResult entries op, after) ∧
      Represents after (sequenceStep entries op) ∧ after.free = list.free := by
  -- One case for each function, where those that search leave the list as it is.
  cases op with
  | enqueue node data =>
    obtain ⟨after, called, held⟩ := represents_listEnqueue represents allowed data
    exact ⟨after, by simp [listStep, called, sequenceResult], held⟩
  | dequeue =>
    obtain ⟨after, called, held⟩ := represents_listDequeue represents
    exact ⟨after, by simp [listStep, called, sequenceResult], held⟩
  | remove node =>
    cases node with
    | none => exact ⟨list, rfl, represents, rfl⟩
    | some node =>
      obtain ⟨before, data, after, rfl, apart⟩ := represents.split allowed
      obtain ⟨removed, called, held⟩ := represents_listRemove represents
      -- The first entry with this node is the one that the split has found.
      have erased : (before ++ (node, data) :: after).eraseP (·.1 = node) = before ++ after := by
        rw [List.eraseP_append_right _ (by simpa using apart), List.eraseP_cons_of_pos (by simp)]
      have found : (before ++ (node, data) :: after).find? (·.1 = node) = some (node, data) := by
        rw [List.find?_append, List.find?_eq_none.mpr (by simpa using apart)]
        simp
      refine ⟨removed, by simp [listStep, called, sequenceResult, found], ?_⟩
      rwa [sequenceStep, erased]
  | find func =>
    refine ⟨list, ?_, represents, rfl⟩
    rw [listStep, listFind, represents.head, represents.length,
      findLoop_eq represents.linked (Nat.le_refl _)]
    rfl
  | first =>
    refine ⟨list, ?_, represents, rfl⟩
    cases entries <;> simp [listStep, listFirst, represents.head, sequenceResult, front]
  | next node =>
    refine ⟨list, ?_, represents, rfl⟩
    cases node with
    | none => rfl
    | some node =>
      obtain ⟨before, data, after, rfl, apart⟩ := represents.split allowed
      have cell := (segment_append.mp represents.linked).2.1
      have dropped : (before ++ (node, data) :: after).dropWhile (·.1 ≠ node) =
          (node, data) :: after := by
        rw [List.dropWhile_append_of_pos (by simpa using apart)]
        simp
      simp only [listStep, listNext, cell, sequenceResult, dropped]
      cases after <;> rfl

/-- Any number of calls do to the list what they do to the sequence. -/
theorem represents_listRun {list : LinkedList α} {entries : Entries α} {ops : List (ListOp α)}
    (represents : Represents list entries) (allowed : StepsMeet sequenceStep Allowed entries ops) :
    ∃ after, listRun list ops = some (sequenceResults entries ops, after) ∧
      Represents after (run sequenceStep entries ops) ∧ after.free = list.free := by
  -- Each call finds the list in the state in which the one before has left it.
  induction ops generalizing list entries with
  | nil => exact ⟨list, rfl, represents, rfl⟩
  | cons op rest ih =>
    obtain ⟨next, called, held, same⟩ := represents_listStep represents allowed.1
    obtain ⟨last, further, kept, still⟩ := ih held allowed.2
    exact ⟨last, by simp [listRun, called, further, sequenceResults], kept, still.trans same⟩

/-- Freeing a list hands its data to the destructor and frees all nodes. -/
theorem freeLoop_eq {list : LinkedList α} {entries : Entries α}
    (represents : Represents list entries) {rounds : Nat} (enough : entries.length ≤ rounds)
    (freed : List α) :
    ∃ left, freeLoop rounds list freed =
        some (if list.free then freed ++ entries.filterMap (·.2) else freed, left) ∧
      Represents left [] := by
  -- The loop dequeues as long as there is a head, and passes on what is not NULL.
  induction entries generalizing list rounds freed with
  | nil =>
    have none : list.head = none := represents.head
    exact ⟨list, by cases rounds <;> simp [freeLoop, none], represents⟩
  | cons entry rest ih =>
    cases rounds with
    | zero => exact absurd enough (by simp)
    | succ rounds =>
      have head : list.head = some entry.1 := represents.head
      obtain ⟨after, called, held, same⟩ := represents_listDequeue represents
      obtain ⟨left, further, empty⟩ := ih held (Nat.le_of_succ_le_succ enough)
        (if list.free then freed ++ entry.2.toList else freed)
      refine ⟨left, ?_, empty⟩
      rw [freeLoop, head]
      simp only [called, Option.bind_eq_bind, Option.bind_some, List.head?_cons]
      rw [further, same]
      cases list.free <;> cases data : entry.2 <;> simp [data]

/-- The call removes a node from the sequence. -/
def Removes (node : Nat) (entries : Entries α) : ListOp α → Prop
  | .dequeue => front entries none = some node
  | .remove other => other = some node
  | _ => False

/-- An entry stays in the sequence until it is removed. -/
theorem mem_sequenceStep {entries : Entries α} {op : ListOp α} {entry : Nat × Option α}
    (member : entry ∈ entries) (kept : ¬ Removes entry.1 entries op) :
    entry ∈ sequenceStep entries op := by
  -- Only two of the calls remove anything, and each removes the entry it names.
  cases op with
  | enqueue node data => exact List.mem_append_left _ member
  | dequeue =>
    cases entries with
    | nil => exact member
    | cons first rest =>
      rcases List.mem_cons.mp member with rfl | later
      · exact absurd rfl kept
      · exact later
  | remove node =>
    cases node with
    | none => exact member
    | some node =>
      have other : ¬ entry.1 = node := fun same => kept (by rw [same]; rfl)
      exact (List.mem_eraseP_of_neg (by simpa using other)).mpr member
  | find func => exact member
  | first => exact member
  | next node => exact member

/-- An entry stays in the sequence as long as no call removes it. -/
theorem mem_run_sequenceStep {entries : Entries α} {ops : List (ListOp α)}
    {entry : Nat × Option α} (member : entry ∈ entries)
    (kept : StepsMeet sequenceStep (fun entries op => ¬ Removes entry.1 entries op) entries ops) :
    entry ∈ run sequenceStep entries ops := by
  induction ops generalizing entries with
  | nil => exact member
  | cons op rest ih => exact ih (mem_sequenceStep member kept.1) kept.2

/--
Whatever is done with a list, it is a sequence of nodes with their data.

Calls pass in NULL or nodes that are in the list, and `malloc` returns nodes that are not in use.
-/
theorem list_refines_sequence (free : Bool) (ops : List (ListOp α))
    (allowed : StepsMeet sequenceStep Allowed [] ops) :
    ∃ list, listRun (listNew free) ops = some (sequenceResults [] ops, list) ∧
      let entries := run sequenceStep [] ops
      (∀ rounds ≥ entries.length,
        follow Cell.next list.nodes rounds list.head = some (entries.map Prod.fst) ∧
        follow Cell.prev list.nodes rounds list.tail = some (entries.map Prod.fst).reverse) ∧
      (list.head = none ↔ entries = []) ∧ (list.tail = none ↔ entries = []) ∧
      listLength list = entries.length ∧
      (∀ func, ∀ rounds ≥ entries.length, findLoop func list.nodes rounds list.head =
        some ((entries.find? fun entry => func entry.2).map (·.1))) ∧
      (∀ past later, ops = past ++ later → ∀ entry ∈ run sequenceStep [] past,
        StepsMeet sequenceStep (fun entries op => ¬ Removes entry.1 entries op)
          (run sequenceStep [] past) later →
        entry ∈ entries ∧ listData (some entry.1) list = some entry.2) ∧
      ∀ rounds ≥ entries.length, ∃ left, freeLoop rounds list [] =
          some (if free then entries.filterMap (·.2) else [], left) ∧
        ∀ node, left.nodes node = none := by
  obtain ⟨list, called, represents, same⟩ := represents_listRun (represents_listNew free) allowed
  -- The rest is what it means to represent a sequence.
  refine ⟨list, called, fun rounds enough => ?_, ?_, ?_, represents.length, ?_, ?_, ?_⟩
  · rw [represents.head, represents.tail]
    exact ⟨represents.linked.follow_next enough, represents.linked.follow_prev enough⟩
  · rw [represents.head]
    exact front_none_iff
  · rw [represents.tail]
    exact back_none_iff
  · intro func rounds enough
    rw [represents.head]
    exact findLoop_eq represents.linked enough
  · rintro past later rfl entry member kept
    -- A node that was not removed is where it was, with the same data.
    have still := mem_run_sequenceStep member kept
    rw [← run_append] at still
    obtain ⟨cell, found, data⟩ := represents.linked.found still
    exact ⟨still, by simp [listData, found, data]⟩
  · intro rounds enough
    obtain ⟨left, freed, empty⟩ := freeLoop_eq represents enough []
    refine ⟨left, ?_, fun node => empty.unused node (by simp)⟩
    rw [freed, same]
    rfl

/-- A node is removed from the middle, and another one is used again after it was freed. -/
theorem list_refines_sequence_reused :
    ∃ list, listRun (listNew true) [.enqueue 1 (some 10), .enqueue 2 none, .enqueue 3 (some 30),
        .remove (some 2), .dequeue, .enqueue 1 (some 50), .next (some 3)] =
        some ([.node (some 1), .node (some 2), .node (some 3), .data none, .data (some 10),
          .node (some 1), .node (some 1)], list) ∧
      ∃ left, freeLoop 2 list [] = some ([30, 50], left) := by
  obtain ⟨list, called, -, -, -, -, -, -, freed⟩ := list_refines_sequence true
    [.enqueue 1 (some 10), .enqueue 2 none, .enqueue 3 (some 30), .remove (some 2), .dequeue,
      .enqueue 1 (some 50), .next (some 3)]
    (by simp [StepsMeet, Allowed, sequenceStep])
  obtain ⟨left, loop, -⟩ := freed 2 (by decide)
  exact ⟨list, called, left, loop⟩

end LinkedList

end Daliserver

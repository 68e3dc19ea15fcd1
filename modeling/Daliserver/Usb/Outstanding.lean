import Daliserver.Usb.Transfers

/-! Which transfer is outstanding, who asked it to stop, and what a failed submission leaves. -/

namespace Daliserver

open Machine

variable {α : Type}

/-- libusb holds a transfer, so that a later callback will ask what to do next. -/
def Held (dali : UsbDali α) : Prop := dali.context.inflight ≠ []

/-- A coherent device has a transfer on record. -/
theorem Coherent.occupied {dali : UsbDali α} (coherent : Coherent dali) :
    dali.recvTransfer ≠ none ∨ dali.sendTransfer ≠ none := by
  rcases coherent.slots with ⟨listening, _⟩ | ⟨_, busy, _⟩
  · exact .inl listening
  · exact .inr busy

/-- Queueing a request submits nothing, since something is outstanding already. -/
theorem Coherent.held_enqueue {dali : UsbDali α} (coherent : Coherent dali)
    (frame : DaliFrame) (arg : Option α) (submit : Int) :
    Held (usbdaliNext submit (enqueued frame arg dali)) ↔ Held dali := by
  -- A slot is occupied, so queueing submits nothing and can only mark a transfer.
  rcases usbdaliNext_of_occupied submit (enqueued frame arg dali) coherent.occupied with
    same | ⟨transfer, _, stops⟩
  · rw [same]; exact Iff.rfl
  · rw [stops]
    simp [Held, libusbCancelTransfer, UsbDali.log, enqueued]

/-- With nothing outstanding, a transfer is submitted, and libusb holds it if it accepts it. -/
theorem Quiet.held_next {dali : UsbDali α} (quiet : Quiet dali) (submit : Int) :
    Held (usbdaliNext submit dali) ↔ submit = 0 := by
  -- A quiet device always submits one transfer, and the code says whether libusb holds it.
  by_cases listen : dali.transaction ≠ none ∨ dali.queue = []
  · rw [usbdaliNext_receives submit dali quiet.send quiet.recv listen]
    simp [Held, receiving, afterSubmit, quiet.flight]
  · push Not at listen
    obtain ⟨transaction, rest, waiting⟩ := List.exists_cons_of_ne_nil listen.2
    rw [usbdaliNext_sends submit dali quiet.send quiet.recv listen.1 waiting]
    simp [Held, sending, afterSubmit, quiet.flight]

/-- The device is opened with a transfer in flight if its first submission succeeds. -/
theorem held_start (submit : Int) : Held (usbStart submit : UsbDali α) ↔ submit = 0 := by
  simp [Held, usbStart, usbdaliSetInbandCallback, usbdaliSetOutbandCallback, usbdaliOpen_eq,
    receiving, afterSubmit, usbdaliNew]

/-- A call of `libusb_submit_transfer` that the event leads to succeeds. -/
def SubmitsWell (dali : UsbDali α) : UsbEvent α → Prop
  -- Only the callback of a transfer in flight ever submits another one.
  | .complete completion _ =>
    (∃ transfer ∈ dali.context.inflight, transfer.id = completion.transfer) →
      completion.submit = 0
  | _ => True

/-- No call of `libusb_submit_transfer` has failed so far. -/
def NoFailure (dali : UsbDali α) : Prop :=
  ∀ transfer owner code, .submitted transfer owner code ∈ dali.trace → code = 0

/-- Recording anything but a failed submission adds no failure. -/
theorem NoFailure.concat {trace : List (UsbEffect α)} {effect : UsbEffect α}
    (none : ∀ transfer owner code, .submitted transfer owner code ∈ trace → code = 0)
    (well : ∀ transfer owner code, effect = .submitted transfer owner code → code = 0) :
    ∀ transfer owner code, .submitted transfer owner code ∈ trace ++ [effect] → code = 0 := by
  intro transfer owner code member
  rcases List.mem_append.mp member with earlier | last
  · exact none transfer owner code earlier
  · exact well transfer owner code (List.mem_singleton.mp last).symm

/-- Queueing a request adds no failure. -/
theorem NoFailure.enqueue {dali : UsbDali α} (none : NoFailure dali) (coherent : Coherent dali)
    (frame : DaliFrame) (arg : Option α) (submit : Int) :
    NoFailure (usbdaliNext submit (enqueued frame arg dali)) := by
  -- A slot is occupied, so no submission is made on behalf of the new request.
  have joined : NoFailure (enqueued frame arg dali) := NoFailure.concat none (by simp)
  rcases usbdaliNext_of_occupied submit (enqueued frame arg dali) coherent.occupied with
    same | ⟨transfer, _, stops⟩
  · rwa [same]
  · rw [stops]
    exact NoFailure.concat joined (by simp)

/-- A submission that succeeds adds no failure. -/
theorem NoFailure.next {dali : UsbDali α} (none : NoFailure dali) :
    NoFailure (usbdaliNext 0 dali) := by
  -- Whatever is submitted here is accepted.
  rcases usbdaliNext_cases 0 dali with same | ⟨_, _, stops⟩ | listens | ⟨_, _, _, _, sends⟩
  · rwa [same]
  · rw [stops]; exact NoFailure.concat none (by simp)
  · rw [listens]; exact NoFailure.concat none (by simp)
  · rw [sends]; exact NoFailure.concat none (by simp)

/--
The device is not wedged.

Every transfer on record is one libusb holds in flight, and a transaction on whose behalf a
submission failed has been told so.
-/
structure Unwedged (dali : UsbDali α) : Prop where
  recv : ∀ id, dali.recvTransfer = some id →
    ∃ transfer ∈ dali.context.inflight, transfer.id = id ∧ transfer.endpoint = .input
  send : ∀ id, dali.sendTransfer = some id →
    ∃ transfer ∈ dali.context.inflight, transfer.id = id ∧ transfer.endpoint = .output
  told : ∀ transfer owner code, .submitted transfer (some owner) code ∈ dali.trace → code ≠ 0 →
    ∃ transaction error frame response status,
      .reqCallback transaction error frame response status ∈ dali.trace ∧
      transaction.id = owner ∧ error ≠ .success ∧ error ≠ .response

/-- A coherent device is unwedged exactly while libusb holds a transfer. -/
theorem Coherent.unwedged_iff {dali : UsbDali α} (coherent : Coherent dali)
    (none : Held dali → NoFailure dali) : Unwedged dali ↔ Held dali := by
  constructor
  · -- One of the slots names a transfer, and libusb holds the one it names.
    intro unwedged
    rcases coherent.occupied with listening | busy
    · obtain ⟨id, slot⟩ := Option.ne_none_iff_exists'.mp listening
      obtain ⟨transfer, member, _⟩ := unwedged.recv id slot
      exact List.ne_nil_of_mem member
    · obtain ⟨id, slot⟩ := Option.ne_none_iff_exists'.mp busy
      obtain ⟨transfer, member, _⟩ := unwedged.send id slot
      exact List.ne_nil_of_mem member
  · intro held
    obtain ⟨transfer, member⟩ := List.exists_mem_of_ne_nil _ held
    have recorded := coherent.recorded transfer member
    refine ⟨?_, ?_, fun _ _ _ submitted failed => absurd (none held _ _ _ submitted) failed⟩
    · intro id slot
      have input : transfer.endpoint = .input := by
        rcases coherent.slots with ⟨_, quiet⟩ | ⟨idle, _, _⟩
        · cases direction : transfer.endpoint with
          | input => rfl
          | output => simp [slotOf, direction, quiet] at recorded
        · simp [idle] at slot
      refine ⟨transfer, member, ?_, input⟩
      simpa [slotOf, input, slot] using recorded.symm
    · intro id slot
      have output : transfer.endpoint = .output := by
        rcases coherent.slots with ⟨_, quiet⟩ | ⟨idle, _, _⟩
        · simp [quiet] at slot
        · exact coherent.output_of_sending idle member
      refine ⟨transfer, member, ?_, output⟩
      simpa [slotOf, output, slot] using recorded.symm

/-- A sound device on which no submission has failed as long as a transfer is in flight. -/
structure Answerable (dali : UsbDali α) : Prop where
  sound : UsbSound dali
  none : Held dali → NoFailure dali

/-- The device is answerable when `main` starts to use it. -/
theorem answerable_start (submit : Int) : Answerable (usbStart submit : UsbDali α) := by
  -- The only submission so far is the first receive.
  refine ⟨usbSound_start submit, fun held transfer owner code member => ?_⟩
  simp only [usbStart, usbdaliSetInbandCallback, usbdaliSetOutbandCallback, usbdaliOpen_eq,
    receiving, usbdaliNew, List.nil_append, List.mem_singleton, UsbEffect.submitted.injEq]
    at member
  rw [member.2.2]
  exact (held_start submit).mp held

section Cancel

variable [DecidableEq α]

/-- A device with a transfer in flight keeps one exactly as long as submissions succeed. -/
theorem UsbSound.held_step {dali : UsbDali α} (sound : UsbSound dali) (held : Held dali)
    (event : UsbEvent α) : Held (usbStep dali event) ↔ SubmitsWell dali event := by
  -- Only a completion that libusb can deliver makes the driver submit a transfer.
  cases event with
  | queue frame cbarg memory submit =>
    simp only [usbStep, usbdaliQueue_eq, SubmitsWell, iff_true]
    split
    · exact (sound.coherent.held_enqueue frame cbarg submit).mpr held
    · exact held
  | cancel arg =>
    simp only [usbStep, usbdaliCancel_eq, cancelAll_eq, SubmitsWell, iff_true]
    exact held
  | complete completion args =>
    rcases sound.complete completion args with ⟨absent, same⟩ | ⟨transfer, member, named, done⟩
    · rw [same]
      refine ⟨fun _ found => ?_, fun _ => held⟩
      obtain ⟨transfer, member, named⟩ := found
      simp only [List.find?_eq_none, decide_eq_true_eq] at absent
      exact absurd named (absent transfer member)
    · rw [done]
      exact ((sound.coherent.quiet member completion args).held_next _).trans
        ⟨fun good _ => good, fun good => good ⟨transfer, member, named⟩⟩

/-- A session in which every submission succeeds always has a transfer in flight. -/
theorem held_run {events : List (UsbEvent α)} (submits : ∀ event ∈ events, event.submit = 0) :
    Held (run usbStep (usbStart 0) events) := by
  -- Every submission succeeds, so each step meets its condition in whatever state it is taken.
  have kept : Throughout usbStep (fun dali => UsbSound dali ∧ Held dali)
      (usbStart 0 : UsbDali α) events := by
    have well : StepsMeet usbStep SubmitsWell (usbStart 0 : UsbDali α) events := by
      refine stepsMeet_of_forall (fun dali event member => ?_) _
      cases event with
      | complete completion args => exact fun _ => submits _ member
      | _ => trivial
    exact throughout_of_stepsMeet
      (fun dali event good well => ⟨good.1.step event, (good.1.held_step good.2 event).mpr well⟩)
      ⟨usbSound_start 0, (held_start 0).mpr rfl⟩ well
  exact kept.last.2

/--
The single outstanding transfer.

While submissions succeed, exactly one of the two slots is occupied after every event, it names
the only transfer in flight, and a transaction is active while one is being sent.
None of the undefined or impossible branches is ever reached.
-/
theorem single_outstanding_transfer (events : List (UsbEvent α))
    (submits : ∀ event ∈ events, event.submit = 0) :
    let dali := run usbStep (usbStart 0) events
    (∃ transfer, dali.context.inflight = [transfer] ∧
      ((dali.recvTransfer = some transfer.id ∧ dali.sendTransfer = none ∧
          transfer.endpoint = .input) ∨
        (dali.recvTransfer = none ∧ dali.sendTransfer = some transfer.id ∧
          transfer.endpoint = .output))) ∧
      (dali.sendTransfer ≠ none → dali.transaction ≠ none) ∧
      ∀ fault, .fault fault ∉ dali.trace := by
  -- The transfer in flight is alone there and recorded in the slot of its direction.
  intro dali
  have coherent : Coherent dali := (usbSound_run 0 events).coherent
  have held : Held dali := held_run submits
  obtain ⟨transfer, member⟩ := List.exists_mem_of_ne_nil _ held
  have recorded := coherent.recorded transfer member
  refine ⟨⟨transfer, coherent.only transfer member, ?_⟩, ?_, coherent.clean⟩
  · cases direction : transfer.endpoint with
    | input =>
      simp only [slotOf, direction] at recorded
      rcases coherent.slots with ⟨_, quiet⟩ | ⟨idle, _, _⟩
      · exact .inl ⟨recorded, quiet, rfl⟩
      · simp [idle] at recorded
    | output =>
      simp only [slotOf, direction] at recorded
      rcases coherent.slots with ⟨_, quiet⟩ | ⟨idle, _, _⟩
      · simp [quiet] at recorded
      · exact .inr ⟨idle, recorded, rfl⟩
  · intro busy
    -- Only the sending half of the invariant has an occupied send slot.
    rcases coherent.slots with ⟨_, quiet⟩ | ⟨_, _, active⟩
    · exact absurd quiet busy
    · exact active

/-- A request that arrives while the device listens: its packet ends up as the only transfer. -/
theorem single_outstanding_transfer_sending :
    let events : List (UsbEvent Nat) :=
      [.queue (daliframeNew 0x01 0x05) (some 7) true 0, .complete ⟨0, .cancelled, [], 0⟩ []]
    (∀ event ∈ events, event.submit = 0) ∧
      (run usbStep (usbStart 0) events).sendTransfer = some 1 ∧
      (run usbStep (usbStart 0) events).transaction ≠ none := by
  intro events
  have submits : ∀ event ∈ events, event.submit = 0 := by decide
  have sends : (run usbStep (usbStart 0) events).sendTransfer = some 1 := by decide
  exact ⟨submits, sends,
    (single_outstanding_transfer events submits).2.1 (by rw [sends]; exact Option.some_ne_none 1)⟩

/-- Whatever is reported, no submission is on record that was not before. -/
theorem NoFailure.report {dali : UsbDali α} (none : NoFailure dali) (args : List (Option α))
    (report : Report) : NoFailure (afterReport args report dali) := by
  -- Reports log callbacks or faults and never submissions.
  cases report with
  | silent => exact none
  | broadcast error frame status =>
    simp only [afterReport, cancelAll_eq]
    exact NoFailure.concat none (by simp)
  | finished error frame response status =>
    cases active : dali.transaction with
    | none =>
      simp only [afterReport, active]
      exact NoFailure.concat none (by simp)
    | some transaction =>
      simp only [afterReport, active, cancelAll_eq]
      exact NoFailure.concat none (by simp)

/-- One event keeps the device answerable. -/
theorem Answerable.step {dali : UsbDali α} (good : Answerable dali) (event : UsbEvent α) :
    Answerable (usbStep dali event) := by
  -- A step that leaves a transfer held has submitted nothing that failed.
  refine ⟨good.sound.step event, fun held => ?_⟩
  have coherent := good.sound.coherent
  cases event with
  | queue frame cbarg memory submit =>
    simp only [usbStep, usbdaliQueue_eq] at held ⊢
    split at held
    · rename_i room
      have before := (coherent.held_enqueue frame cbarg submit).mp held
      simpa [room] using (good.none before).enqueue coherent frame cbarg submit
    · rename_i full
      simp only [full, if_false]
      exact NoFailure.concat (good.none held) (by simp)
  | cancel arg =>
    simp only [usbStep, usbdaliCancel_eq, cancelAll_eq] at held ⊢
    exact good.none held
  | complete completion args =>
    rcases good.sound.complete completion args with ⟨_, same⟩ | ⟨transfer, member, _, done⟩
    · rw [same] at held ⊢
      exact good.none held
    · rw [done] at held ⊢
      have accepted := ((coherent.quiet member completion args).held_next _).mp held
      have before : NoFailure (retire transfer dali) := good.none (List.ne_nil_of_mem member)
      have reported := before.report args (transferReport dali transfer completion)
      unfold completed
      rw [accepted]
      apply NoFailure.next
      cases transfer.endpoint <;> exact reported

/-- The device is answerable in every state of every session. -/
theorem answerable_run (submit : Int) (events : List (UsbEvent α)) :
    Answerable (run usbStep (usbStart submit : UsbDali α) events) := by
  have step : ∀ (dali : UsbDali α) event, Answerable dali → Answerable (usbStep dali event) :=
    fun _ event good => good.step event
  exact run_invariant step (answerable_start submit) events

/-- An unwedged device stays so exactly if the event leads to no failed submission. -/
theorem Answerable.unwedged_step {dali : UsbDali α} (good : Answerable dali)
    (event : UsbEvent α) (unwedged : Unwedged dali) :
    Unwedged (usbStep dali event) ↔ SubmitsWell dali event := by
  -- Where no submission has failed, being unwedged is having a transfer in flight.
  have held := (good.sound.coherent.unwedged_iff good.none).mp unwedged
  have after := good.step event
  exact (after.sound.coherent.unwedged_iff after.none).trans (good.sound.held_step held event)

/--
A session stays unwedged exactly as long as no submission fails.

Nobody looks at the code `libusb_submit_transfer` returns, so the first failure leaves a transfer
on record that will never be called back.
-/
theorem unwedged_iff_submissions_succeed (submit : Int) (events : List (UsbEvent α)) :
    Throughout usbStep Unwedged (usbStart submit) events ↔
      submit = 0 ∧ StepsMeet usbStep SubmitsWell (usbStart submit) events := by
  -- The first receive decides the start, and after it each completion's submission decides one
  -- step.
  have good : Answerable (usbStart submit : UsbDali α) := answerable_start submit
  have first : Unwedged (usbStart submit : UsbDali α) ↔ submit = 0 :=
    (good.sound.coherent.unwedged_iff good.none).trans (held_start submit)
  by_cases accepted : submit = 0
  · have exact_ := throughout_iff_stepsMeet (fun _ event good => Answerable.step good event)
      (fun _ event good unwedged => Answerable.unwedged_step good event unwedged)
      good (first.mpr accepted) events
    exact exact_.trans ⟨fun met => ⟨accepted, met⟩, fun both => both.2⟩
  -- A refused first receive wedges the device before any event.
  · exact ⟨fun always => absurd (first.mp always.first) accepted, fun both => absurd both.1 accepted⟩

/--
A receive that times out when the adapter has just been unplugged.

The next receive cannot be submitted, yet it stays on record although libusb does not hold it.
-/
theorem unplugged_adapter_wedges :
    ¬ ∀ (submit : Int) (events : List (UsbEvent Nat)),
      Throughout usbStep Unwedged (usbStart submit) events := by
  intro always
  have wedged := (always 0 [.complete ⟨0, .timedOut, [], -4⟩ []]).last
  have slot : (run usbStep (usbStart 0 : UsbDali Nat)
      [.complete ⟨0, .timedOut, [], -4⟩ []]).recvTransfer = some 1 := by decide
  have empty : (run usbStep (usbStart 0 : UsbDali Nat)
      [.complete ⟨0, .timedOut, [], -4⟩ []]).context.inflight = [] := by decide
  obtain ⟨transfer, member, _⟩ := wedged.recv 1 slot
  rw [empty] at member
  cases member

end Cancel

end Daliserver

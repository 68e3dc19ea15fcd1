import Daliserver.Usb.Ledger

/-! At most one transfer is outstanding, and it is the one the device state names. -/

namespace Daliserver

open Machine

variable {α : Type}

/-- No branch that C leaves undefined, or the authors mark as impossible, was ever taken. -/
def Clean (dali : UsbDali α) : Prop := ∀ fault, .fault fault ∉ dali.trace

/-- How the transfer slots, the active transaction, the queue, and libusb hang together. -/
structure Coherent (dali : UsbDali α) : Prop where
  -- Exactly one slot is occupied, and only an active transaction is being sent.
  slots : (dali.recvTransfer ≠ none ∧ dali.sendTransfer = none) ∨
    (dali.recvTransfer = none ∧ dali.sendTransfer ≠ none ∧ dali.transaction ≠ none)
  only : ∀ transfer ∈ dali.context.inflight, dali.context.inflight = [transfer]
  recorded : ∀ transfer ∈ dali.context.inflight,
    slotOf transfer.endpoint dali = some transfer.id
  asked : ∀ transfer ∈ dali.context.inflight, (transfer.cancelRequested = true ↔
    transfer.endpoint = .input ∧ dali.transaction = none ∧ dali.queue ≠ [])
  service : InService dali
  clean : Clean dali

/-- Nothing is outstanding, which is how a completion callback leaves the device. -/
structure Quiet (dali : UsbDali α) : Prop where
  recv : dali.recvTransfer = none
  send : dali.sendTransfer = none
  flight : dali.context.inflight = []
  service : InService dali
  clean : Clean dali

/-- Recording anything but a fault keeps the trace clean. -/
theorem Clean.concat {trace : List (UsbEffect α)} {effect : UsbEffect α}
    (clean : ∀ fault, .fault fault ∉ trace) (harmless : ∀ fault, effect ≠ .fault fault) :
    ∀ fault, .fault fault ∉ trace ++ [effect] := by
  intro fault member
  rcases List.mem_append.mp member with earlier | last
  · exact clean fault earlier
  · exact harmless fault (List.mem_singleton.mp last).symm

/-- A submission adds at most its own transfer to an empty flight. -/
theorem mem_afterSubmit_nil {code : Int} {transfer other : Transfer}
    (member : other ∈ afterSubmit code transfer []) :
    other = transfer ∧ afterSubmit code transfer [] = [transfer] := by
  -- A refused submission leaves nothing in flight, so the transfer was accepted.
  unfold afterSubmit at member ⊢
  split at member
  · rename_i accepted
    simpa [accepted] using member
  · cases member

/-- With nothing outstanding, the next transfer is the only one. -/
theorem Quiet.next {dali : UsbDali α} (quiet : Quiet dali) (submit : Int) :
    Coherent (usbdaliNext submit dali) := by
  by_cases listen : dali.transaction ≠ none ∨ dali.queue = []
  · -- There is nothing to send, so the layer listens and no one asks it to stop.
    rw [usbdaliNext_receives submit dali quiet.send quiet.recv listen]
    refine ⟨.inl ⟨by simp [receiving], quiet.send⟩, ?_, ?_, ?_,
      ⟨quiet.service.req, quiet.service.bcast, quiet.service.open_⟩,
      Clean.concat quiet.clean (by simp)⟩
    all_goals
      intro transfer member
      simp only [receiving, quiet.flight] at member ⊢
      obtain ⟨rfl, single⟩ := mem_afterSubmit_nil member
    · exact single
    · rfl
    · simp only [receiveTransfer, Bool.false_eq_true, true_and, false_iff, not_and, not_not]
      exact fun free => listen.resolve_left (not_not.mpr free)
  · -- The head of the queue becomes the active transaction and is sent.
    push Not at listen
    obtain ⟨transaction, rest, waiting⟩ := List.exists_cons_of_ne_nil listen.2
    rw [usbdaliNext_sends submit dali quiet.send quiet.recv listen.1 waiting]
    refine ⟨.inr ⟨quiet.recv, by simp [sending], by simp [sending]⟩, ?_, ?_, ?_,
      ⟨quiet.service.req, quiet.service.bcast, quiet.service.open_⟩,
      Clean.concat quiet.clean (by simp)⟩
    all_goals
      intro transfer member
      simp only [sending, quiet.flight] at member ⊢
      obtain ⟨rfl, single⟩ := mem_afterSubmit_nil member
    · exact single
    · rfl
    · simp [sendTransferOf]

/-- While a transaction is being sent, only its own transfer can be in flight. -/
theorem Coherent.output_of_sending {dali : UsbDali α} (coherent : Coherent dali)
    (idle : dali.recvTransfer = none) {transfer : Transfer}
    (member : transfer ∈ dali.context.inflight) : transfer.endpoint = .output := by
  -- Every transfer in flight is recorded in the slot of its direction.
  have recorded := coherent.recorded transfer member
  cases direction : transfer.endpoint with
  | output => rfl
  | input => simp [slotOf, direction, idle] at recorded

/-- A request that joins the queue stops an idle receive and disturbs nothing else. -/
theorem Coherent.enqueue {dali : UsbDali α} (coherent : Coherent dali) (frame : DaliFrame)
    (arg : Option α) (submit : Int) :
    Coherent (usbdaliNext submit (enqueued frame arg dali)) := by
  have service := coherent.service
  have clean : Clean (enqueued frame arg dali) :=
    Clean.concat coherent.clean (by simp)
  rcases coherent.slots with ⟨listening, quiet⟩ | ⟨idle, busy, active⟩
  · obtain ⟨id, slot⟩ := Option.ne_none_iff_exists'.mp listening
    rw [usbdaliNext_of_listening submit (enqueued frame arg dali) quiet slot]
    split
    · -- The idle receive is asked to stop, and the mark goes onto the transfer in flight.
      rename_i idle
      refine ⟨.inl ⟨listening, quiet⟩, ?_, ?_, ?_, ⟨service.req, service.bcast, service.open_⟩,
        Clean.concat clean (by simp)⟩
      all_goals
        intro transfer member
        simp only [libusbCancelTransfer, UsbDali.log, enqueued, List.mem_map]
          at member ⊢
        obtain ⟨original, held, rfl⟩ := member
        have only := coherent.only original held
        have recorded := coherent.recorded original held
      · simp [only]
      · split <;> exact recorded
      · have direction : original.endpoint = .input := by
          cases direction : original.endpoint with
          | input => rfl
          | output => simp [slotOf, direction, quiet] at recorded
        have same : original.id = id := by
          simpa [slotOf, direction, slot] using recorded.symm
        simpa [same, direction, enqueued] using idle.1
    · -- A transaction is active, so the receive waits for its answer.
      rename_i answer
      simp only [enqueued, ne_eq, List.append_eq_nil_iff, List.cons_ne_self, and_false,
        not_false_eq_true, and_true] at answer
      refine ⟨.inl ⟨listening, quiet⟩, coherent.only, coherent.recorded, ?_,
        ⟨service.req, service.bcast, service.open_⟩, clean⟩
      intro transfer member
      have asked := coherent.asked transfer member
      simpa [enqueued, answer] using asked
  · rw [usbdaliNext_of_sending submit (enqueued frame arg dali) busy]
    refine ⟨.inr ⟨idle, busy, active⟩, coherent.only, coherent.recorded, ?_,
      ⟨service.req, service.bcast, service.open_⟩, clean⟩
    intro transfer member
    have asked := coherent.asked transfer member
    simpa [enqueued, active] using asked

/-- A refused request is only recorded. -/
theorem Coherent.reject {dali : UsbDali α} (coherent : Coherent dali) (frame : DaliFrame)
    (error : UsbDaliError) : Coherent (dali.log (.rejected frame error)) :=
  ⟨coherent.slots, coherent.only, coherent.recorded, coherent.asked,
    ⟨coherent.service.req, coherent.service.bcast, coherent.service.open_⟩,
    Clean.concat coherent.clean (by simp)⟩

/-- Queueing a request keeps the device coherent, whether it is accepted or not. -/
theorem Coherent.queue {dali : UsbDali α} (coherent : Coherent dali) (memory : Bool)
    (submit : Int) (frame : DaliFrame) (arg : Option α) :
    Coherent (usbdaliQueue memory submit frame arg dali).1 := by
  -- Accepting a request may ask an idle receive to stop, and refusing one only logs.
  rw [usbdaliQueue_eq]
  split
  · exact coherent.enqueue frame arg submit
  · exact coherent.reject frame _

/-- A report that ends a transaction is only made while one is active. -/
theorem Coherent.report_active {dali : UsbDali α} (coherent : Coherent dali)
    {transfer : Transfer} (member : transfer ∈ dali.context.inflight)
    {completion : Completion} {error : UsbDaliError} {frame : Option DaliFrame}
    {response status : Nat}
    (report : transferReport dali transfer completion = .finished error frame response status) :
    dali.transaction ≠ none := by
  intro free
  have recorded := coherent.recorded transfer member
  cases direction : transfer.endpoint with
  | input =>
    -- Every receive branch that ends a transaction has tested for one.
    simp only [transferReport, direction, free] at report
    unfold receiveReport packetReport at report
    grind
  | output =>
    rcases coherent.slots with ⟨_, quiet⟩ | ⟨_, _, active⟩
    · simp [slotOf, direction, quiet] at recorded
    · exact active free

/-- Everything the layer maintains, in every state of a session. -/
structure UsbSound (dali : UsbDali α) : Prop where
  coherent : Coherent dali
  ledger : Ledger dali

/-- A device that was just opened listens. -/
theorem usbdaliOpen_eq (submit : Int) :
    usbdaliOpen submit = receiving submit (usbdaliNew : UsbDali α) :=
  usbdaliNext_receives submit usbdaliNew rfl rfl (.inr rfl)

/-- The device is sound when `main` starts to use it. -/
theorem usbSound_start (submit : Int) : UsbSound (usbStart submit : UsbDali α) := by
  -- The first receive is outstanding whether or not it was accepted; nothing has failed yet.
  refine ⟨⟨.inl ?_, ?_, ?_, ?_, ⟨rfl, rfl, ?_⟩, ?_⟩, ledger_usbStart submit⟩
  · simp [usbStart, usbdaliSetInbandCallback, usbdaliSetOutbandCallback, usbdaliOpen_eq, receiving,
      usbdaliNew]
  all_goals simp only [usbStart, usbdaliSetInbandCallback, usbdaliSetOutbandCallback,
    usbdaliOpen_eq]
  · intro transfer member
    obtain ⟨rfl, single⟩ := mem_afterSubmit_nil member
    exact single
  · intro transfer member
    obtain ⟨rfl, _⟩ := mem_afterSubmit_nil member
    rfl
  · intro transfer member
    obtain ⟨rfl, _⟩ := mem_afterSubmit_nil member
    simp [receiveTransfer, receiving, usbdaliNew]
  · rfl
  · simp [Clean, receiving, usbdaliNew]

section Cancel

variable [DecidableEq α]

/-- Cancelling touches none of the things that must hang together. -/
theorem Coherent.cancel {dali : UsbDali α} (coherent : Coherent dali)
    (args : List (Option α)) : Coherent (cancelAll args dali) := by
  -- Clearing owners changes no slot and frees no transaction.
  rw [cancelAll_eq]
  refine ⟨?_, coherent.only, coherent.recorded, ?_,
    ⟨coherent.service.req, coherent.service.bcast, coherent.service.open_⟩, coherent.clean⟩
  · simpa using coherent.slots
  · simpa using coherent.asked

/-- A report that only ends an active transaction takes no undefined branch. -/
theorem afterReport_clean (dali : UsbDali α) (clean : Clean dali) (args : List (Option α))
    {report : Report} (active : ∀ error frame response status,
      report = .finished error frame response status → dali.transaction ≠ none) :
    Clean (afterReport args report dali) := by
  -- The only fault a report can log is the missing transaction, which the hypothesis excludes.
  cases report with
  | silent => exact clean
  | broadcast error frame status =>
    simp only [afterReport, cancelAll_eq]
    exact Clean.concat clean (by simp)
  | finished error frame response status =>
    obtain ⟨transaction, slot⟩ := Option.ne_none_iff_exists'.mp (active _ _ _ _ rfl)
    simp only [afterReport, slot, cancelAll_eq]
    exact Clean.concat clean (by simp)

/-- Once its callback has cleared the slot of the only transfer, nothing is outstanding. -/
theorem Coherent.quiet {dali : UsbDali α} (coherent : Coherent dali) {transfer : Transfer}
    (member : transfer ∈ dali.context.inflight) (completion : Completion)
    (args : List (Option α)) :
    Quiet (clearSlot transfer.endpoint
      (afterReport args (transferReport dali transfer completion) (retire transfer dali))) := by
  -- Exactly one transfer was in flight, so retiring it and clearing its slot leaves neither.
  have frame := afterReport_frame args (transferReport dali transfer completion)
    (retire transfer dali)
  have clean : Clean (afterReport args (transferReport dali transfer completion)
      (retire transfer dali)) :=
    afterReport_clean (retire transfer dali) coherent.clean args
      (fun _ _ _ _ report => coherent.report_active member report)
  have flight : (retire transfer dali).context.inflight = [] := by
    simp [retire, coherent.only transfer member]
  have recorded := coherent.recorded transfer member
  have service := coherent.service
  cases direction : transfer.endpoint with
  | input =>
    simp only [slotOf, direction] at recorded
    -- A recorded receive rules out the sending half of the invariant.
    have quiet : dali.sendTransfer = none := by
      rcases coherent.slots with ⟨_, quiet⟩ | ⟨idle, _, _⟩
      · exact quiet
      · simp [idle] at recorded
    exact ⟨rfl, frame.send.trans quiet, by simpa [clearSlot, frame.context] using flight,
      ⟨frame.req.trans service.req, frame.bcast.trans service.bcast,
        frame.shutdown.trans service.open_⟩, clean⟩
  | output =>
    simp only [slotOf, direction] at recorded
    -- A recorded send rules out the listening half.
    have idle : dali.recvTransfer = none := by
      rcases coherent.slots with ⟨_, quiet⟩ | ⟨idle, _, _⟩
      · simp [quiet] at recorded
      · exact idle
    exact ⟨frame.recv.trans idle, rfl, by simpa [clearSlot, frame.context] using flight,
      ⟨frame.req.trans service.req, frame.bcast.trans service.bcast,
        frame.shutdown.trans service.open_⟩, clean⟩

/-- A completed transfer is followed by the next one. -/
theorem Coherent.complete {dali : UsbDali α} (coherent : Coherent dali) {transfer : Transfer}
    (member : transfer ∈ dali.context.inflight) (completion : Completion)
    (args : List (Option α)) : Coherent (completed args transfer completion dali) :=
  (coherent.quiet member completion args).next _

section Held

variable {σ : Type} {completion : Completion} {transfer : Transfer}

-- A sound device supplies all that the explicit form of a completion needs.

/-- A completion reported to a sound device within a session. -/
theorem UsbSound.usbStep_held {dali : UsbDali α} (sound : UsbSound dali)
    (held : dali.context.inflight.find? (·.id = completion.transfer) = some transfer)
    (args : List (Option α)) :
    usbStep dali (.complete completion args) = completed args transfer completion dali :=
  usbStep_complete sound.coherent.service sound.ledger.activeAlive held
    (sound.coherent.recorded transfer (List.mem_of_find?_eq_some held)) args

/-- A completion reported to a sound device, with whatever the handlers do to the program. -/
theorem UsbSound.libusbComplete_held {state : UsbDali α × σ} (sound : UsbSound state.1)
    (held : state.1.context.inflight.find? (·.id = completion.transfer) = some transfer)
    (handlers : Handlers α σ) :
    libusbComplete handlers completion state =
      onDali (fun dali => usbdaliNext completion.submit (clearSlot transfer.endpoint dali))
        ((transferReport state.1 transfer completion).carryOut handlers
          (onDali (retire transfer) state)) :=
  libusbComplete_eq handlers completion state sound.coherent.service sound.ledger.activeAlive held
    (sound.coherent.recorded transfer (List.mem_of_find?_eq_some held))

/-- What the device itself sees of it. -/
theorem UsbSound.libusbComplete_held_fst {state : UsbDali α × σ} (sound : UsbSound state.1)
    (held : state.1.context.inflight.find? (·.id = completion.transfer) = some transfer)
    (handlers : Handlers α σ) :
    ∃ args, (libusbComplete handlers completion state).1 =
      completed args transfer completion state.1 :=
  libusbComplete_fst handlers completion state sound.coherent.service sound.ledger.activeAlive held
    (sound.coherent.recorded transfer (List.mem_of_find?_eq_some held))

end Held

/-- What libusb does when it reports a completion to a sound device. -/
theorem UsbSound.complete {dali : UsbDali α} (sound : UsbSound dali) (completion : Completion)
    (args : List (Option α)) :
    (dali.context.inflight.find? (·.id = completion.transfer) = none ∧
      usbStep dali (.complete completion args) = dali) ∨
    ∃ transfer, transfer ∈ dali.context.inflight ∧ transfer.id = completion.transfer ∧
      usbStep dali (.complete completion args) = completed args transfer completion dali := by
  -- Either libusb does not hold the transfer and nothing happens, or the explicit form applies.
  cases held : dali.context.inflight.find? (·.id = completion.transfer) with
  | none => exact .inl ⟨rfl, by simp [usbStep, libusbComplete, held]⟩
  | some transfer =>
    have member := List.mem_of_find?_eq_some held
    have named : transfer.id = completion.transfer := by simpa using List.find?_some held
    exact .inr ⟨transfer, member, named, sound.usbStep_held held args⟩

/-- One event keeps the device sound. -/
theorem UsbSound.step {dali : UsbDali α} (sound : UsbSound dali) (event : UsbEvent α) :
    UsbSound (usbStep dali event) := by
  -- One case for each way of entering the driver.
  cases event with
  | queue frame cbarg memory submit =>
    exact ⟨sound.coherent.queue memory submit frame cbarg,
      sound.ledger.queue memory submit frame cbarg⟩
  | cancel arg =>
    simp only [usbStep, usbdaliCancel_eq]
    exact ⟨sound.coherent.cancel [arg], sound.ledger.cancel [arg]⟩
  | complete completion args =>
    rcases sound.complete completion args with ⟨_, ignored⟩ | ⟨transfer, member, _, handled⟩
    · rwa [ignored]
    · rw [handled]
      exact ⟨sound.coherent.complete member completion args,
        sound.ledger.complete args transfer completion⟩

/-- The device is sound in every state of every session. -/
theorem usbSound_run (submit : Int) (events : List (UsbEvent α)) :
    UsbSound (run usbStep (usbStart submit) events) :=
  run_invariant (fun _ event sound => sound.step event) (usbSound_start submit) events

end Cancel

end Daliserver

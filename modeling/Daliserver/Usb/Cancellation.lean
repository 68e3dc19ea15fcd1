import Daliserver.Usb.Outstanding

/-! `libusb_cancel_transfer` is called on an idle receive that keeps requests waiting, and only there. -/

namespace Daliserver

open Machine

variable {α : Type}

/-- What the trace knows about the transfers that were asked to stop. -/
structure CancelLog (dali : UsbDali α) : Prop where
  -- Transfers are numbered in the order of their allocation.
  numbered : ∀ transfer owner code, .submitted transfer owner code ∈ dali.trace →
    transfer.id < dali.context.allocated
  flying : ∀ transfer ∈ dali.context.inflight, transfer.id < dali.context.allocated
  asked : ∀ id, .cancelled id ∈ dali.trace → id < dali.context.allocated
  -- The receive slot names a transfer that was submitted to the IN endpoint, if at all.
  listening : ∀ id, dali.recvTransfer = some id → id < dali.context.allocated ∧
    ∀ transfer owner code, .submitted transfer owner code ∈ dali.trace → transfer.id = id →
      transfer.endpoint = .input
  receives : ∀ id, .cancelled id ∈ dali.trace →
    ∀ transfer owner code, .submitted transfer owner code ∈ dali.trace → transfer.id = id →
      transfer.endpoint = .input
  -- The mark on a transfer in flight says whether the call was made.
  marked : ∀ transfer ∈ dali.context.inflight,
    (transfer.cancelRequested = true ↔ .cancelled transfer.id ∈ dali.trace)

/-- Only submissions, cancellations, and the receive slot matter to the log. -/
theorem CancelLog.congr {before after : UsbDali α} (log : CancelLog before)
    (context : after.context = before.context)
    (recv : after.recvTransfer = before.recvTransfer ∨ after.recvTransfer = none)
    (submitted : ∀ transfer owner code, .submitted transfer owner code ∈ after.trace ↔
      .submitted transfer owner code ∈ before.trace)
    (cancelled : ∀ id, .cancelled id ∈ after.trace ↔ .cancelled id ∈ before.trace) :
    CancelLog after := by
  -- Every part reads the context, the receive slot or membership in the trace.
  refine ⟨?_, ?_, ?_, ?_, ?_, ?_⟩
  · simpa only [submitted, context] using log.numbered
  · simpa only [context] using log.flying
  · simpa only [cancelled, context] using log.asked
  · rcases recv with same | cleared
    · simpa only [submitted, context, same] using log.listening
    · simp [cleared]
  · simpa only [submitted, cancelled] using log.receives
  · simpa only [cancelled, context] using log.marked

/-- A transfer retired by libusb leaves the log in order. -/
theorem CancelLog.retire {dali : UsbDali α} (log : CancelLog dali) (transfer : Transfer) :
    CancelLog (retire transfer dali) :=
  ⟨log.numbered, fun other member => log.flying other (List.mem_of_mem_erase member), log.asked,
    log.listening, log.receives, fun other member => log.marked other (List.mem_of_mem_erase member)⟩

/-- A new transfer is numbered past every other and has not been asked to stop. -/
theorem CancelLog.submit {before after : UsbDali α} (log : CancelLog before) (transfer : Transfer)
    {owner : Option Nat} {code : Int} (fresh : transfer.id = before.context.allocated)
    (unmarked : transfer.cancelRequested = false)
    (context : after.context =
      ⟨afterSubmit code transfer before.context.inflight, before.context.allocated + 1⟩)
    (trace : after.trace = before.trace ++ [.submitted transfer owner code])
    (recv : after.recvTransfer = before.recvTransfer ∨
      after.recvTransfer = some transfer.id ∧ transfer.endpoint = .input) :
    CancelLog after := by
  -- A new transfer takes a fresh number, so nothing recorded so far can be about it.
  have submitted : ∀ other owner' code', .submitted other owner' code' ∈ after.trace →
      .submitted other owner' code' ∈ before.trace ∨ other = transfer := by
    intro other owner' code' member
    rw [trace] at member
    rcases List.mem_append.mp member with earlier | last
    · exact .inl earlier
    · simp only [List.mem_singleton, UsbEffect.submitted.injEq] at last
      exact .inr last.1
  have cancelled : ∀ id, .cancelled id ∈ after.trace → .cancelled id ∈ before.trace := by
    intro id member
    simpa [trace] using member
  have flying : ∀ other ∈ after.context.inflight,
      other ∈ before.context.inflight ∨ other = transfer := by
    intro other member
    simp only [context, afterSubmit] at member
    split at member
    · simpa using member
    · exact .inl member
  have count : after.context.allocated = before.context.allocated + 1 := by rw [context]
  refine ⟨?_, ?_, ?_, ?_, ?_, ?_⟩
  · intro other owner' code' member
    rcases submitted other owner' code' member with earlier | rfl
    · have := log.numbered other owner' code' earlier
      omega
    · omega
  · intro other member
    rcases flying other member with earlier | rfl
    · have := log.flying other earlier
      omega
    · omega
  · intro id member
    have := log.asked id (cancelled id member)
    omega
  -- The receive slot is kept, or it names the new transfer, which is then an input.
  · intro id slot
    rcases recv with same | ⟨new, input⟩
    · have old := log.listening id (same ▸ slot)
      refine ⟨by omega, fun other owner' code' member named => ?_⟩
      rcases submitted other owner' code' member with earlier | rfl
      · exact old.2 other owner' code' earlier named
      · omega
    · rw [new, Option.some.injEq] at slot
      refine ⟨by omega, fun other owner' code' member named => ?_⟩
      rcases submitted other owner' code' member with earlier | rfl
      · have := log.numbered other owner' code' earlier
        omega
      · exact input
  · intro id member other owner' code' sub named
    have old := log.asked id (cancelled id member)
    rcases submitted other owner' code' sub with earlier | rfl
    · exact log.receives id (cancelled id member) other owner' code' earlier named
    · omega
  · intro other member
    have same : .cancelled other.id ∈ after.trace ↔ .cancelled other.id ∈ before.trace := by
      simp [trace]
    rw [same]
    rcases flying other member with earlier | rfl
    · exact log.marked other earlier
    · simp only [unmarked, Bool.false_eq_true, false_iff]
      intro past
      have := log.asked _ past
      omega

/-- Asking the receive on record to stop marks it, should it be in flight. -/
theorem CancelLog.stop {dali : UsbDali α} (log : CancelLog dali) {id : Nat}
    (slot : dali.recvTransfer = some id) : CancelLog (libusbCancelTransfer id dali) := by
  have slotted := log.listening id slot
  have submitted : ∀ transfer owner code,
      .submitted transfer owner code ∈ (libusbCancelTransfer id dali).trace ↔
        .submitted transfer owner code ∈ dali.trace := by
    simp [libusbCancelTransfer, UsbDali.log]
  have cancelled : ∀ other, .cancelled other ∈ (libusbCancelTransfer id dali).trace ↔
      .cancelled other ∈ dali.trace ∨ other = id := by
    simp [libusbCancelTransfer, UsbDali.log]
  refine ⟨?_, ?_, ?_, ?_, ?_, ?_⟩
  · intro transfer owner code member
    exact log.numbered transfer owner code ((submitted _ _ _).mp member)
  · intro transfer member
    simp only [libusbCancelTransfer, UsbDali.log, List.mem_map] at member
    obtain ⟨original, held, rfl⟩ := member
    have := log.flying original held
    split <;> exact this
  · intro other member
    rcases (cancelled other).mp member with earlier | rfl
    · exact log.asked other earlier
    · exact slotted.1
  · intro other recorded
    refine ⟨(log.listening other recorded).1, fun transfer owner code member => ?_⟩
    exact (log.listening other recorded).2 transfer owner code ((submitted _ _ _).mp member)
  · intro other member transfer owner code sub named
    have earlier := (submitted _ _ _).mp sub
    rcases (cancelled other).mp member with before | rfl
    · exact log.receives other before transfer owner code earlier named
    · exact slotted.2 transfer owner code earlier named
  · intro transfer member
    rw [cancelled]
    simp only [libusbCancelTransfer, UsbDali.log, List.mem_map] at member
    obtain ⟨original, held, rfl⟩ := member
    have old := log.marked original held
    by_cases same : original.id = id
    · simp [same]
    · simp [same, old]

/-- Whatever is decided next, the log stays in order. -/
theorem CancelLog.next {dali : UsbDali α} (log : CancelLog dali) (submit : Int) :
    CancelLog (usbdaliNext submit dali) := by
  -- Only the slotted receive is ever cancelled, and every submission uses a fresh number.
  rcases usbdaliNext_cases submit dali with same | ⟨id, slot, stops⟩ | listens |
    ⟨transaction, rest, _, _, sends⟩
  · rwa [same]
  · rw [stops]
    exact log.stop slot
  · rw [listens]
    exact log.submit (receiveTransfer dali) rfl rfl rfl rfl (.inr ⟨rfl, rfl⟩)
  · rw [sends]
    exact log.submit (sendTransferOf transaction dali) rfl rfl rfl rfl (.inl rfl)

section Cancel

variable [DecidableEq α]

/-- Reports make neither submissions nor cancellations. -/
theorem CancelLog.report {dali : UsbDali α} (log : CancelLog dali) (args : List (Option α))
    (report : Report) : CancelLog (afterReport args report dali) := by
  have frame := afterReport_frame args report dali
  refine log.congr frame.context (.inl frame.recv) ?_ ?_
  all_goals
    intros
    cases report with
    | silent => exact Iff.rfl
    | broadcast error frame status => simp [afterReport, cancelAll_eq, UsbDali.log]
    | finished error frame response status =>
      cases active : dali.transaction <;> simp [afterReport, active, cancelAll_eq, UsbDali.log]

/-- One event keeps the log in order. -/
theorem CancelLog.step {dali : UsbDali α} (sound : UsbSound dali) (log : CancelLog dali)
    (event : UsbEvent α) : CancelLog (usbStep dali event) := by
  -- Queueing and completing reach the bus through the scheduler alone.
  cases event with
  | queue frame cbarg memory submit =>
    simp only [usbStep, usbdaliQueue_eq]
    split
    · refine CancelLog.next ?_ submit
      exact log.congr rfl (.inl rfl) (by simp [enqueued]) (by simp [enqueued])
    · exact log.congr rfl (.inl rfl) (by simp) (by simp)
  | cancel arg =>
    simp only [usbStep, usbdaliCancel_eq, cancelAll_eq]
    exact log.congr rfl (.inl rfl) (fun _ _ _ => Iff.rfl) (fun _ => Iff.rfl)
  | complete completion args =>
    rcases sound.complete completion args with ⟨_, same⟩ | ⟨transfer, member, _, done⟩
    · rwa [same]
    · rw [done]
      apply CancelLog.next
      have reported := (log.retire transfer).report args (transferReport dali transfer completion)
      cases transfer.endpoint
      · exact reported.congr rfl (.inr rfl) (fun _ _ _ => Iff.rfl) (fun _ => Iff.rfl)
      · exact reported.congr rfl (.inl rfl) (fun _ _ _ => Iff.rfl) (fun _ => Iff.rfl)

/-- The log is in order after every session. -/
theorem cancelLog_run (submit : Int) (events : List (UsbEvent α)) :
    CancelLog (run usbStep (usbStart submit) events) := by
  -- The log starts empty, and its step lemma needs the session to be sound.
  have blank : CancelLog (usbdaliNew : UsbDali α) := by
    refine ⟨?_, ?_, ?_, ?_, ?_, ?_⟩ <;> simp [usbdaliNew]
  have start : CancelLog (usbStart submit : UsbDali α) :=
    (blank.next submit).congr rfl (.inl rfl) (fun _ _ _ => Iff.rfl) (fun _ => Iff.rfl)
  have step : ∀ (dali : UsbDali α) event, UsbSound dali ∧ CancelLog dali →
      UsbSound (usbStep dali event) ∧ CancelLog (usbStep dali event) :=
    fun _ event good => ⟨good.1.step event, good.2.step good.1 event⟩
  exact (run_invariant step ⟨usbSound_start submit, start⟩ events).2

/--
Cancellation of the idle receive is exact.

While submissions succeed, the receive on record has been asked to stop exactly if requests wait
although no transaction is active, and a send never is.
A transfer that may complete as cancelled therefore never belongs to an active transaction.
-/
theorem idle_receive_cancellation_exact (events : List (UsbEvent α))
    (submits : ∀ event ∈ events, event.submit = 0) :
    let dali := run usbStep (usbStart 0) events
    ((∃ id, dali.recvTransfer = some id ∧ .cancelled id ∈ dali.trace) ↔
        dali.recvTransfer ≠ none ∧ dali.transaction = none ∧ dali.queue ≠ []) ∧
      (∀ transfer owner code, .submitted transfer owner code ∈ dali.trace →
        transfer.endpoint = .output → .cancelled transfer.id ∉ dali.trace) ∧
      (∀ transfer ∈ dali.context.inflight, .cancelled transfer.id ∈ dali.trace →
        dali.transaction = none) ∧
      (dali.queue ≠ [] → dali.transaction = none → ∀ id, dali.recvTransfer = some id →
        .cancelled id ∈ dali.trace) := by
  intro dali
  have coherent : Coherent dali := (usbSound_run 0 events).coherent
  have log : CancelLog dali := cancelLog_run 0 events
  have held : Held dali := held_run submits
  -- The receive on record is the transfer in flight, whose mark is exact.
  have exact_ : ∀ id, dali.recvTransfer = some id →
      (.cancelled id ∈ dali.trace ↔ dali.transaction = none ∧ dali.queue ≠ []) := by
    intro id slot
    have unwedged : Unwedged dali :=
      (coherent.unwedged_iff (answerable_run 0 events).none).mpr held
    obtain ⟨transfer, member, rfl, input⟩ := unwedged.recv id slot
    rw [← log.marked transfer member, coherent.asked transfer member]
    simp [input]
  refine ⟨⟨?_, ?_⟩, ?_, ?_, ?_⟩
  · rintro ⟨id, slot, stopped⟩
    exact ⟨by simp [slot], (exact_ id slot).mp stopped⟩
  · rintro ⟨listening, idle⟩
    obtain ⟨id, slot⟩ := Option.ne_none_iff_exists'.mp listening
    exact ⟨id, slot, (exact_ id slot).mpr idle⟩
  · intro transfer owner code submitted output stopped
    have input := log.receives transfer.id stopped transfer owner code submitted rfl
    rw [output] at input
    cases input
  · intro transfer member stopped
    exact ((coherent.asked transfer member).mp ((log.marked transfer member).mpr stopped)).2.1
  · exact fun waiting idle id slot => (exact_ id slot).mpr ⟨idle, waiting⟩

/-- A request that arrives while the device listens makes it ask the receive to stop. -/
theorem idle_receive_cancellation_exact_waiting :
    let events : List (UsbEvent Nat) := [.queue (daliframeNew 0x01 0x05) (some 7) true 0]
    (∀ event ∈ events, event.submit = 0) ∧
      ∃ id, (run usbStep (usbStart 0) events).recvTransfer = some id ∧
        .cancelled id ∈ (run usbStep (usbStart 0) events).trace := by
  intro events
  have submits : ∀ event ∈ events, event.submit = 0 := by decide
  exact ⟨submits, (idle_receive_cancellation_exact events submits).1.mpr
    ⟨by decide, by decide, by decide⟩⟩

end Cancel

end Daliserver

import Daliserver.Usb.Transfers

/-! No answer of the adapter is ever taken for the answer to another request. -/

namespace Daliserver

open Machine

variable {α : Type}

/-- An event of a session in which it is known which request a packet answers, if any. -/
structure AdapterEvent (α : Type) where
  event : UsbEvent α
  -- Requests are named by the turn in which they were sent, counted from zero.
  answers : Option Nat
deriving DecidableEq, Repr

/-- The packet that an event delivers: the payload of a receive that was completed. -/
def UsbEvent.packet (dali : UsbDali α) : UsbEvent α → Option Bytes
  | .complete completion _ =>
    match dali.context.inflight.find? (·.id = completion.transfer) with
    | some transfer =>
      if transfer.endpoint = .input ∧ completion.status = .completed then some completion.received
      else none
    | none => none
  -- Neither a request nor a cancellation brings anything from the adapter.
  | _ => none

/--
What an adapter may deliver that answers in its own time, repeatedly, or never.

An answer echoes the sequence byte of a request that was sent, and it arrives before 256 further
requests have been sent. Everything else is anything but an answer.
-/
def Permitted (dali : UsbDali α) (happening : AdapterEvent α) : Prop :=
  match happening.event.packet dali, happening.answers with
  | none, _ => True
  -- A packet that is too short to be decoded is no answer either, whatever it starts with.
  | some packet, none => 9 ≤ packet.length → packet.getD 0 0 ≠ directionUsb
  | some packet, some turn =>
    packet.getD 0 0 = directionUsb ∧
      (submittedPackets dali.trace)[turn]?.map (·.2.getD 1 0) = some (packet.getD 8 0) ∧
      (submittedPackets dali.trace).length - (turn + 1) < 256

/-- A packet ends a transaction only if it carries the number of the active one. -/
theorem packetReport_finished {active : Option (UsbDaliTransaction α)} {received : Bytes}
    {error : UsbDaliError} {frame : Option DaliFrame} {response status : Nat}
    (report : packetReport active received = .finished error frame response status) :
    ∃ transaction, active = some transaction ∧ 9 ≤ received.length ∧
      received.getD 0 0 = directionUsb ∧ transaction.seqNum = (received.getD 8 0).toNat ∧
      frame = some (daliframeNew (received.getD 4 0) (received.getD 5 0)) ∧
      (error = .success ∧ response = 0xff ∨
        error = .response ∧ response = (received.getD 5 0).toNat) := by
  simp only [packetReport, unpackIn_eq] at report
  by_cases short : received.length < 9
  · simp [short] at report
  · -- The bus-side branches never end a transaction, which leaves the two types of answers.
    simp only [short, if_false] at report
    grind

/-- A packet that concerns a request is never broadcast. -/
theorem packetReport_broadcast {active : Option (UsbDaliTransaction α)} {received : Bytes}
    {error : UsbDaliError} {frame : Option DaliFrame} {status : Nat}
    (report : packetReport active received = .broadcast error frame status) :
    received.getD 0 0 ≠ directionUsb := by
  -- Broadcasts are made for packets from the bus, whose direction byte differs.
  simp only [packetReport, unpackIn_eq] at report
  by_cases short : received.length < 9
  · simp [short] at report
  · simp only [short, if_false] at report
    have other : directionDali ≠ directionUsb := by decide
    grind

/-- Without a packet, the only reports are errors. -/
theorem transferReport_error {dali : UsbDali α} {transfer : Transfer} {completion : Completion}
    {error : UsbDaliError} {frame : Option DaliFrame} {response status : Nat}
    (undelivered : ¬ (transfer.endpoint = .input ∧ completion.status = .completed))
    (report : transferReport dali transfer completion = .finished error frame response status) :
    error ≠ .success ∧ error ≠ .response := by
  unfold transferReport receiveReport sendReport at report
  -- A receive that was completed is excluded, so every other branch names its own error.
  cases direction : transfer.endpoint with
  | input =>
    cases outcome : completion.status <;> simp only [direction, outcome] at report undelivered
    · simp at undelivered
    all_goals grind
  | output =>
    cases outcome : completion.status <;> simp only [direction, outcome] at report
    all_goals grind

/-- The request sent last is the active one, as long as one is active. -/
theorem Ledger.last_packet {dali : UsbDali α} (ledger : Ledger dali)
    {transaction : UsbDaliTransaction α} (active : dali.transaction = some transaction)
    {turn : Nat} (last : turn + 1 = (submittedPackets dali.trace).length) :
    ∃ sent, (submittedPackets dali.trace)[turn]? = some (some transaction.id, sent) := by
  -- The active request is the last that has started, and packets follow the started requests.
  have begun : (fifoOf dali).started = reportedRequests dali.trace ++ [transaction.key] := by
    simp [Fifo.started, fifoOf, active]
  rw [ledger.packets, List.length_mapIdx, begun, List.length_append, List.length_singleton] at last
  have position : turn = (reportedRequests dali.trace).length := by omega
  refine ⟨outPacket ((turn + 1) % 256) transaction.request, ?_⟩
  rw [ledger.packets, List.getElem?_mapIdx, begun, position]
  simp [packetOf, UsbDaliTransaction.key]

/-- An answer whose number matches the active transaction was meant for it. -/
theorem Ledger.answer_owner {dali : UsbDali α} (ledger : Ledger dali)
    {transaction : UsbDaliTransaction α} (active : dali.transaction = some transaction)
    {turn : Nat} {number : UInt8} (echoed : (submittedPackets dali.trace)[turn]?.map
      (·.2.getD 1 0) = some number)
    (recent : (submittedPackets dali.trace).length - (turn + 1) < 256)
    (matched : transaction.seqNum = number.toNat) :
    ∃ sent, (submittedPackets dali.trace)[turn]? = some (some transaction.id, sent) := by
  -- Both numbers count turns modulo 256, and the turns are less than 256 apart.
  have stamp := ledger.stamped transaction active
  have count : (submittedPackets dali.trace).length = (fifoOf dali).started.length := by
    rw [ledger.packets, List.length_mapIdx]
  obtain ⟨⟨owner, sent⟩, found, byte⟩ := Option.map_eq_some_iff.mp echoed
  have bound := (List.getElem?_eq_some_iff.mp found).1
  rw [ledger.packets, List.getElem?_mapIdx, Option.map_eq_some_iff] at found
  obtain ⟨request, _, packet⟩ := found
  have low : number.toNat = (turn + 1) % 256 := by
    rw [← byte, ← congrArg Prod.snd packet]
    simp [packetOf, outPacket]
  exact ledger.last_packet active (by omega)

/-- A permitted packet that ends the active transaction answers it. -/
theorem Ledger.permitted_owner {dali : UsbDali α} (ledger : Ledger dali)
    {happening : AdapterEvent α} (permitted : Permitted dali happening) {packet : Bytes}
    (delivered : happening.event.packet dali = some packet) {error : UsbDaliError}
    {frame : Option DaliFrame} {response status : Nat}
    (report : packetReport dali.transaction packet = .finished error frame response status) :
    ∃ transaction turn sent, dali.transaction = some transaction ∧
      happening.answers = some turn ∧
      (submittedPackets dali.trace)[turn]? = some (some transaction.id, sent) := by
  -- A packet that finishes a request is an answer, so the adapter names the packet it answers.
  obtain ⟨transaction, active, long, usb, matched, _⟩ := packetReport_finished report
  cases origin : happening.answers with
  | none =>
    simp only [Permitted, delivered, origin] at permitted
    exact absurd usb (permitted long)
  | some turn =>
    simp only [Permitted, delivered, origin] at permitted
    obtain ⟨sent, owned⟩ := ledger.answer_owner active permitted.2.1 permitted.2.2 matched
    exact ⟨transaction, turn, sent, active, rfl, owned⟩

/-- Deciding what to do next is never a report. -/
theorem usbdaliNext_trace (submit : Int) (dali : UsbDali α) :
    ∃ effects, (usbdaliNext submit dali).trace = dali.trace ++ effects ∧
      reportedRequests effects = [] := by
  -- Scheduling submits and cancels and reports to nobody.
  rcases usbdaliNext_cases submit dali with same | ⟨transfer, _, stops⟩ | listens |
    ⟨transaction, rest, _, _, sends⟩
  · exact ⟨[], by simp [same], rfl⟩
  · exact ⟨[.cancelled transfer], by rw [stops]; rfl, rfl⟩
  · exact ⟨_, by rw [listens]; rfl, rfl⟩
  · exact ⟨_, by rw [sends]; rfl, rfl⟩

/-- An active transaction is still active after the next step has been decided. -/
theorem usbdaliNext_active (submit : Int) (dali : UsbDali α)
    {transaction : UsbDaliTransaction α} (active : dali.transaction = some transaction) :
    (usbdaliNext submit dali).transaction = some transaction := by
  -- Sending needs the place of the active transaction to be free.
  rcases usbdaliNext_cases submit dali with same | ⟨transfer, _, stops⟩ | listens |
    ⟨_, _, free, _, _⟩
  · rwa [same]
  · rw [stops]; exact active
  · rw [listens]; exact active
  · rw [free] at active; cases active

/-- Effects without a reported request contain no call of `req_callback`. -/
theorem not_mem_of_unreported {effects : List (UsbEffect α)}
    (unreported : reportedRequests effects = []) (transaction : UsbDaliTransaction α)
    (error : UsbDaliError) (frame : DaliFrame) (response status : Nat) :
    .reqCallback transaction error frame response status ∉ effects := by
  intro member
  have listed : transaction.key ∈ reportedRequests effects :=
    List.mem_filterMap.mpr ⟨_, member, rfl⟩
  rw [unreported] at listed
  cases listed

section Cancel

variable [DecidableEq α]

/-- Handles one event, for which its cause does not matter. -/
def adapterStep (dali : UsbDali α) (happening : AdapterEvent α) : UsbDali α :=
  usbStep dali happening.event

/-- What a report adds to the trace. -/
def reportEffects (report : Report) (dali : UsbDali α) : List (UsbEffect α) :=
  match report with
  | .silent => []
  | .broadcast error frame status => [.bcastCallback error frame status dali.bcastArg]
  | .finished error frame response status =>
    match dali.transaction with
    | none => [.fault .nullTransaction]
    | some transaction =>
      [.reqCallback transaction error (frame.getD transaction.request) response status]

/-- The trace grows by what is reported and by nothing else. -/
theorem afterReport_trace (args : List (Option α)) (report : Report) (dali : UsbDali α) :
    (afterReport args report dali).trace = dali.trace ++ reportEffects report dali := by
  cases report with
  | silent => simp [afterReport, reportEffects]
  | broadcast error frame status => simp [afterReport, reportEffects, cancelAll_eq]
  | finished error frame response status =>
    cases active : dali.transaction <;>
      simp [afterReport, reportEffects, active, cancelAll_eq]

/-- A completion adds its report to the trace, and then no further one. -/
theorem completed_trace (args : List (Option α)) (transfer : Transfer) (completion : Completion)
    (dali : UsbDali α) :
    ∃ effects, (completed args transfer completion dali).trace = dali.trace ++
        (reportEffects (transferReport dali transfer completion) dali ++ effects) ∧
      reportedRequests effects = [] := by
  -- The report comes first, and scheduling follows without another report.
  have reported := afterReport_trace args (transferReport dali transfer completion)
    (retire transfer dali)
  obtain ⟨effects, next, unreported⟩ := usbdaliNext_trace completion.submit
    (clearSlot transfer.endpoint (afterReport args (transferReport dali transfer completion)
      (retire transfer dali)))
  refine ⟨effects, ?_, unreported⟩
  have cleared : ∀ endpoint (other : UsbDali α), (clearSlot endpoint other).trace = other.trace := by
    intro endpoint other
    cases endpoint <;> rfl
  rw [completed, next, cleared, reported, List.append_assoc]
  rfl

/-- An event that delivers a packet is the completion of a receive that is in flight. -/
theorem UsbSound.packet_step {dali : UsbDali α} (sound : UsbSound dali) {event : UsbEvent α}
    {packet : Bytes} (delivered : event.packet dali = some packet) :
    ∃ completion args transfer, event = .complete completion args ∧
      usbStep dali event = completed args transfer completion dali ∧
      transferReport dali transfer completion = packetReport dali.transaction packet := by
  cases event with
  | queue frame cbarg memory submit => cases delivered
  | cancel arg => cases delivered
  | complete completion args =>
    simp only [UsbEvent.packet] at delivered
    cases held : dali.context.inflight.find? (·.id = completion.transfer) with
    | none => simp [held] at delivered
    | some transfer =>
      simp only [held, Option.ite_none_right_eq_some, Option.some.injEq] at delivered
      obtain ⟨⟨input, full⟩, rfl⟩ := delivered
      refine ⟨completion, args, transfer, rfl, sound.usbStep_held held args, ?_⟩
      simp [transferReport, input, receiveReport, full]

/-- Every call of `req_callback` is for the active transaction and has a packet or an error to it. -/
theorem UsbSound.step_effects {dali : UsbDali α} (sound : UsbSound dali) (event : UsbEvent α) :
    ∃ effects, (usbStep dali event).trace = dali.trace ++ effects ∧
      ∀ transaction error frame response status,
        .reqCallback transaction error frame response status ∈ effects →
        dali.transaction = some transaction ∧
          ((∃ packet, event.packet dali = some packet ∧
              packetReport dali.transaction packet =
                .finished error (some frame) response status) ∨
            event.packet dali = none ∧ error ≠ .success ∧ error ≠ .response) := by
  cases event with
  | queue frame cbarg memory submit =>
    simp only [usbStep, usbdaliQueue_eq]
    split
    · obtain ⟨effects, next, unreported⟩ := usbdaliNext_trace submit (enqueued frame cbarg dali)
      refine ⟨.accepted (newTransaction frame cbarg dali) :: effects,
        by rw [next]; simp [enqueued], ?_⟩
      intro transaction error reported response status member
      rcases List.mem_cons.mp member with first | later
      · cases first
      · exact absurd later (not_mem_of_unreported unreported _ _ _ _ _)
    · exact ⟨[.rejected frame .queueFull], rfl, by simp⟩
  | cancel arg => exact ⟨[], by simp [usbStep, usbdaliCancel_eq, cancelAll_eq], by simp⟩
  | complete completion args =>
    cases held : dali.context.inflight.find? (·.id = completion.transfer) with
    | none => exact ⟨[], by simp [usbStep, libusbComplete, held], by simp⟩
    | some transfer =>
      rw [sound.usbStep_held held args]
      obtain ⟨effects, grown, unreported⟩ := completed_trace args transfer completion dali
      refine ⟨_, grown, ?_⟩
      intro transaction error frame response status called
      rcases List.mem_append.mp called with reported | later
      · -- The only report that calls back for a request is one that ends the active transaction.
        cases report : transferReport dali transfer completion with
        | silent => simp [report, reportEffects] at reported
        | broadcast error frame status => simp [report, reportEffects] at reported
        | finished kind answer value code =>
          cases active : dali.transaction with
          | none => simp [report, reportEffects, active] at reported
          | some current =>
            simp only [report, reportEffects, active, List.mem_singleton,
              UsbEffect.reqCallback.injEq] at reported
            obtain ⟨rfl, rfl, named, rfl, rfl⟩ := reported
            refine ⟨rfl, ?_⟩
            by_cases delivered : transfer.endpoint = .input ∧ completion.status = .completed
            · refine .inl ⟨completion.received, by simp [UsbEvent.packet, held, delivered], ?_⟩
              have decided : packetReport dali.transaction completion.received =
                  .finished error answer response status := by
                simpa [transferReport, receiveReport, delivered] using report
              obtain ⟨_, _, _, _, _, echoed, _⟩ := packetReport_finished decided
              rw [active, echoed] at decided
              rw [decided, named, echoed]
              rfl
            · refine .inr ⟨by simp [UsbEvent.packet, held, delivered], ?_⟩
              exact transferReport_error delivered report
      · exact absurd later (not_mem_of_unreported unreported _ _ _ _ _)

/-- A packet that means nothing leaves the active transaction as it was. -/
theorem UsbSound.step_silent {dali : UsbDali α} (sound : UsbSound dali) {event : UsbEvent α}
    {packet : Bytes} (delivered : event.packet dali = some packet)
    (silent : packetReport dali.transaction packet = .silent)
    {transaction : UsbDaliTransaction α} (active : dali.transaction = some transaction) :
    (usbStep dali event).transaction = some transaction := by
  -- Without a report the transaction stays active through the scheduling.
  obtain ⟨completion, args, transfer, _, step, report⟩ := sound.packet_step delivered
  rw [step, completed, report, silent]
  apply usbdaliNext_active _ _
  cases transfer.endpoint <;> exact active

/--
Answers reach their own request.

Whenever a request is reported as executed, the packet that caused it is an answer to that
request. The response passed on is byte 5 of the packet if it brings one, and 0xff if it says
that nothing answered on the bus.
Answers to a request that was reported before are ignored.
-/
theorem answers_reach_their_own_request (submit : Int) (happenings past : List (AdapterEvent α))
    (next : AdapterEvent α) (rest : List (AdapterEvent α))
    (split : happenings = past ++ next :: rest)
    (permitted : StepsMeet adapterStep Permitted (usbStart submit) happenings) :
    let dali := run adapterStep (usbStart submit) past
    ∃ effects, (adapterStep dali next).trace = dali.trace ++ effects ∧
      (∀ transaction error frame response status,
        .reqCallback transaction error frame response status ∈ effects →
        error = .success ∨ error = .response →
        ∃ turn packet sent, next.answers = some turn ∧ next.event.packet dali = some packet ∧
          (submittedPackets dali.trace)[turn]? = some (some transaction.id, sent) ∧
          response = if error = .response then (packet.getD 5 0).toNat else 0xff) ∧
      (∀ turn packet id sent, next.answers = some turn → next.event.packet dali = some packet →
        (submittedPackets dali.trace)[turn]? = some (some id, sent) →
        id ∈ (reportedRequests dali.trace).map Prod.fst →
        (∀ transaction error frame response status,
          .reqCallback transaction error frame response status ∉ effects) ∧
        ∀ transaction, dali.transaction = some transaction →
          (adapterStep dali next).transaction = some transaction) := by
  intro dali
  have sound : UsbSound dali := by
    have same : dali = run usbStep (usbStart submit) (past.map (·.event)) := by
      simp only [dali, run, List.foldl_map]
      rfl
    rw [same]
    exact usbSound_run submit _
  have legal : Permitted dali next := by
    rw [split] at permitted
    exact permitted.middle
  obtain ⟨effects, grown, called⟩ := sound.step_effects next.event
  refine ⟨effects, grown, ?_, ?_⟩
  · intro transaction error frame response status member executed
    obtain ⟨active, ⟨packet, delivered, report⟩ | ⟨_, notSuccess, notResponse⟩⟩ :=
      called _ _ _ _ _ member
    · obtain ⟨current, turn, sent, held, origin, owned⟩ :=
        sound.ledger.permitted_owner legal delivered report
      rw [active, Option.some.injEq] at held
      subst held
      refine ⟨turn, packet, sent, origin, delivered, owned, ?_⟩
      obtain ⟨_, _, _, _, _, _, ⟨rfl, value⟩ | ⟨rfl, value⟩⟩ := packetReport_finished report
      · simpa using value
      · simpa using value
    · exact absurd executed (by simp [notSuccess, notResponse])
  · intro turn packet id sent origin delivered owned reported
    -- The answered request was released, so it cannot be the one that is active now.
    have unfinished : ∀ error frame response status,
        packetReport dali.transaction packet ≠ .finished error frame response status := by
      intro error frame response status report
      obtain ⟨current, turn', sent', active, origin', owned'⟩ :=
        sound.ledger.permitted_owner legal delivered report
      rw [origin, Option.some.injEq] at origin'
      subst origin'
      rw [owned, Option.some.injEq, Prod.mk.injEq, Option.some.injEq] at owned'
      apply sound.ledger.activeAlive current active
      rw [sound.ledger.freed, ← owned'.1]
      exact reported
    refine ⟨?_, ?_⟩
    · intro transaction error frame response status member
      obtain ⟨_, ⟨packet', delivered', report⟩ | ⟨missing, _⟩⟩ := called _ _ _ _ _ member
      · rw [delivered, Option.some.injEq] at delivered'
        subst delivered'
        exact unfinished _ _ _ _ report
      · rw [delivered] at missing
        cases missing
    · intro transaction active
      refine sound.step_silent delivered ?_ active
      cases report : packetReport dali.transaction packet with
      | silent => rfl
      | broadcast error frame status =>
        simp only [Permitted, delivered, origin] at legal
        exact absurd legal.1 (packetReport_broadcast report)
      | finished error frame response status => exact absurd report (unfinished _ _ _ _)

/-- A session of the kind above: a request is sent, times out, and is answered too late. -/
def lateAnswer : List (AdapterEvent Nat) :=
  [⟨.queue (daliframeNew 0x01 0x05) (some 7) true 0, none⟩,
    ⟨.queue (daliframeNew 0x02 0x90) (some 8) true 0, none⟩,
    ⟨.complete ⟨0, .cancelled, [], 0⟩ [], none⟩,
    ⟨.complete ⟨1, .completed, [], 0⟩ [], none⟩,
    ⟨.complete ⟨2, .timedOut, [], 0⟩ [], none⟩,
    ⟨.complete ⟨3, .completed, [], 0⟩ [], none⟩,
    ⟨.complete ⟨4, .completed, [0x12, 0x72, 0, 0, 0, 0x2a, 0, 0, 1], 0⟩ [], some 0⟩]

/-- The late answer is ignored, and the second request stays active. -/
theorem answers_reach_their_own_request_late :
    StepsMeet adapterStep Permitted (usbStart 0) lateAnswer ∧
      ((run adapterStep (usbStart 0) lateAnswer).transaction.map (·.id)) = some 1 ∧
      ∃ effects, (run adapterStep (usbStart 0) lateAnswer).trace =
          (run adapterStep (usbStart 0) (lateAnswer.take 6)).trace ++ effects ∧
        ∀ transaction error frame response status,
          .reqCallback transaction error frame response status ∉ effects := by
  have permitted : StepsMeet adapterStep Permitted (usbStart 0) lateAnswer :=
    ⟨trivial, trivial, trivial, trivial, trivial, trivial, ⟨rfl, by decide, by decide⟩, trivial⟩
  obtain ⟨effects, grown, _, ignored⟩ := answers_reach_their_own_request 0 lateAnswer
    (lateAnswer.take 6) ⟨.complete ⟨4, .completed, [0x12, 0x72, 0, 0, 0, 0x2a, 0, 0, 1], 0⟩ [],
      some 0⟩ [] rfl permitted
  exact ⟨permitted, by decide, effects, grown,
    (ignored 0 _ 0 (outPacket 1 (daliframeNew 0x01 0x05)) rfl rfl (by decide) (by decide)).1⟩

/-- A request that was executed without a response is not reported with byte 5 of the packet. -/
theorem no_response_is_not_byte_five :
    ¬ ∀ (happenings : List (AdapterEvent Nat)) (next : AdapterEvent Nat),
      StepsMeet adapterStep Permitted (usbStart 0) (happenings ++ [next]) →
      let dali := run adapterStep (usbStart 0) happenings
      ∀ effects, (adapterStep dali next).trace = dali.trace ++ effects →
        ∀ transaction error frame response status,
          .reqCallback transaction error frame response status ∈ effects →
          error = .success ∨ error = .response →
          ∃ packet, next.event.packet dali = some packet ∧
            response = (packet.getD 5 0).toNat := by
  intro always
  obtain ⟨packet, delivered, value⟩ := always
    [⟨.queue (daliframeNew 0x01 0x05) (some 7) true 0, none⟩,
      ⟨.complete ⟨0, .cancelled, [], 0⟩ [], none⟩, ⟨.complete ⟨1, .completed, [], 0⟩ [], none⟩]
    ⟨.complete ⟨2, .completed, [0x12, 0x71, 0, 0, 0x01, 0x05, 0, 0, 1], 0⟩ [], some 0⟩
    ⟨trivial, trivial, trivial, ⟨rfl, by decide, by decide⟩, trivial⟩
    [.reqCallback ⟨0, 1, daliframeNew 0x01 0x05, some 7⟩ .success (daliframeNew 0x01 0x05) 0xff 0,
      .submitted ⟨3, .input, List.replicate 64 0, false⟩ none 0]
    (by decide) _ _ _ _ _ (List.mem_cons_self ..) (.inl rfl)
  cases delivered
  cases value

end Cancel

end Daliserver

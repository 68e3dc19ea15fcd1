import Daliserver.Main.Loop

/-! What becomes of a timeout of libusb that passes while the program waits in `poll`. -/

namespace Daliserver

open Machine

/-- Whether `poll` has timed out and libusb has not handled its events since. -/
def expired (log : List LoopAction) : Bool :=
  log.foldl (fun before action => match action with
    | .timedOut => true
    | .handledEvents => false
    -- Waiting again does not make up for it.
    | .polled _ => before) false

/-- The loop never waits again before an expired timeout has been processed. -/
def TimeoutsActedOn (log : List LoopAction) : Prop :=
  ∀ before timeout after, log = before ++ .polled timeout :: after → expired before = false

/-- While an expired timeout is left unprocessed, the test of the flag ends the loop. -/
def StopsExpired (loop : MainLoop) (event : LoopEvent) : Prop :=
  ∀ answers, event = .proceed answers → loop.point = .test → expired loop.log = true →
    loop.running = false

/-- Whether the loop is on its way into `poll`, or was killed where it may have been. -/
def Point.undecided : Point → Bool
  | .getTimeout | .entering _ | .killed => true
  | _ => false

/-- The event lets `poll` return because its time is over. -/
def TimesOut (loop : MainLoop) (event : LoopEvent) : Prop :=
  ∃ timeout answers, loop.point = .polling timeout ∧ event = .proceed answers ∧
    answers.outcome = .timedOut ∧ loop.canEnd timeout .timedOut = true

@[simp] theorem expired_handledEvents (log : List LoopAction) :
    expired (log ++ [.handledEvents]) = false := by
  simp [expired]

@[simp] theorem expired_polled (log : List LoopAction) (timeout : Int) :
    expired (log ++ [.polled timeout]) = expired log := by
  simp [expired]

/-- One more action is fine, unless it is a call of `poll` before a timeout was processed. -/
theorem timeoutsActedOn_concat {log : List LoopAction} {action : LoopAction} :
    TimeoutsActedOn (log ++ [action]) ↔
      TimeoutsActedOn log ∧ ∀ timeout, action = .polled timeout → expired log = false := by
  -- A call of `poll` in the longer log is the last action or one of those before.
  constructor
  · intro acted
    refine ⟨fun before limit after split => ?_, fun timeout calls => ?_⟩
    · exact acted before limit (after ++ [action]) (by simp [split])
    · exact acted log timeout [] (by rw [calls])
  · rintro ⟨acted, processed⟩ before limit after split
    rcases split_concat split with ⟨rfl, same, rfl⟩ | ⟨middle, rfl, rfl⟩
    · exact processed limit same.symm
    · exact acted before limit middle rfl

/-- The expired timeouts were all processed, or the loop is outside of `dispatch_run`. -/
structure Attentive (loop : MainLoop) : Prop where
  acted : TimeoutsActedOn loop.log
  outside : expired loop.log = true →
    loop.point = .test ∨ loop.point = .ended ∨ loop.point = .killed

/-- Inside of `dispatch_run`, and on the way there, the expired timeouts were processed. -/
theorem Attentive.processed {loop : MainLoop} (attentive : Attentive loop)
    (inside : loop.point ≠ .test ∧ loop.point ≠ .ended ∧ loop.point ≠ .killed) :
    expired loop.log = false := by
  cases open_ : expired loop.log with
  | false => rfl
  | true =>
    obtain ⟨tested, ended, killed⟩ := inside
    rcases attentive.outside open_ with here | here | here
    · exact absurd here tested
    · exact absurd here ended
    · exact absurd here killed

/-- One step keeps it so, if the loop is not entered again before an expired timeout. -/
theorem Attentive.step {broadcaster : Broadcaster} {loop : MainLoop} (attentive : Attentive loop)
    {event : LoopEvent} (stops : StopsExpired loop event) :
    Attentive (mainStep broadcaster loop event) := by
  have moved := mainStep_moves broadcaster loop event
  generalize mainStep broadcaster loop event = next at moved
  have acted := attentive.acted
  -- Where all timeouts were processed, a step that leaves the log alone changes nothing.
  have unchanged : ∀ {after : MainLoop}, expired loop.log = false → after.log = loop.log →
      Attentive after := by
    intro after processed same
    refine ⟨same ▸ acted, fun open_ => ?_⟩
    rw [same, processed] at open_
    cases open_
  cases moved with
  | stays => exact attentive
  | stopped => exact ⟨acted, attentive.outside⟩
  | interrupted => exact ⟨acted, fun _ => .inl rfl⟩
  | killed => exact ⟨acted, fun _ => .inr (.inr rfl)⟩
  | continues answers here flag =>
    -- This is where the condition is needed.
    refine unchanged ?_ rfl
    by_contra open_
    have cleared := stops answers rfl here (by simpa using open_)
    rw [flag] at cleared
    cases cleared
  | ends => exact ⟨acted, fun _ => .inr (.inl rfl)⟩
  | asks answers here => exact unchanged (attentive.processed (by simp [here])) rfl
  | polls answers timeout here =>
    -- The way into `poll` starts behind the test, so nothing is left to be processed.
    have processed := attentive.processed (by simp [here])
    refine ⟨timeoutsActedOn_concat.mpr ⟨acted, fun _ _ => processed⟩, fun open_ => ?_⟩
    have same : expired (loop.log ++ [.polled timeout]) = true := open_
    rw [expired_polled, processed] at same
    cases same
  | fails => exact ⟨acted, fun _ => .inl rfl⟩
  | timesOut answers timeout here outcome possible =>
    refine ⟨timeoutsActedOn_concat.mpr ⟨acted, fun _ calls => ?_⟩, fun _ => .inl rfl⟩
    cases calls
  | reports answers timeout here => exact unchanged (attentive.processed (by simp [here])) rfl
  | visits answers index here killsocket log drained handled =>
    rcases handled with rfl | rfl
    · exact unchanged (attentive.processed (by simp [here])) rfl
    · -- libusb has looked at all timeouts that have expired until then.
      refine ⟨timeoutsActedOn_concat.mpr ⟨acted, fun _ calls => ?_⟩, fun open_ => ?_⟩
      · cases calls
      · have same : expired (loop.log ++ [.handledEvents]) = true := open_
        rw [expired_handledEvents] at same
        cases same
  | returns => exact ⟨acted, fun _ => .inl rfl⟩

/-- What the loop did before stays in its log. -/
theorem Moves.acted {broadcaster : Broadcaster} {loop next : MainLoop} {event : LoopEvent}
    (moved : Moves broadcaster loop event next) (acted : TimeoutsActedOn next.log) :
    TimeoutsActedOn loop.log := by
  cases moved with
  | polls => exact (timeoutsActedOn_concat.mp acted).1
  | timesOut => exact (timeoutsActedOn_concat.mp acted).1
  | visits answers index here killsocket log drained handled =>
    rcases handled with rfl | rfl
    · exact acted
    · exact (timeoutsActedOn_concat.mp acted).1
  | _ => exact acted

/-- The loop has called `poll` before an expired timeout or is on its way there, or was killed. -/
inductive Missed (loop : MainLoop) : Prop where
  | polled (unacted : ¬ TimeoutsActedOn loop.log)
  | asking (open_ : expired loop.log = true) (here : loop.point = .getTimeout)
  | entering (open_ : expired loop.log = true) (timeout : Int)
      (here : loop.point = .entering timeout)
  | killed (here : loop.point = .killed)

/-- Nothing but the second signal keeps the loop from `poll` once the test was passed. -/
theorem Missed.step {loop : MainLoop} (missed : Missed loop) (broadcaster : Broadcaster)
    (event : LoopEvent) : Missed (mainStep broadcaster loop event) := by
  have moved := mainStep_moves broadcaster loop event
  cases missed with
  | polled unacted => exact .polled fun acted => unacted (moved.acted acted)
  | asking open_ here =>
    generalize mainStep broadcaster loop event = next at moved
    cases moved with
    | stays => exact .asking open_ here
    | stopped => exact .asking open_ here
    | killed => exact .killed rfl
    | asks => exact .entering open_ _ rfl
    | _ => simp_all
  | entering open_ timeout here =>
    generalize mainStep broadcaster loop event = next at moved
    cases moved with
    | stays => exact .entering open_ timeout here
    | stopped => exact .entering open_ timeout here
    | killed => exact .killed rfl
    | polls =>
      refine .polled fun acted => ?_
      have processed := (timeoutsActedOn_concat.mp acted).2 _ rfl
      rw [open_] at processed
      cases processed
    | _ => simp_all
  | killed here =>
    refine .killed ?_
    cases event <;> simp [mainStep, mainProceed, here]

/-- A test of the flag that goes on in spite of an expired timeout is noticed in any case. -/
theorem missed_of_test {broadcaster : Broadcaster} {loop : MainLoop} {event : LoopEvent}
    (goes_on : ¬ StopsExpired loop event) : Missed (mainStep broadcaster loop event) := by
  simp only [StopsExpired, not_forall] at goes_on
  obtain ⟨answers, rfl, here, open_, flag⟩ := goes_on
  have going : loop.running = true := by simpa using flag
  refine .asking ?_ ?_ <;> simp [mainStep, mainProceed, here, going, MainLoop.goto, open_]

/-- Before anything has happened, there is no timeout to process. -/
theorem attentive_start (config : Config) : Attentive (mainLoopStart config) := by
  refine ⟨fun before timeout after split => ?_, fun open_ => ?_⟩
  · simp [mainLoopStart] at split
  · cases open_

/-- A timeout is noted in the log, and the loop goes back to the test of the flag. -/
structure NotesTimeout (before after : MainLoop) : Prop where
  -- `dispatch_run` returns, and its result is not looked at any further.
  point : after.point = .test
  running : after.running = before.running
  usb : after.usb = before.usb
  killsocket : after.killsocket = before.killsocket
  device : after.world.1 = before.world.1
  log : after.log = before.log ++ [.timedOut]

/-- This is all that happens when `poll` times out. -/
theorem TimesOut.notes {loop : MainLoop} {event : LoopEvent} (timesOut : TimesOut loop event)
    (broadcaster : Broadcaster) : NotesTimeout loop (mainStep broadcaster loop event) := by
  obtain ⟨timeout, answers, here, rfl, outcome, possible⟩ := timesOut
  simp only [mainStep, mainProceed, here, outcome, possible, if_true]
  exact ⟨rfl, rfl, rfl, rfl, rfl, rfl⟩

/-- From the test of the flag on, the loop gets into `poll` again without doing anything else. -/
theorem polls_again (broadcaster : Broadcaster) {loop : MainLoop} (here : loop.point = .test)
    (flag : loop.running = true) (answers : LoopAnswers) :
    run (mainStep broadcaster) loop (List.replicate 3 (.proceed answers)) =
      (loop.did (.polled (usbdaliGetTimeout loop.usb answers.next))).goto
        (.polling (usbdaliGetTimeout loop.usb answers.next)) := by
  simp [List.replicate_succ, mainStep, mainProceed, here, flag, MainLoop.goto, MainLoop.did]

/-- A loop that was told to end does nothing more at the test of the flag. -/
theorem log_of_cleared (broadcaster : Broadcaster) {loop : MainLoop} (flag : loop.running = false)
    (here : loop.point = .test ∨ loop.point = .ended ∨ loop.point = .killed)
    (later : List LoopEvent) : (run (mainStep broadcaster) loop later).log = loop.log := by
  -- The loop ends or is killed, and it never gets past the test.
  induction later generalizing loop with
  | nil => rfl
  | cons event rest ih =>
    have moved := mainStep_moves broadcaster loop event
    rw [run_cons]
    generalize mainStep broadcaster loop event = next at moved
    cases moved with
    | stays => exact ih flag here
    | stopped set => rw [flag] at set; cases set
    | interrupted set => rw [flag] at set; cases set
    | killed => exact @ih (loop.goto .killed) flag (.inr (.inr rfl))
    | continues answers there set => rw [flag] at set; cases set
    | ends => exact @ih (loop.goto .ended) flag (.inr (.inl rfl))
    | asks answers there => simp [there] at here
    | polls answers timeout there => simp [there] at here
    | fails answers timeout there => simp [there] at here
    | timesOut answers timeout there => simp [there] at here
    | reports answers timeout there => simp [there] at here
    | visits answers index there => simp [there] at here
    | returns answers index there => simp [there] at here

/-- What the loop makes of a timeout depends on whether it was told to end before. -/
theorem TimesOut.acted_iff {loop : MainLoop} {event : LoopEvent} (timesOut : TimesOut loop event)
    (broadcaster : Broadcaster) :
    (∀ later, TimeoutsActedOn
        ((run (mainStep broadcaster) loop (event :: later)).log.drop loop.log.length)) ↔
      loop.running = false := by
  have noted := timesOut.notes broadcaster
  constructor
  · intro acted
    cases flag : loop.running with
    | false => rfl
    | true =>
      -- Three steps later the program waits again, and nothing else has happened.
      have again := acted (List.replicate 3 (.proceed calmAnswers))
      rw [run_cons, polls_again broadcaster noted.point (noted.running.trans flag)] at again
      simp only [MainLoop.goto, MainLoop.did, noted.log, List.append_assoc, List.drop_left] at again
      exact absurd (again [.timedOut] _ [] rfl) (by decide)
  · intro flag later
    rw [run_cons, log_of_cleared broadcaster (noted.running.trans flag) (.inl noted.point),
      noted.log, List.drop_left]
    intro before timeout after split
    -- The one action in the log is no call of `poll`.
    simp [List.singleton_eq_append_iff] at split

/--
A timeout that passes in `poll` is acted on exactly if the program was told to end before.

If the loop only ever tests its flag after an expired timeout when that was cleared, no expired
timeout is left unprocessed when `poll` is called; and unless the loop is on its way into `poll`,
there is no other way.
-/
theorem timeout_acted_on_iff (broadcaster : Broadcaster) (config : Config) :
    (∀ events event,
      TimesOut (run (mainStep broadcaster) (mainLoopStart config) events) event →
        let loop := run (mainStep broadcaster) (mainLoopStart config) events
        ((∀ later, TimeoutsActedOn
            ((run (mainStep broadcaster) loop (event :: later)).log.drop loop.log.length)) ↔
          loop.running = false)) ∧
      ∀ events,
        let loop := run (mainStep broadcaster) (mainLoopStart config) events
        (StepsMeet (mainStep broadcaster) StopsExpired (mainLoopStart config) events →
          TimeoutsActedOn loop.log) ∧
        (loop.point.undecided = false → TimeoutsActedOn loop.log →
          StepsMeet (mainStep broadcaster) StopsExpired (mainLoopStart config) events) := by
  refine ⟨fun events event timesOut => timesOut.acted_iff broadcaster, fun events => ⟨?_, ?_⟩⟩
  -- For whole runs, the invariant is carried along by the condition on its steps.
  · intro met
    exact (throughout_of_stepsMeet (fun _ _ attentive stops => attentive.step stops)
      (attentive_start config) met).last.acted
  · intro decided acted
    rcases stepsMeet_or_marked (fun _ _ attentive stops => attentive.step stops)
      (fun _ _ _ goes_on => missed_of_test goes_on)
      (fun _ event missed => missed.step broadcaster event) (attentive_start config) events
      with met | missed
    · exact met
    · cases missed with
      | polled unacted => exact absurd acted unacted
      | asking _ here => simp [here, Point.undecided] at decided
      | entering _ timeout here => simp [here, Point.undecided] at decided
      | killed here => simp [here, Point.undecided] at decided

/-- A poll that times out, with a signal right behind it, before the flag is tested again. -/
def signalBehindTimeout : List LoopEvent :=
  [.proceed calmAnswers, .proceed { calmAnswers with next := some (0, 500000) },
    .proceed calmAnswers, .proceed { calmAnswers with outcome := .timedOut }, .signal,
    .proceed calmAnswers]

/-- A timeout that passes after the signal, or just before it, is the last thing the loop sees. -/
theorem timeout_acted_on_after_signal :
    (let loop := run (mainStep serverBroadcaster) (mainLoopStart plainConfig)
      [.proceed calmAnswers, .signal, .proceed { calmAnswers with next := some (0, 500000) },
        .proceed calmAnswers]
    let event := LoopEvent.proceed { calmAnswers with outcome := .timedOut }
    TimesOut loop event ∧ ∀ later, TimeoutsActedOn
      ((run (mainStep serverBroadcaster) loop (event :: later)).log.drop loop.log.length)) ∧
      (run (mainStep serverBroadcaster) (mainLoopStart plainConfig) signalBehindTimeout).log =
        [.polled 500, .timedOut] ∧
      TimeoutsActedOn
        (run (mainStep serverBroadcaster) (mainLoopStart plainConfig) signalBehindTimeout).log := by
  refine ⟨?_, by decide +kernel, ?_⟩
  · intro loop event
    have timesOut : TimesOut loop event := by
      refine ⟨500, _, ?_, rfl, rfl, ?_⟩
      · decide +kernel
      · decide +kernel
    refine ⟨timesOut, ?_⟩
    exact ((timeout_acted_on_iff serverBroadcaster plainConfig).1 _ event timesOut).mpr
      (by decide +kernel)
  · refine ((timeout_acted_on_iff serverBroadcaster plainConfig).2 signalBehindTimeout).1 ?_
    -- Up to the poll nothing has expired, and the last test finds the flag cleared.
    refine ⟨?_, ?_, ?_, ?_, ?_, ?_, trivial⟩
    · exact fun _ _ _ open_ => absurd open_ (by decide +kernel)
    · exact fun _ _ _ open_ => absurd open_ (by decide +kernel)
    · exact fun _ _ _ open_ => absurd open_ (by decide +kernel)
    · exact fun _ _ _ open_ => absurd open_ (by decide +kernel)
    · intro answers same
      cases same
    · exact fun _ _ _ _ => by decide +kernel

/-- The loop waits in `poll` for a limited time, and only libusb could have something to do. -/
structure WaitsLimited (loop : MainLoop) : Prop where
  point : ∃ timeout, 0 ≤ timeout ∧ loop.point = .polling timeout
  running : loop.running = true
  usb : loop.usb = some .usb
  silent : loop.notified = false

/-- `poll` times out, and the program gets back to it, where libusb reports its expired timeout. -/
def idleRound : List LoopEvent :=
  List.replicate 4 (.proceed { calmAnswers with next := some (0, 0), outcome := .timedOut })

/-- A round in which nothing happens but a timeout leaves the device as it is. -/
theorem WaitsLimited.round {loop : MainLoop} (waits : WaitsLimited loop)
    (broadcaster : Broadcaster) :
    WaitsLimited (run (mainStep broadcaster) loop idleRound) ∧
      (run (mainStep broadcaster) loop idleRound).world.1 = loop.world.1 := by
  obtain ⟨timeout, limited, here⟩ := waits.point
  -- Nothing is ready, so `poll` may return because its time is over.
  have timesOut : TimesOut loop
      (.proceed { calmAnswers with next := some (0, 0), outcome := .timedOut }) := by
    refine ⟨timeout, _, here, rfl, rfl, ?_⟩
    simp [MainLoop.canEnd, limited, waits.silent]
  have noted := timesOut.notes broadcaster
  have again := polls_again broadcaster noted.point (noted.running.trans waits.running)
    { calmAnswers with next := some (0, 0), outcome := .timedOut }
  -- The deadline is still there, so the next wait is over at once.
  have now : usbdaliGetTimeout (mainStep broadcaster loop (.proceed
      { calmAnswers with next := some (0, 0), outcome := .timedOut })).usb (some (0, 0)) = 0 := by
    rw [noted.usb, waits.usb]
    rfl
  have silent := waits.silent
  rw [idleRound, List.replicate_succ, run_cons, again]
  refine ⟨⟨⟨0, Int.le_refl 0, ?_⟩, noted.running.trans waits.running,
    noted.usb.trans waits.usb, ?_⟩, noted.device⟩
  · simp only [MainLoop.goto, now]
  · simpa only [MainLoop.notified, MainLoop.goto, MainLoop.did, noted.killsocket] using silent

/-- A request whose answer never comes is not reported, however often its timeout expires. -/
theorem unanswered_starves {loop : MainLoop} (waits : WaitsLimited loop) (broadcaster : Broadcaster)
    (rounds : Nat) :
    (run (mainStep broadcaster) loop (List.replicate rounds idleRound).flatten).world.1 =
      loop.world.1 := by
  -- Each round ends where it began.
  induction rounds generalizing loop with
  | zero => rfl
  | succ rounds ih =>
    obtain ⟨again, device⟩ := waits.round broadcaster
    rw [List.replicate_succ, List.flatten_cons, run_append, ih again, device]

/-- A round of the loop in which one row is ready, with answers for the callbacks of all rows. -/
def readyRound (ready : Nat) (inputs : List Input) : List LoopEvent :=
  let reported : PollOutcome := .ready fun index => if index = ready then pollIn else 0
  -- Four steps lead into `poll` and out of it, and the last one finds the end of the table.
  List.replicate 4 (.proceed { calmAnswers with outcome := reported }) ++
    inputs.map (fun input => .proceed { calmAnswers with input := input }) ++
    [.proceed calmAnswers]

/-- A client asks, its request is sent, and the program waits for the answer for half a second. -/
def waitsForAnswer : List LoopEvent :=
  let completes (transfer : Nat) (status : TransferStatus) : Input :=
    { calmInput with completion := some ⟨transfer, status, [], 0⟩ }
  -- The listener, the client, and twice the device have something to do.
  readyRound 1 [calmInput, { calmInput with socket := some 6 }, calmInput, calmInput] ++
    readyRound 3 [calmInput, calmInput, calmInput, clientAsks] ++
    readyRound 0 [completes 0 .cancelled, calmInput, calmInput, calmInput] ++
    readyRound 0 [completes 1 .completed, calmInput, calmInput, calmInput] ++
    List.replicate 3 (.proceed { calmAnswers with next := some (0, 500000) })

/-- The timeout of a request expires, and the program waits again without having looked at it. -/
theorem timeout_not_acted_on :
    let loop := run (mainStep serverBroadcaster) (mainLoopStart plainConfig) waitsForAnswer
    let event := LoopEvent.proceed { calmAnswers with outcome := .timedOut }
    TimesOut loop event ∧
      (¬ ∀ later, TimeoutsActedOn
        ((run (mainStep serverBroadcaster) loop (event :: later)).log.drop loop.log.length)) ∧
      ∀ rounds, (run (mainStep serverBroadcaster) loop
        (List.replicate rounds idleRound).flatten).world.1.transaction =
          some ⟨0, 1, daliframeNew 0x01 0x02, some 0⟩ := by
  intro loop event
  have here : loop.point = .polling 500 := by decide +kernel
  have flag : loop.running = true := by decide +kernel
  have silent : loop.notified = false := by decide +kernel
  have device : loop.usb = some .usb := by decide +kernel
  have active : loop.world.1.transaction = some ⟨0, 1, daliframeNew 0x01 0x02, some 0⟩ := by
    decide +kernel
  -- From here on, the facts just computed are all there is to know about the state.
  clear_value loop
  have timesOut : TimesOut loop event := by
    refine ⟨500, _, here, rfl, rfl, ?_⟩
    simp [MainLoop.canEnd, silent]
  refine ⟨timesOut, fun acted => ?_, fun rounds => ?_⟩
  · have cleared := (timesOut.acted_iff serverBroadcaster).mp acted
    rw [flag] at cleared
    cases cleared
  · rw [unanswered_starves ⟨⟨500, by decide, here⟩, flag, device, silent⟩]
    exact active

end Daliserver

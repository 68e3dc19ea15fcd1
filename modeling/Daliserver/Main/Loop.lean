import Daliserver.Machine.SocketPair
import Daliserver.Net.Requests
import Mathlib.Algebra.Group.Nat.Defs

/-! The event loop of the program, which a signal may interrupt anywhere (daliserver.c, ipc.c). -/

namespace Daliserver

open Machine

/-- The shutdown notifier: a socket pair on which only zeros are sent. -/
abbrev Ipc := SocketPair UInt8

/-- Creates the socket pair. -/
def ipcNew : Ipc := SocketPair.fresh

/-- The socket to read from, which is the first one of the pair. -/
def ipcReadSocket : Side := .first

/-- The socket to write to, which is also the first one of the pair. -/
def ipcWriteSocket : Side := .first

/-- Writes a zero to the write socket. -/
def ipcNotify (ipc : Ipc) : Ipc := ipc.write ipcWriteSocket [0]

/-- Reads a byte from the read socket. -/
def ipcReadZero (ipc : Ipc) : Option UInt8 × Ipc := ipc.read ipcReadSocket

/--
The time until the next timeout of libusb in milliseconds, as an `int`.

The answer of `libusb_get_next_timeout` is given in seconds and microseconds, and there may be none.
-/
def usbdaliGetTimeout (usb : Option UsbPtr) (next : Option (Nat × Nat)) : Int :=
  match usb, next with
  | some .usb, some (seconds, microseconds) =>
    Int.bmod (seconds * 1000 + microseconds / 1000 : Nat) (2 ^ 32)
  -- A negative timeout lets `poll` wait forever.
  | _, _ => -1

/-- Where in the loop the program is. -/
inductive Point where
  -- The flag is about to be tested.
  | test
  -- The flag was set, and `usbdali_get_timeout` is about to be called.
  | getTimeout
  -- `poll` is about to be called.
  | entering (timeout : Int)
  -- The program waits in `poll`.
  | polling (timeout : Int)
  -- `poll` has reported events, and `dispatch_run` gets to a row of its table.
  | row (index : Nat)
  -- The loop was left.
  | ended
  -- The process was killed by its own signal handler.
  | killed
deriving DecidableEq, Repr

/-- What the loop did, in order. -/
inductive LoopAction where
  -- `poll` was called.
  | polled (timeout : Int)
  -- `poll` returned 0.
  | timedOut
  -- `libusb_handle_events_timeout` was called.
  | handledEvents
deriving DecidableEq, Repr

/-- The program while it runs its event loop. -/
structure MainLoop where
  point : Point
  running : Bool
  -- The device handle, which is NULL in a dry run.
  usb : Option UsbPtr
  killsocket : Ipc
  world : World
  log : List LoopAction

/-- How a call of `poll` ends, unless a signal interrupts it. -/
inductive PollOutcome where
  | failed
  | timedOut
  | ready (revents : Nat → BitVec 16)

/-- What the surroundings answer while the program takes a step. -/
structure LoopAnswers where
  -- The answer of `libusb_get_next_timeout`.
  next : Option (Nat × Nat)
  outcome : PollOutcome
  input : Input

/-- What can happen to the running loop. -/
inductive LoopEvent where
  -- SIGTERM or SIGINT is delivered.
  | signal
  -- The program takes its next step.
  | proceed (answers : LoopAnswers)

namespace MainLoop

/-- Whether the read socket of the notifier is readable. -/
def notified (loop : MainLoop) : Bool := ! (loop.killsocket.waiting ipcReadSocket).isEmpty

/-- Whether a call of `poll` can end this way. -/
def canEnd (loop : MainLoop) (timeout : Int) : PollOutcome → Bool
  | .failed => true
  -- The time has to be limited, and none of the descriptors may be ready.
  | .timedOut => decide (0 ≤ timeout) && ! loop.notified
  -- Some descriptor is ready, and the notifier is exactly if there is something to read.
  | .ready revents =>
    let fds := loop.world.2.dispatch.fds
    (List.range fds.length).any (fun index => revents index ≠ 0) &&
      (fds.mapIdx fun index pollfd => decide (pollfd.fd = loop.world.2.ipcFd →
        (revents index &&& pollIn ≠ 0 ↔ loop.notified = true))).all id

/-- The program at another point of the loop. -/
def goto (point : Point) (loop : MainLoop) : MainLoop := { loop with point := point }

/-- Records something the loop did. -/
def did (action : LoopAction) (loop : MainLoop) : MainLoop :=
  { loop with log := loop.log ++ [action] }

end MainLoop

/-- The signal handler, for the two signals that end the program. -/
def signalHandler (loop : MainLoop) : MainLoop :=
  if loop.running then
    let loop := { loop with running := false, killsocket := ipcNotify loop.killsocket }
    match loop.point with
    -- `poll` is interrupted, and the loop goes on.
    | .polling _ => loop.goto .test
    | _ => loop
  -- The second signal does not wait for the loop to end.
  else loop.goto .killed

/-- What a callback does outside of the rest of the program. -/
def MainLoop.noting (called : Option (Call ServerFn ServerArg)) (loop : MainLoop) : MainLoop :=
  match called with
  | some ⟨_, .ipcReadZero, some .ipc, _⟩ =>
    { loop with killsocket := (ipcReadZero loop.killsocket).2 }
  | some ⟨_, .usbdaliDispatchReady, some .usb, _⟩ => loop.did .handledEvents
  | _ => loop

/-- The round of `dispatch_run` for one row. -/
def mainRow (broadcaster : Broadcaster) (index : Nat) (input : Input) (loop : MainLoop) :
    MainLoop :=
  -- Answers that the operating system cannot give are no step.
  if input.possible loop.world.2 then
    { loop.noting (rowCall loop.world.2 index) with
      world := systemStep broadcaster loop.world (.row index input)
      point := .row (index + 1) }
  else loop

/-- The program takes its next step in the loop. -/
def mainProceed (broadcaster : Broadcaster) (answers : LoopAnswers) (loop : MainLoop) : MainLoop :=
  match loop.point with
  | .test => loop.goto (if loop.running then .getTimeout else .ended)
  | .getTimeout => loop.goto (.entering (usbdaliGetTimeout loop.usb answers.next))
  | .entering timeout => (loop.did (.polled timeout)).goto (.polling timeout)
  | .polling timeout =>
    if loop.canEnd timeout answers.outcome then
      match answers.outcome with
      -- All three results of `dispatch_run` keep the loop going.
      | .failed => loop.goto .test
      | .timedOut =>
        { (loop.did .timedOut).goto .test with
          world := systemStep broadcaster loop.world (.polled fun _ => 0) }
      | .ready revents =>
        { loop.goto (.row 0) with
          world := systemStep broadcaster loop.world (.polled revents) }
    else loop
  | .row index =>
    if index < loop.world.2.dispatch.numentries then mainRow broadcaster index answers.input loop
    else loop.goto .test
  | .ended => loop
  | .killed => loop

/-- Handles one event of the loop. -/
def mainStep (broadcaster : Broadcaster) (loop : MainLoop) : LoopEvent → MainLoop
  | .signal =>
    match loop.point with
    -- What a signal does after the loop is not looked at here.
    | .ended => loop
    | .killed => loop
    | _ => signalHandler loop
  | .proceed answers => mainProceed broadcaster answers loop

/-- The program when it gets to its event loop. -/
def mainLoopStart (config : Config) : MainLoop where
  point := .test
  running := true
  usb := config.usb
  killsocket := ipcNew
  world := mainStart config
  log := []

/-- Surroundings that tell nothing and in which nothing happens. -/
def calmAnswers : LoopAnswers := ⟨none, .failed, calmInput⟩

/-- One step of the loop, with everything it changes. -/
inductive Moves (broadcaster : Broadcaster) (loop : MainLoop) : LoopEvent → MainLoop → Prop where
  | stays (event : LoopEvent) : Moves broadcaster loop event loop
  -- The first signal, while the program does not wait.
  | stopped (flag : loop.running = true) (inside : loop.point ≠ .ended ∧ loop.point ≠ .killed)
      (awake : ∀ timeout, loop.point ≠ .polling timeout) :
      Moves broadcaster loop .signal
        { loop with running := false, killsocket := ipcNotify loop.killsocket }
  -- The first signal, while it does.
  | interrupted (flag : loop.running = true) (timeout : Int)
      (waits : loop.point = .polling timeout) :
      Moves broadcaster loop .signal
        { loop with point := .test, running := false, killsocket := ipcNotify loop.killsocket }
  -- The second signal.
  | killed (flag : loop.running = false) : Moves broadcaster loop .signal (loop.goto .killed)
  | continues (answers : LoopAnswers) (here : loop.point = .test) (flag : loop.running = true) :
      Moves broadcaster loop (.proceed answers) (loop.goto .getTimeout)
  | ends (answers : LoopAnswers) (here : loop.point = .test) (flag : loop.running = false) :
      Moves broadcaster loop (.proceed answers) (loop.goto .ended)
  | asks (answers : LoopAnswers) (here : loop.point = .getTimeout) :
      Moves broadcaster loop (.proceed answers)
        (loop.goto (.entering (usbdaliGetTimeout loop.usb answers.next)))
  | polls (answers : LoopAnswers) (timeout : Int) (here : loop.point = .entering timeout) :
      Moves broadcaster loop (.proceed answers)
        ((loop.did (.polled timeout)).goto (.polling timeout))
  | fails (answers : LoopAnswers) (timeout : Int) (here : loop.point = .polling timeout) :
      Moves broadcaster loop (.proceed answers) (loop.goto .test)
  | timesOut (answers : LoopAnswers) (timeout : Int) (here : loop.point = .polling timeout)
      (outcome : answers.outcome = .timedOut)
      (possible : loop.canEnd timeout .timedOut = true) :
      Moves broadcaster loop (.proceed answers)
        { (loop.did .timedOut).goto .test with
          world := systemStep broadcaster loop.world (.polled fun _ => 0) }
  | reports (answers : LoopAnswers) (timeout : Int) (here : loop.point = .polling timeout)
      (revents : Nat → BitVec 16) :
      Moves broadcaster loop (.proceed answers)
        { loop.goto (.row 0) with
          world := systemStep broadcaster loop.world (.polled revents) }
  -- A row may have a callback that reads from the notifier or lets libusb handle its events.
  | visits (answers : LoopAnswers) (index : Nat) (here : loop.point = .row index)
      (killsocket : Ipc) (log : List LoopAction)
      (drained : killsocket = loop.killsocket ∨
        killsocket = (ipcReadZero loop.killsocket).2)
      (handled : log = loop.log ∨ log = loop.log ++ [.handledEvents]) :
      Moves broadcaster loop (.proceed answers)
        { loop with
          point := .row (index + 1), killsocket := killsocket, log := log,
          world := systemStep broadcaster loop.world (.row index answers.input) }
  | returns (answers : LoopAnswers) (index : Nat) (here : loop.point = .row index) :
      Moves broadcaster loop (.proceed answers) (loop.goto .test)

/-- A callback may read from the notifier or let libusb handle its events. -/
theorem noting_cases (called : Option (Call ServerFn ServerArg)) (loop : MainLoop) :
    loop.noting called = loop ∨
      loop.noting called = { loop with killsocket := (ipcReadZero loop.killsocket).2 } ∨
      loop.noting called = loop.did .handledEvents := by
  unfold MainLoop.noting
  split
  · exact .inr (.inl rfl)
  · exact .inr (.inr rfl)
  · exact .inl rfl

/-- The round for one row is a step. -/
theorem mainRow_moves (broadcaster : Broadcaster) {loop : MainLoop} (answers : LoopAnswers)
    {index : Nat} (here : loop.point = .row index) :
    Moves broadcaster loop (.proceed answers) (mainRow broadcaster index answers.input loop) := by
  -- One case for each kind of callback, and one for answers that are no step.
  unfold mainRow
  split
  · rcases noting_cases (rowCall loop.world.2 index) loop with same | drained | handled
    · rw [same]
      exact .visits answers index here _ _ (.inl rfl) (.inl rfl)
    · rw [drained]
      exact .visits answers index here _ _ (.inr rfl) (.inl rfl)
    · rw [handled]
      exact .visits answers index here _ _ (.inl rfl) (.inr rfl)
  · exact .stays _

/-- The signal handler makes one of these steps. -/
theorem signalHandler_moves (broadcaster : Broadcaster) {loop : MainLoop}
    (inside : loop.point ≠ .ended ∧ loop.point ≠ .killed) :
    Moves broadcaster loop .signal (signalHandler loop) := by
  -- The flag tells the first signal from the second one.
  unfold signalHandler
  split
  · rename_i flag
    dsimp only
    split
    · rename_i timeout waits
      exact .interrupted flag timeout waits
    · rename_i awake
      exact .stopped flag inside awake
  · rename_i flag
    exact .killed (by simpa using flag)

/-- Every event makes one of these steps. -/
theorem mainStep_moves (broadcaster : Broadcaster) (loop : MainLoop) (event : LoopEvent) :
    Moves broadcaster loop event (mainStep broadcaster loop event) := by
  -- For the program's own steps, the point decides.
  cases event with
  | signal =>
    unfold mainStep
    dsimp only
    split
    · exact .stays _
    · exact .stays _
    · rename_i unended unkilled
      exact signalHandler_moves broadcaster ⟨unended, unkilled⟩
  | proceed answers =>
    unfold mainStep mainProceed
    cases here : loop.point with
    | test =>
      cases flag : loop.running with
      | false => exact .ends answers here flag
      | true => exact .continues answers here flag
    | getTimeout => exact .asks answers here
    | entering timeout => exact .polls answers timeout here
    | polling timeout =>
      dsimp only
      split
      · rename_i possible
        cases outcome : answers.outcome with
        | failed => exact .fails answers timeout here
        | timedOut => exact .timesOut answers timeout here outcome (outcome ▸ possible)
        | ready revents => exact .reports answers timeout here revents
      · exact .stays _
    | row index =>
      dsimp only
      split
      · exact mainRow_moves broadcaster answers here
      · exact .returns answers index here
    | ended => exact .stays _
    | killed => exact .stays _

/-- What the loop does to the program is a run of the program. -/
theorem mainLoop_world (broadcaster : Broadcaster) (config : Config) (events : List LoopEvent) :
    ∃ lower, (run (mainStep broadcaster) (mainLoopStart config) events).world =
      run (systemStep broadcaster) (mainStart config) lower := by
  -- A result of `poll` and a row of the table are events of the program, all other steps are not.
  have simulates : ∀ (loop : MainLoop) (world : World) (event : LoopEvent), loop.world = world →
      ∃ lower, (mainStep broadcaster loop event).world =
        run (systemStep broadcaster) world lower := by
    rintro loop world event rfl
    have moved := mainStep_moves broadcaster loop event
    generalize mainStep broadcaster loop event = next at moved
    cases moved with
    | timesOut => exact ⟨[.polled fun _ => 0], rfl⟩
    | reports answers timeout here revents => exact ⟨[.polled revents], rfl⟩
    | visits answers index => exact ⟨[.row index answers.input], rfl⟩
    | _ => exact ⟨[], rfl⟩
  exact run_simulates simulates rfl events

/-- With the same answers for all rows, the steps from a row on are the loop of `dispatch_run`. -/
theorem mainRows_dispatchLoop (broadcaster : Broadcaster) {answers : LoopAnswers}
    (possible : ∀ net, answers.input.possible net = true) {fuel index : Nat} {loop : MainLoop}
    (here : loop.point = .row index) {after : World}
    (passed : dispatchLoop (serverClient broadcaster answers.input) fuel index loop.world =
      some after) :
    ∃ rounds,
      (run (mainStep broadcaster) loop (List.replicate rounds (.proceed answers))).world = after ∧
      (run (mainStep broadcaster) loop (List.replicate rounds (.proceed answers))).point =
        .test := by
  -- Each unit of fuel is one row, and the last one finds the end of the table.
  induction fuel generalizing index loop with
  | zero => cases passed
  | succ fuel ih =>
    unfold dispatchLoop at passed
    have bound : (serverClient broadcaster answers.input).table loop.world =
        loop.world.2.dispatch := rfl
    rw [bound] at passed
    by_cases inside : index < loop.world.2.dispatch.numentries
    · rw [if_pos inside] at passed
      have step : mainStep broadcaster loop (.proceed answers) =
          mainRow broadcaster index answers.input loop := by
        simp only [mainStep, mainProceed, here, inside, if_true]
      have world : (mainRow broadcaster index answers.input loop).world =
          dispatchRow (serverClient broadcaster answers.input) index loop.world := by
        simp only [mainRow, possible, if_true, systemStep]
      have point : (mainRow broadcaster index answers.input loop).point = .row (index + 1) := by
        simp only [mainRow, possible, if_true]
      obtain ⟨rounds, later⟩ := ih point (world ▸ passed)
      exact ⟨rounds + 1, by rwa [List.replicate_succ, run_cons, step]⟩
    · rw [if_neg inside, Option.some.injEq] at passed
      have step : mainStep broadcaster loop (.proceed answers) = loop.goto .test := by
        simp only [mainStep, mainProceed, here, inside, if_false]
      exact ⟨1, by rw [List.replicate_one, run_cons, run_nil, step]; exact ⟨passed, rfl⟩⟩

end Daliserver

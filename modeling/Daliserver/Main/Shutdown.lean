import Mathlib.Logic.Function.Iterate
import Daliserver.Main.Loop

/-! Whether the program notices that it is told to end, wherever in the loop the signal finds it. -/

namespace Daliserver

open Machine

/-- The bytes that successive calls of `ipc_read_zero` read, up to the one that has to wait. -/
def ipcReads : Nat → Ipc → List UInt8
  | 0, _ => []
  | calls + 1, ipc =>
    match ipcReadZero ipc with
    -- Further calls would have to wait as well.
    | (none, _) => []
    | (some byte, ipc) => byte :: ipcReads calls ipc

/-- The program does not wait in `poll`, or the notifier is about to wake it up. -/
def Awake (loop : MainLoop) : Prop :=
  ∀ timeout, loop.point = .polling timeout → timeout = 0 ∨ loop.notified = true

/-- The flag has been tested, and the program is on its way into a `poll` that may wait. -/
def OnItsWay (loop : MainLoop) : Prop :=
  loop.point = .getTimeout ∨ ∃ timeout, timeout ≠ 0 ∧ loop.point = .entering timeout

/-- There is nothing to read at the read socket. -/
def Unread (ipc : Ipc) : Prop := ipc.waiting ipcReadSocket = []

/-- A notification does not arrive at the read socket. -/
theorem Unread.notify {ipc : Ipc} (unread : Unread ipc) : Unread (ipcNotify ipc) := by
  -- It is written to the end that is read from, and arrives at the other one.
  have same : (ipcNotify ipc).waiting ipcReadSocket = ipc.waiting ipcReadSocket :=
    SocketPair.waiting_write_self ..
  exact same.trans unread

/-- There is nothing to read, however often the notifier is used. -/
theorem unread_notifications (count : Nat) : Unread (ipcNotify^[count] ipcNew) := by
  induction count with
  | zero => rfl
  | succ count ih =>
    rw [Function.iterate_succ_apply']
    exact ih.notify

/-- A read socket without anything waiting yields no byte, and reading from it changes nothing. -/
theorem Unread.read {ipc : Ipc} (unread : Unread ipc) : ipcReadZero ipc = (none, ipc) :=
  SocketPair.read_empty unread

/-- The notifications can be read back exactly if there were none. -/
theorem notifications_read_iff (count : Nat) :
    (∀ calls, (ipcReads calls (ipcNotify^[count] ipcNew)).length = min calls count) ↔
      count = 0 := by
  -- Every read comes back empty, which is right for no notification at all.
  have nothing : ∀ calls, ipcReads calls (ipcNotify^[count] ipcNew) = [] := by
    intro calls
    cases calls with
    | zero => rfl
    | succ calls => simp only [ipcReads, (unread_notifications count).read]
  simp only [nothing, List.length_nil]
  constructor
  · intro all
    simpa using (all count).symm
  · rintro rfl calls
    simp

/-- No step of the loop brings anything to the read socket. -/
theorem Moves.unread {broadcaster : Broadcaster} {loop next : MainLoop} {event : LoopEvent}
    (moved : Moves broadcaster loop event next) (unread : Unread loop.killsocket) :
    Unread next.killsocket := by
  -- Only the signal handler writes, and it writes to the wrong end.
  cases moved with
  | stopped => exact unread.notify
  | interrupted => exact unread.notify
  | visits answers index here killsocket log drained handled =>
    rcases drained with rfl | rfl
    · exact unread
    · rw [unread.read]
      exact unread
  | _ => exact unread

/-- The notifier never wakes the loop up. -/
theorem not_notified (broadcaster : Broadcaster) (config : Config) (events : List LoopEvent) :
    (run (mainStep broadcaster) (mainLoopStart config) events).notified = false := by
  -- The read socket is empty at first, and no step changes that.
  have step : ∀ (loop : MainLoop) (event : LoopEvent), Unread loop.killsocket →
      Unread (mainStep broadcaster loop event).killsocket :=
    fun loop event => (mainStep_moves broadcaster loop event).unread
  have start : Unread (mainLoopStart config).killsocket := rfl
  have unread : Unread (run (mainStep broadcaster) (mainLoopStart config) events).killsocket :=
    run_invariant step start events
  simp only [MainLoop.notified, show _ = [] from unread, List.isEmpty_nil, Bool.not_true]

/-- The flag is set, and the loop has not been left. -/
structure Going (loop : MainLoop) : Prop where
  flag : loop.running = true
  unended : loop.point ≠ .ended
  unkilled : loop.point ≠ .killed

/-- Without a signal, the loop goes on. -/
theorem Going.step {broadcaster : Broadcaster} {loop : MainLoop} (going : Going loop)
    {event : LoopEvent} (other : event ≠ .signal) :
    Going (mainStep broadcaster loop event) := by
  -- The loop is left only by a test of the cleared flag, and only signals clear it.
  have moved := mainStep_moves broadcaster loop event
  generalize mainStep broadcaster loop event = next at moved
  have flag := going.flag
  cases moved with
  | stays => exact going
  | stopped => exact absurd rfl other
  | interrupted => exact absurd rfl other
  | killed => exact absurd rfl other
  | ends answers here cleared => rw [flag] at cleared; cases cleared
  | _ => exact ⟨flag, by simp [MainLoop.goto], by simp [MainLoop.goto]⟩

/-- Until there is a signal, the loop goes on. -/
theorem going_of_unsignalled (broadcaster : Broadcaster) (config : Config)
    {events : List LoopEvent} (unsignalled : .signal ∉ events) :
    Going (run (mainStep broadcaster) (mainLoopStart config) events) := by
  have start : Going (mainLoopStart config) :=
    ⟨rfl, by simp [mainLoopStart], by simp [mainLoopStart]⟩
  have met : StepsMeet (mainStep broadcaster) (fun _ event => event ≠ .signal)
      (mainLoopStart config) events := by
    -- The condition does not depend on the state.
    refine stepsMeet_of_forall ?_ _
    rintro loop event member rfl
    exact unsignalled member
  exact (throughout_of_stepsMeet (fun _ _ going other => going.step other) start met).last

/-- The flag is cleared, and the loop will not get to wait in `poll` any more. -/
structure Stopping (loop : MainLoop) : Prop where
  flag : loop.running = false
  -- Behind the test, only a `poll` that returns at once may be left.
  asked : loop.point ≠ .getTimeout
  entering : ∀ timeout, loop.point = .entering timeout → timeout = 0
  polling : ∀ timeout, loop.point = .polling timeout → timeout = 0

/-- From there on, the loop runs to its end. -/
theorem Stopping.step {broadcaster : Broadcaster} {loop : MainLoop} (stopping : Stopping loop)
    (event : LoopEvent) : Stopping (mainStep broadcaster loop event) := by
  -- Nothing sets the flag again, so the test leads out of the loop.
  have moved := mainStep_moves broadcaster loop event
  generalize mainStep broadcaster loop event = next at moved
  have flag := stopping.flag
  cases moved with
  | stays => exact stopping
  | stopped set => rw [flag] at set; cases set
  | interrupted set => rw [flag] at set; cases set
  | continues answers here set => rw [flag] at set; cases set
  | asks answers here => exact absurd here stopping.asked
  | polls answers timeout here =>
    -- The timeout is kept on the way into `poll`.
    have zero := stopping.entering timeout here
    exact ⟨flag, by simp [MainLoop.goto], by simp [MainLoop.goto],
      by simp [MainLoop.goto, zero]⟩
  | _ => exact ⟨flag, by simp [MainLoop.goto], by simp [MainLoop.goto], by simp [MainLoop.goto]⟩

/-- A loop that runs to its end does not wait on the way. -/
theorem Stopping.awake {broadcaster : Broadcaster} {loop : MainLoop} (stopping : Stopping loop)
    (later : List LoopEvent) : Throughout (mainStep broadcaster) Awake loop later := by
  -- Every state of the run is on its way to the end.
  induction later generalizing loop with
  | nil => exact fun timeout waits => .inl (stopping.polling timeout waits)
  | cons event rest ih =>
    exact ⟨fun timeout waits => .inl (stopping.polling timeout waits), ih (stopping.step event)⟩

/-- A signal clears the flag and interrupts `poll`, and leaves the program where it is. -/
theorem mainStep_signal (broadcaster : Broadcaster) {loop : MainLoop} (going : Going loop) :
    mainStep broadcaster loop .signal = signalHandler loop := by
  unfold mainStep
  dsimp only
  split
  · exact absurd ‹_› going.unended
  · exact absurd ‹_› going.unkilled
  · rfl

/-- A signal that does not find the program on its way into `poll` stops the loop. -/
theorem Going.stopping (broadcaster : Broadcaster) {loop : MainLoop} (going : Going loop)
    (aside : ¬ OnItsWay loop) : Stopping (mainStep broadcaster loop .signal) := by
  rw [mainStep_signal broadcaster going, signalHandler, if_pos going.flag]
  dsimp only
  split
  -- In `poll`, the interruption leads back to the test.
  · exact ⟨rfl, by simp [MainLoop.goto], by simp [MainLoop.goto], by simp [MainLoop.goto]⟩
  -- Elsewhere the program goes on, and it is not where it could still get into `poll`.
  · rename_i awake
    refine ⟨rfl, fun asks => aside (.inl asks), fun timeout enters => ?_, fun timeout waits => ?_⟩
    · exact Classical.byContradiction fun limited => aside (.inr ⟨timeout, limited, enters⟩)
    · exact absurd waits (awake timeout)

/-- A signal that finds the program on its way into `poll` lets it go there. -/
theorem Going.waits (broadcaster : Broadcaster) {loop : MainLoop} (going : Going loop)
    (onItsWay : OnItsWay loop) :
    ∃ later timeout, timeout ≠ 0 ∧
      (run (mainStep broadcaster) loop (.signal :: later)).point = .polling timeout := by
  have signalled : mainStep broadcaster loop .signal = signalHandler loop :=
    mainStep_signal broadcaster going
  rcases onItsWay with asks | ⟨timeout, limited, enters⟩
  · -- Without a timeout of libusb, there is no limit for the time to wait.
    refine ⟨[.proceed calmAnswers, .proceed calmAnswers], -1, by decide, ?_⟩
    have unlimited : usbdaliGetTimeout loop.usb calmAnswers.next = -1 := by
      cases loop.usb <;> rfl
    have stopped : signalHandler loop =
        { loop with running := false, killsocket := ipcNotify loop.killsocket } := by
      simp [signalHandler, going.flag, asks]
    rw [run_cons, signalled, stopped]
    simp [mainStep, mainProceed, asks, MainLoop.goto, MainLoop.did, unlimited]
  · -- The timeout was determined before the signal.
    refine ⟨[.proceed calmAnswers], timeout, limited, ?_⟩
    have stopped : signalHandler loop =
        { loop with running := false, killsocket := ipcNotify loop.killsocket } := by
      simp [signalHandler, going.flag, enters]
    rw [run_cons, signalled, stopped]
    simp [mainStep, mainProceed, enters, MainLoop.goto, MainLoop.did]

/--
A request to shut down is noticed exactly if it does not find the program on its way into `poll`.

Both sockets of the notifier are the same one, so that no notification can be read back.
-/
theorem shutdown_noticed_iff (broadcaster : Broadcaster) (config : Config)
    {events : List LoopEvent} (unsignalled : .signal ∉ events) :
    let loop := run (mainStep broadcaster) (mainLoopStart config) events
    ((∀ later, Throughout (mainStep broadcaster) Awake (mainStep broadcaster loop .signal) later) ↔
        ¬ OnItsWay loop) ∧
      ∀ count, (∀ calls, (ipcReads calls (ipcNotify^[count] ipcNew)).length = min calls count) ↔
        count = 0 := by
  intro loop
  have going : Going loop := going_of_unsignalled broadcaster config unsignalled
  refine ⟨⟨fun noticed onItsWay => ?_, fun aside later => ?_⟩, notifications_read_iff⟩
  · -- The program gets to wait, and the notifier does not wake it up.
    obtain ⟨later, timeout, limited, waits⟩ := going.waits broadcaster onItsWay
    have silent := not_notified broadcaster config (events ++ .signal :: later)
    rw [run_append] at silent
    rcases (noticed later).last timeout waits with zero | woken
    · exact limited zero
    · have same : (run (mainStep broadcaster) (mainStep broadcaster loop .signal) later).notified =
          false := silent
      rw [same] at woken
      cases woken
  · exact (going.stopping broadcaster aside).awake later

/-- A program without a device. -/
def dryConfig : Config := { plainConfig with dryrun := true }

/-- A signal right before the first test of the flag is noticed. -/
theorem shutdown_noticed_at_test :
    ¬ OnItsWay (mainLoopStart dryConfig) ∧
      ∀ later, Throughout (mainStep serverBroadcaster) Awake
        (mainStep serverBroadcaster (mainLoopStart dryConfig) .signal) later := by
  have aside : ¬ OnItsWay (mainLoopStart dryConfig) := by
    rintro (asks | ⟨timeout, _, enters⟩)
    · cases asks
    · cases enters
  have unsignalled : .signal ∉ ([] : List LoopEvent) := List.not_mem_nil
  exact ⟨aside, (shutdown_noticed_iff serverBroadcaster dryConfig unsignalled).1.mpr aside⟩

/--
A signal right behind the test of the flag is not noticed.

The flag is cleared, and the program waits without a limit, with nothing to read at the notifier.
-/
theorem shutdown_lost_behind_test :
    let loop := run (mainStep serverBroadcaster) (mainLoopStart dryConfig) [.proceed calmAnswers]
    let later := [.proceed calmAnswers, .proceed calmAnswers]
    let waiting := run (mainStep serverBroadcaster) (mainStep serverBroadcaster loop .signal) later
    (waiting.running = false ∧ waiting.point = .polling (-1) ∧ waiting.notified = false ∧
        ¬ Throughout (mainStep serverBroadcaster) Awake
          (mainStep serverBroadcaster loop .signal) later) ∧
      (ipcReads 1 (ipcNotify ipcNew)).length ≠ 1 := by
  intro loop later waiting
  have waits : waiting.point = .polling (-1) := by decide +kernel
  have silent : waiting.notified = false := by decide +kernel
  refine ⟨⟨by decide +kernel, waits, silent, fun noticed => ?_⟩, by decide⟩
  rcases noticed.last (-1) waits with zero | woken
  · cases zero
  · exact absurd (silent.symm.trans woken) (by decide)

end Daliserver

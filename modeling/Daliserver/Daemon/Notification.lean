import Daliserver.Daemon.Launch

/-! What the process that was started learns from the daemon that it became. -/

namespace Daliserver

open Machine

/-- The child is on its way to the second fork, or about to report that it failed. -/
def Child.busy : Child → Bool
  | .closes | .setsid | .chdir | .freopen _ | .fork | .reports => true
  | _ => false

/-- The daemon is on its way to the server, or about to report that it failed. -/
def Daemon.busy : Daemon → Bool
  | .opens _ | .locks _ | .fdopens _ | .prints _ | .reports _ | .notifies _ => true
  | _ => false

/-- The daemon is not there. -/
def Daemon.absent : Daemon → Bool
  | .unborn | .exited _ | .killed => true
  | _ => false

/-- The launch has failed: there is no daemon, and there will be none. -/
structure Failed (launch : Launch) : Prop where
  silent : launch.announced = false
  child : launch.child.busy = false
  daemon : launch.daemon.absent = true

/-- The processes of a launch agree on how far it has come. -/
structure Consistent (launch : Launch) : Prop where
  -- The child is born by the first fork and the daemon by the second.
  early : launch.master = .unstarted ∨ launch.master = .pipe ∨ launch.master = .fork ∨
    launch.master = .foreground → launch.child = .unborn
  unborn : launch.child = .unborn ∨ launch.child.busy = true → launch.daemon = .unborn
  -- While one of them is busy, nothing has been written.
  silent : launch.child = .unborn ∨ launch.child.busy = true ∨ launch.daemon.busy = true →
    launch.note = [] ∧ launch.announced = false
  noted : launch.note = [] ∨ (launch.note = [0] ∧ launch.announced = true) ∨
    (launch.note = [2] ∧ Failed launch)
  born : launch.announced = true → launch.daemon ≠ .unborn
  status : ∀ status, launch.master = .exited status →
    (status = 0 ∧ launch.announced = true) ∨ status = 1 ∨ (status = 2 ∧ Failed launch)

/-- A launch that has not been made is consistent. -/
theorem consistent_blank : Consistent Launch.blank := by
  -- There are no processes, and nothing has been written.
  refine ⟨fun _ => rfl, fun _ => rfl, fun _ => ⟨rfl, rfl⟩, .inl rfl, by simp [Launch.blank], ?_⟩
  intro status exited
  cases exited

attribute [grind] Child.busy Daemon.busy Daemon.absent Failed

/-- A call of the master keeps the launch consistent. -/
theorem Consistent.masterCall {launch : Launch} (consistent : Consistent launch)
    (answer : Answer) : Consistent (masterCall answer launch) := by
  obtain ⟨early, unborn, silent, noted, born, status⟩ := consistent
  refine ⟨?_, ?_, ?_, ?_, ?_, ?_⟩
  · -- The first fork takes the master to its last stage.
    grind [Daliserver.masterCall]
  · grind [Daliserver.masterCall]
  · -- A child that has just been forked has written nothing.
    grind [Daliserver.masterCall]
  · -- What the master reads was the only note.
    grind [Daliserver.masterCall]
  · grind [Daliserver.masterCall]
  · -- The status it exits with is the note, which says how the launch has ended.
    grind [Daliserver.masterCall]

/-- A call of the child keeps the launch consistent. -/
theorem Consistent.childCall {launch : Launch} (consistent : Consistent launch)
    (answer : Answer) : Consistent (childCall answer launch) := by
  obtain ⟨early, unborn, silent, noted, born, status⟩ := consistent
  refine ⟨?_, ?_, ?_, ?_, ?_, ?_⟩
  · grind [Daliserver.childCall, Launch.childTries, sendNote]
  · -- The second fork takes the child to its last stage.
    grind [Daliserver.childCall, Launch.childTries, sendNote]
  · grind [Daliserver.childCall, Launch.childTries, sendNote]
  · -- A child that fails writes the first note, and no daemon comes after it.
    grind [Daliserver.childCall, Launch.childTries, sendNote]
  · grind [Daliserver.childCall, Launch.childTries, sendNote]
  · grind [Daliserver.childCall, Launch.childTries, sendNote]

/-- A call of the daemon keeps the launch consistent. -/
theorem Consistent.daemonCall {launch : Launch} (consistent : Consistent launch) (number : Nat)
    (answer : Answer) (files : PidFiles) :
    Consistent (daemonCall number answer launch files).1 := by
  obtain ⟨early, unborn, silent, noted, born, status⟩ := consistent
  refine ⟨?_, ?_, ?_, ?_, ?_, ?_⟩
  · grind [Daliserver.daemonCall, sendNote]
  · grind [Daliserver.daemonCall, sendNote]
  · -- Once the daemon has written its note it is not busy any more.
    grind [Daliserver.daemonCall, sendNote]
  · -- The note of the daemon is the first one, and it is true when it is written.
    grind [Daliserver.daemonCall, sendNote]
  · grind [Daliserver.daemonCall, sendNote]
  · grind [Daliserver.daemonCall, sendNote]

/-- The death of a process keeps the launch consistent. -/
theorem Consistent.kill {launch : Launch} (consistent : Consistent launch) (role : Role) :
    Consistent (killProcess role launch) := by
  -- A process that is killed does nothing any more, which takes it out of every stage.
  obtain ⟨early, unborn, silent, noted, born, status⟩ := consistent
  cases role <;> refine ⟨?_, ?_, ?_, ?_, ?_, ?_⟩ <;> grind [killProcess]

/-- Whatever happens on the system, every launch stays consistent. -/
theorem consistent_step {host : Host} {number : Nat}
    (consistent : Consistent (host.launches number)) (event : HostEvent) :
    Consistent ((hostStep host event).launches number) := by
  -- One case for each way in which an event can concern the launch.
  have advances := hostStep_advances host event number
  generalize (hostStep host event).launches number = after at advances
  cases advances with
  | stays => exact consistent
  | starts pidfile init fresh =>
    refine ⟨fun _ => rfl, fun _ => rfl, fun _ => ⟨rfl, rfl⟩, .inl rfl, by simp [Launch.blank], ?_⟩
    intro status exited
    cases init <;> cases exited
  | master answer => exact consistent.masterCall answer
  | child answer => exact consistent.childCall answer
  | daemon answer => exact consistent.daemonCall number answer host.files
  | dies role => exact consistent.kill role

/-- Every launch is consistent in every state of the system. -/
theorem consistent_run (content : String → List Char) (events : List HostEvent) (number : Nat) :
    Consistent ((run hostStep (hostStart content) events).launches number) := by
  -- The invariant is about one launch, whatever the others do.
  have step : ∀ host event, Consistent (host.launches number) →
      Consistent ((hostStep host event).launches number) :=
    fun _ event good => consistent_step good event
  exact run_invariant step consistent_blank events

/-- A master that has exited stays that way. -/
theorem master_exited_step {host : Host} {number status : Nat}
    (exited : (host.launches number).master = .exited status) (event : HostEvent) :
    ((hostStep host event).launches number).master = .exited status := by
  -- Only the master itself writes its stage, and it has come to its end.
  have advances := hostStep_advances host event number
  generalize (hostStep host event).launches number = after at advances
  cases advances with
  | stays => exact exited
  | starts pidfile init fresh =>
    rw [exited] at fresh
    cases fresh
  | master answer => grind [masterCall]
  | child answer => grind [childCall, Launch.childTries, sendNote]
  | daemon answer => grind [daemonCall, sendNote]
  | dies role => cases role <;> grind [killProcess]

/--
The exit status of the master tells the truth.

It is 0 only if the daemon has announced itself, and 2 only if there is no daemon and never will
be one.
Any other failure, which may have left a daemon behind, is reported as 1.
-/
theorem exit_status_truthful (content : String → List Char) (past later : List HostEvent)
    (number status : Nat)
    (exited : ((run hostStep (hostStart content) past).launches number).master = .exited status) :
    let launch := (run hostStep (hostStart content) (past ++ later)).launches number
    (status = 0 ∧ launch.announced = true ∧ launch.daemon ≠ .unborn ∧
        launch.daemon.busy = false) ∨
      status = 1 ∨
      (status = 2 ∧ launch.announced = false ∧ launch.daemon.absent = true) := by
  intro launch
  -- The status is fixed by then, and the invariant holds later as well.
  have still : launch.master = .exited status := by
    have step : ∀ host event, (host.launches number).master = .exited status →
        ((hostStep host event).launches number).master = .exited status :=
      fun _ event good => master_exited_step good event
    simp only [launch, run_append]
    exact run_invariant step exited later
  have consistent : Consistent launch := consistent_run content (past ++ later) number
  rcases consistent.status status still with ⟨rfl, announced⟩ | one | ⟨rfl, failed⟩
  · refine .inl ⟨rfl, announced, consistent.born announced, ?_⟩
    -- A daemon that is still busy has not announced anything.
    cases busy : launch.daemon.busy with
    | false => rfl
    | true =>
      have quiet := (consistent.silent (.inr (.inr busy))).2
      rw [announced] at quiet
      cases quiet
  · exact .inr (.inl one)
  · exact .inr (.inr ⟨rfl, failed.silent, failed.daemon⟩)

/-- The program is started in the background, and all of its calls succeed. -/
def background (number pid : Nat) (path : String) : List HostEvent :=
  let answer : Answer := ⟨true, pid, 16, 4⟩
  .start number (some path) false :: (List.replicate 2 (.call number .master answer) ++
    List.replicate 8 (.call number .child answer) ++
    List.replicate 6 (.call number .daemon answer))

/-- The master of a daemon that is up exits with status 0. -/
theorem exit_status_truthful_up :
    let past := background 0 77 "pid" ++ [.call 0 .master ⟨true, 0, 0, 4⟩]
    let launch := (run hostStep (hostStart fun _ => []) (past ++ [])).launches 0
    ((run hostStep (hostStart fun _ => []) past).launches 0).master = .exited 0 ∧
      launch.announced = true ∧ launch.daemon.busy = false := by
  -- Of the three cases, only the first one has this status.
  intro past launch
  have exited : ((run hostStep (hostStart fun _ => []) past).launches 0).master = .exited 0 := by
    decide +kernel
  rcases exit_status_truthful (fun _ => []) past [] 0 0 exited with
    ⟨_, announced, _, idle⟩ | other | ⟨other, _⟩
  · exact ⟨exited, announced, idle⟩
  · cases other
  · cases other

/--
No process of the launch dies silently.

Neither the child nor the daemon is killed before it has done its part, every note is written, and
the end of the pipe that it is written to is none of the standard descriptors.
-/
def Undisturbed (number : Nat) (host : Host) : HostEvent → Prop
  | .start .. => True
  | .kill other role => other = number →
    match role with
    | .master => True
    | .child => (host.launches number).child.busy = false
    | .daemon => (host.launches number).daemon.busy = false
  | .call other role answer => other = number →
    match role with
    -- It is none of them if all of them are open when the program is started.
    | .master => (host.launches number).master = .pipe → 2 < answer.fd
    | .child => (host.launches number).child = .reports → answer.ok = true
    | .daemon => (∃ held, (host.launches number).daemon = .reports held ∨
        (host.launches number).daemon = .notifies held) → answer.ok = true

/-- A master that waits has something to read, or someone who is going to write to the pipe. -/
structure Expecting (launch : Launch) : Prop where
  piped : launch.master = .fork ∨ launch.master = .waiting →
    launch.piped = true ∧ 2 < launch.noteFd
  expects : launch.master = .waiting →
    launch.note ≠ [] ∨ launch.child.busy = true ∨ launch.daemon.busy = true

/-- The master that waits can read what is written to it. -/
theorem canNote_of_waiting {launch : Launch} (waiting : launch.master = .waiting) :
    launch.canNote = true := by
  simp [Launch.canNote, Launch.hasReader, waiting]

/-- A child whose note can be written does not leave the master waiting in vain. -/
theorem Expecting.childCall {launch : Launch} (expecting : Expecting launch) {answer : Answer}
    (told : launch.child = .reports → answer.ok = true) :
    Expecting (childCall answer launch) := by
  -- Either the child stays busy, or its note is in the pipe.
  obtain ⟨piped, expects⟩ := expecting
  cases stage : launch.child with
  | reports =>
    refine ⟨?_, fun waiting => ?_⟩
    · grind [Daliserver.childCall, sendNote]
    · have same : launch.master = .waiting := by grind [Daliserver.childCall, sendNote]
      left
      simp [Daliserver.childCall, stage, canNote_of_waiting same, told stage, sendNote,
        (piped (.inr same)).1]
  | freopen standard =>
    -- The descriptor that is closed is not the one that is written to.
    have apart : 2 < launch.noteFd → launch.noteFd ≠ standard := by
      have small := standard.isLt
      omega
    refine ⟨fun there => ?_, fun waiting => ?_⟩
    · simp only [Daliserver.childCall, stage, Launch.childTries] at there ⊢
      obtain ⟨connected, large⟩ := piped there
      exact ⟨by simp [connected, apart large], large⟩
    · right
      left
      simp only [Daliserver.childCall, stage, Launch.childTries]
      cases answer.ok with
      | false => rfl
      | true =>
        have each : standard = 0 ∨ standard = 1 ∨ standard = 2 := by omega
        rcases each with rfl | rfl | rfl <;> rfl
  | _ => refine ⟨?_, ?_⟩ <;> grind [Daliserver.childCall, Launch.childTries]

/-- A daemon whose note can be written does not leave the master waiting in vain. -/
theorem Expecting.daemonCall {launch : Launch} (expecting : Expecting launch) {answer : Answer}
    (told : (∃ held, launch.daemon = .reports held ∨ launch.daemon = .notifies held) →
      answer.ok = true) (number : Nat) (files : PidFiles) :
    Expecting (daemonCall number answer launch files).1 := by
  -- Either the daemon stays busy, or one of its two notes is in the pipe.
  obtain ⟨piped, expects⟩ := expecting
  cases stage : launch.daemon with
  | reports held =>
    refine ⟨?_, fun waiting => ?_⟩
    · grind [Daliserver.daemonCall, sendNote]
    · have same : launch.master = .waiting := by grind [Daliserver.daemonCall, sendNote]
      left
      simp [Daliserver.daemonCall, stage, canNote_of_waiting same, told ⟨held, .inl stage⟩,
        sendNote, (piped (.inr same)).1]
  | notifies held =>
    refine ⟨?_, fun waiting => ?_⟩
    · grind [Daliserver.daemonCall, sendNote]
    · have same : launch.master = .waiting := by grind [Daliserver.daemonCall, sendNote]
      left
      simp [Daliserver.daemonCall, stage, canNote_of_waiting same, told ⟨held, .inr stage⟩,
        sendNote, (piped (.inr same)).1]
  | _ => refine ⟨?_, ?_⟩ <;> grind [Daliserver.daemonCall]

/-- While nobody dies silently, a master does not wait in vain. -/
theorem expecting_step {number : Nat} {host : Host} {event : HostEvent}
    (expecting : Expecting (host.launches number)) (undisturbed : Undisturbed number host event) :
    Expecting ((hostStep host event).launches number) := by
  -- A process that is not busy any more has written, since nobody died.
  have advances := hostStep_advances host event number
  generalize (hostStep host event).launches number = after at advances
  cases advances with
  | stays => exact expecting
  | starts pidfile init fresh =>
    refine ⟨fun there => ?_, fun waiting => ?_⟩
    · cases init <;> rcases there with there | there <;> cases there
    · cases init <;> cases waiting
  | master answer =>
    have large := undisturbed rfl
    obtain ⟨piped, expects⟩ := expecting
    refine ⟨?_, ?_⟩ <;> grind [masterCall]
  | child answer => exact expecting.childCall (undisturbed rfl)
  | daemon answer => exact expecting.daemonCall (undisturbed rfl) number host.files
  | dies role =>
    have idle := undisturbed rfl
    obtain ⟨piped, expects⟩ := expecting
    cases role <;> refine ⟨?_, ?_⟩ <;> grind [killProcess]

/--
The master is told how the launch has ended, unless a process died silently.

When the child and the daemon have nothing left to do for it, a note waits in the pipe of a master
that is still reading, and it exits with the status in the note.
-/
theorem master_told (content : String → List Char) (events : List HostEvent) (number : Nat)
    (undisturbed : StepsMeet hostStep (Undisturbed number) (hostStart content) events) :
    let launch := (run hostStep (hostStart content) events).launches number
    launch.master = .waiting → launch.child.busy = false → launch.daemon.busy = false →
    ∃ status, launch.note = [status] ∧
      ∀ answer, answer.ok = true → (masterCall answer launch).master = .exited status := by
  intro launch waiting left up
  have start : Expecting ((hostStart content).launches number) := by
    refine ⟨fun started => ?_, fun started => ?_⟩
    · rcases started with started | started <;> cases started
    · cases started
  have step : ∀ host event, Expecting (host.launches number) → Undisturbed number host event →
      Expecting ((hostStep host event).launches number) :=
    fun _ _ good met => expecting_step good met
  have expecting : Expecting launch := (throughout_of_stepsMeet step start undisturbed).last
  have consistent : Consistent launch := consistent_run content events number
  -- Nobody is busy, so there is something to read.
  have present : launch.note ≠ [] := by
    rcases expecting.expects waiting with note | busy | busy
    · exact note
    · rw [left] at busy
      cases busy
    · rw [up] at busy
      cases busy
  -- There is one note at most, and it is one of two.
  have single : ∃ status, launch.note = [status] := by
    rcases consistent.noted with empty | ⟨note, _⟩ | ⟨note, _⟩
    · exact absurd empty present
    · exact ⟨0, note⟩
    · exact ⟨2, note⟩
  obtain ⟨status, note⟩ := single
  refine ⟨status, note, fun answer ok => ?_⟩
  simp [masterCall, waiting, note, ok]

/-- The master of a daemon that is up has a note to read. -/
theorem master_told_up :
    let launch := (run hostStep (hostStart fun _ => []) (background 0 77 "pid")).launches 0
    StepsMeet hostStep (Undisturbed 0) (hostStart fun _ => []) (background 0 77 "pid") ∧
      launch.master = .waiting ∧ ∃ status, launch.note = [status] := by
  -- Every call of the launch succeeds, and nobody is killed.
  intro launch
  have undisturbed : StepsMeet hostStep (Undisturbed 0) (hostStart fun _ => [])
      (background 0 77 "pid") := by
    refine stepsMeet_of_forall (fun host event member => ?_) _
    simp only [background, List.mem_cons, List.mem_append, List.mem_replicate] at member
    rcases member with rfl | (⟨_, rfl⟩ | ⟨_, rfl⟩) | ⟨_, rfl⟩
    · trivial
    · exact fun _ _ => by decide
    · exact fun _ _ => rfl
    · exact fun _ _ => rfl
  have waiting : launch.master = .waiting := by decide +kernel
  obtain ⟨status, note, _⟩ := master_told (fun _ => []) (background 0 77 "pid") 0 undisturbed
    waiting (by decide +kernel) (by decide +kernel)
  exact ⟨undisturbed, waiting, status, note⟩

/-- A master whose child and daemon are gone, with nothing left for it to read. -/
structure Abandoned (launch : Launch) : Prop where
  waiting : launch.master = .waiting
  child : launch.child.busy = false ∧ launch.child ≠ .unborn
  daemon : launch.daemon.absent = true
  note : launch.note = []

/-- The event is nothing that makes a master give up: its death or a failed read. -/
def Patient (number : Nat) : HostEvent → Prop
  | .kill other .master => other ≠ number
  | .call other .master answer => other = number → answer.ok = true
  | _ => True

/-- Nobody comes back to write to a master that was abandoned. -/
theorem abandoned_step {number : Nat} {host : Host} {event : HostEvent}
    (abandoned : Abandoned (host.launches number)) (patient : Patient number event) :
    Abandoned ((hostStep host event).launches number) := by
  -- Nobody who could write is left, and the master reads in vain.
  have advances := hostStep_advances host event number
  generalize (hostStep host event).launches number = after at advances
  obtain ⟨waiting, ⟨left, born⟩, absent, note⟩ := abandoned
  cases advances with
  | stays => exact ⟨waiting, ⟨left, born⟩, absent, note⟩
  | starts pidfile init fresh =>
    rw [waiting] at fresh
    cases fresh
  | master answer =>
    -- The pipe is empty but not at its end: the master itself could write to it.
    have open_ : (host.launches number).hasWriter = true := by
      simp [Launch.hasWriter, waiting]
    simp only [masterCall, waiting, note, patient rfl, open_, if_true]
    exact ⟨waiting, ⟨left, born⟩, absent, note⟩
  | child answer =>
    refine ⟨?_, ⟨?_, ?_⟩, ?_, ?_⟩ <;> grind [childCall, Launch.childTries, sendNote]
  | daemon answer =>
    refine ⟨?_, ⟨?_, ?_⟩, ?_, ?_⟩ <;> grind [daemonCall, sendNote]
  | dies role =>
    cases role with
    | master => exact absurd rfl patient
    | child => refine ⟨?_, ⟨?_, ?_⟩, ?_, ?_⟩ <;> grind [killProcess]
    | daemon => refine ⟨?_, ⟨?_, ?_⟩, ?_, ?_⟩ <;> grind [killProcess]

/--
A master that was abandoned waits for ever.

It holds a write end of the notification pipe itself, so that the pipe never comes to its end, and
closing the other write ends does not wake it up.
-/
theorem abandoned_for_ever {number : Nat} {host : Host}
    (abandoned : Abandoned (host.launches number))
    {events : List HostEvent} (patient : ∀ event ∈ events, Patient number event) :
    ((run hostStep host events).launches number).master = .waiting := by
  -- The invariant is kept by every event that the master survives.
  have met : StepsMeet hostStep (fun _ => Patient number) host events :=
    stepsMeet_of_forall (fun _ event member => patient event member) host
  have step : ∀ host event, Abandoned (host.launches number) → Patient number event →
      Abandoned ((hostStep host event).launches number) :=
    fun _ _ good calm => abandoned_step good calm
  exact (throughout_of_stepsMeet step abandoned met).last.waiting

/-- The child is killed before it has done anything, and the master reads three times. -/
theorem abandoned_for_ever_killed :
    let answer : Answer := ⟨true, 0, 0, 4⟩
    let host := run hostStep (hostStart fun _ => []) [.start 0 none false,
      .call 0 .master answer, .call 0 .master answer, .kill 0 .child]
    let events := List.replicate 3 (HostEvent.call 0 .master answer)
    Abandoned (host.launches 0) ∧ (∀ event ∈ events, Patient 0 event) ∧
      ((run hostStep host events).launches 0).master = .waiting := by
  -- The child dies behind the fork, with the pipe still empty.
  intro answer host events
  have abandoned : Abandoned (host.launches 0) :=
    ⟨by decide, ⟨by decide, by decide⟩, by decide, by decide⟩
  have patient : ∀ event ∈ events, Patient 0 event := by
    intro event member
    rw [(List.mem_replicate.mp member).2]
    exact fun _ => rfl
  exact ⟨abandoned, patient, abandoned_for_ever abandoned patient⟩

end Daliserver

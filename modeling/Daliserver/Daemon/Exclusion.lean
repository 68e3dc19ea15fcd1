import Daliserver.Daemon.Notification

/-! At most one daemon runs on a PID file, and the file names it. -/

namespace Daliserver

open Machine

/-- The locks on the files are those that the daemons hold. -/
def Guarded (host : Host) : Prop :=
  ∀ path number, (host.files path).holder = some number ↔
    (host.launches number).daemon.holds = some path

/-- What a call of the daemon can do about locks: nothing, take a free one, or give its own up. -/
theorem daemonCall_locks (number : Nat) (answer : Answer) (launch : Launch) (files : PidFiles) :
    let after := daemonCall number answer launch files
    (after.1.daemon.holds = launch.daemon.holds ∧
        ∀ path, (after.2 path).holder = (files path).holder) ∨
      (∃ path, launch.daemon.holds = none ∧ (files path).holder = none ∧
        after.1.daemon.holds = some path ∧
        after.2 = Function.update files path { files path with holder := some number }) ∨
      (after.1.daemon.holds = none ∧ after.2 = releaseLock launch.daemon.holds files) := by
  -- One case for each call that may be due.
  intro after
  have call : after = daemonCall number answer launch files := rfl
  cases stage : launch.daemon with
  | opens path =>
    simp only [daemonCall, stage] at call
    rw [call]
    exact .inl ⟨by dsimp only; split <;> rfl, fun _ => rfl⟩
  | locks path =>
    simp only [daemonCall, stage] at call
    rw [call]
    split
    · rename_i free
      exact .inr (.inl ⟨path, rfl, free.2, rfl, rfl⟩)
    · exact .inl ⟨rfl, fun _ => rfl⟩
  | fdopens path =>
    simp only [daemonCall, stage] at call
    rw [call]
    exact .inl ⟨by dsimp only; split <;> rfl, fun _ => rfl⟩
  | prints path =>
    simp only [daemonCall, stage] at call
    rw [call]
    refine .inl ⟨rfl, fun other => ?_⟩
    -- Writing leaves the lock alone.
    by_cases same : other = path
    · subst same
      simp
    · simp [same]
  | reports held =>
    simp only [daemonCall, stage] at call
    rw [call]
    split <;> exact .inr (.inr ⟨rfl, rfl⟩)
  | notifies held =>
    simp only [daemonCall, stage] at call
    rw [call]
    split
    · split
      · exact .inl ⟨rfl, fun _ => rfl⟩
      · exact .inr (.inr ⟨rfl, rfl⟩)
    · exact .inr (.inr ⟨rfl, rfl⟩)
  | closes held =>
    simp only [daemonCall, stage] at call
    rw [call]
    exact .inl ⟨rfl, fun _ => rfl⟩
  | serving held =>
    simp only [daemonCall, stage] at call
    rw [call]
    exact .inr (.inr ⟨rfl, rfl⟩)
  | unborn | exited status | killed =>
    simp only [daemonCall, stage] at call
    rw [call]
    exact .inl ⟨by rw [stage], fun _ => rfl⟩

/-- The locks stay guarded while a launch keeps those that it holds. -/
theorem Guarded.keep {host : Host} (guarded : Guarded host) {number : Nat} {launch : Launch}
    {files : PidFiles}
    (held : launch.daemon.holds = (host.launches number).daemon.holds)
    (holders : ∀ path, (files path).holder = (host.files path).holder) :
    Guarded { host.setLaunch number launch with files := files } := by
  -- Only one launch is new, and it holds what it held before.
  intro path other
  rw [holders, guarded path other]
  by_cases same : other = number
  · subst same
    simp [Host.setLaunch, held]
  · simp [Host.setLaunch, same]

/-- The locks stay guarded when a launch gives up the one that it holds. -/
theorem Guarded.release {host : Host} (guarded : Guarded host) (number : Nat) {launch : Launch}
    (nothing : launch.daemon.holds = none) :
    Guarded { host.setLaunch number launch with
      files := releaseLock (host.launches number).daemon.holds host.files } := by
  -- Two files and two launches: the one that gives up its lock, and any other.
  intro path other
  cases held : (host.launches number).daemon.holds with
  | none =>
    have same : launch.daemon.holds = (host.launches number).daemon.holds := by rw [held, nothing]
    exact guarded.keep same (fun _ => rfl) path other
  | some own =>
    have mine := (guarded own number).mpr held
    show (Function.update host.files own _ path).holder = some other ↔
      (Function.update host.launches number launch other).daemon.holds = some path
    by_cases here : path = own
    · -- The lock is free now, and it had no other holder.
      subst here
      simp only [Function.update_self, reduceCtorEq, false_iff]
      by_cases same : other = number
      · subst same
        simp [nothing]
      · rw [Function.update_of_ne same, ← guarded path other, mine]
        exact fun alike => same (Option.some.inj alike).symm
    · rw [Function.update_of_ne here, guarded path other]
      by_cases same : other = number
      · subst same
        rw [Function.update_self, held, nothing]
        simp [Ne.symm here]
      · rw [Function.update_of_ne same]

/-- The locks stay guarded when a launch takes a free one. -/
theorem Guarded.take {host : Host} (guarded : Guarded host) {number : Nat} {launch : Launch}
    {path : String} (nothing : (host.launches number).daemon.holds = none)
    (free : (host.files path).holder = none) (held : launch.daemon.holds = some path) :
    Guarded { host.setLaunch number launch with
      files := Function.update host.files path
        { host.files path with holder := some number } } := by
  -- The lock was free, so nobody else loses it.
  intro here other
  show (Function.update host.files path _ here).holder = some other ↔
    (Function.update host.launches number launch other).daemon.holds = some here
  by_cases same : other = number
  · subst same
    rw [Function.update_self, held]
    by_cases there : here = path
    · subst there
      simp
    · rw [Function.update_of_ne there, guarded here other, nothing]
      simp [Ne.symm there]
  · rw [Function.update_of_ne same, ← guarded here other]
    by_cases there : here = path
    · subst there
      rw [Function.update_self, free]
      simp [Ne.symm same]
    · rw [Function.update_of_ne there]

/-- A call of the master leaves the daemon alone. -/
theorem masterCall_daemon (answer : Answer) (launch : Launch) :
    (masterCall answer launch).daemon = launch.daemon := by
  grind [masterCall]

/-- A child has no lock to give to the daemon that it forks. -/
theorem Consistent.childCall_holds {launch : Launch} (consistent : Consistent launch)
    (answer : Answer) :
    (Daliserver.childCall answer launch).daemon.holds = launch.daemon.holds := by
  -- The second fork makes the daemon, which starts without a lock.
  cases stage : launch.child with
  | fork =>
    have unborn : launch.daemon = .unborn := consistent.unborn (.inr (by rw [stage]; rfl))
    simp only [Daliserver.childCall, stage]
    split
    · cases launch.pidfile <;> simp [unborn, Daemon.holds]
    · rfl
  | _ => grind [Daliserver.childCall, Launch.childTries, sendNote]

/-- Whatever happens on the system, the locks stay guarded. -/
theorem Guarded.step {host : Host} (guarded : Guarded host)
    (consistent : ∀ number, Consistent (host.launches number)) (event : HostEvent) :
    Guarded (hostStep host event) := by
  -- One case for each event; only the daemon deals with locks.
  cases event with
  | start number pidfile init =>
    simp only [hostStep]
    split
    · rename_i fresh
      -- Nobody has locked anything before the program is started.
      have child := (consistent number).early (.inl fresh)
      have daemon := (consistent number).unborn (.inl child)
      exact guarded.keep (by rw [daemon]; rfl) fun _ => rfl
    · exact guarded
  | call number role answer =>
    cases role with
    | master =>
      exact guarded.keep (congrArg Daemon.holds (masterCall_daemon answer _)) fun _ => rfl
    | child => exact guarded.keep ((consistent number).childCall_holds answer) fun _ => rfl
    | daemon =>
      rcases daemonCall_locks number answer (host.launches number) host.files with
        ⟨held, holders⟩ | ⟨path, nothing, free, held, files⟩ | ⟨nothing, files⟩
      · exact guarded.keep held holders
      · have taken := guarded.take nothing free held
        rw [← files] at taken
        exact taken
      · have released := guarded.release number nothing
        rw [← files] at released
        exact released
  | kill number role =>
    cases role with
    | master =>
      refine guarded.keep (congrArg Daemon.holds ?_) fun _ => rfl
      grind [killProcess]
    | child =>
      refine guarded.keep (congrArg Daemon.holds ?_) fun _ => rfl
      grind [killProcess]
    | daemon =>
      refine guarded.release number ?_
      grind [killProcess, Daemon.holds]

/-- The PID file into which the daemon has printed its process ID. -/
def Daemon.printed : Daemon → Option String
  | .notifies held => held
  | .closes held => held
  | .serving held => held
  | _ => none

/-- A daemon that has printed into a PID file still holds its lock. -/
theorem Daemon.holds_of_printed {daemon : Daemon} {path : String}
    (printed : daemon.printed = some path) : daemon.holds = some path := by
  cases daemon <;> simp_all [Daemon.printed, Daemon.holds]

/-- The file begins with what the daemon has printed into it. -/
def Named (host : Host) : Prop :=
  ∀ number path, (host.launches number).daemon.printed = some path →
    (pidLine (host.launches number).pid).take (host.launches number).recorded <+:
      (host.files path).content

/-- A lock that is given up leaves the file as it is. -/
theorem releaseLock_content (held : Option String) (files : PidFiles) (path : String) :
    (releaseLock held files path).content = (files path).content := by
  -- Only the holder of a file is changed.
  cases held with
  | none => rfl
  | some own =>
    by_cases same : path = own
    · subst same
      simp [releaseLock]
    · simp [releaseLock, same]

/-- Only a daemon that prints its process ID writes to a file. -/
theorem daemonCall_prints (number : Nat) (answer : Answer) {launch : Launch} (files : PidFiles)
    {path : String} (prints : launch.daemon = .prints path) :
    daemonCall number answer launch files =
      ({ launch with daemon := .notifies (some path), recorded := answer.written },
        Function.update files path { files path with
          content := overwrite ((pidLine launch.pid).take answer.written)
            (files path).content }) := by
  simp only [daemonCall, prints]

/-- All other calls leave the files as they are, and what was printed into them. -/
theorem daemonCall_others (number : Nat) (answer : Answer) {launch : Launch} (files : PidFiles)
    (others : ∀ path, launch.daemon ≠ .prints path) :
    let after := daemonCall number answer launch files
    (∀ path, after.1.daemon.printed = some path → launch.daemon.printed = some path) ∧
      after.1.pid = launch.pid ∧ after.1.recorded = launch.recorded ∧
      ∀ path, (after.2 path).content = (files path).content := by
  -- One case for each call that may be due, except for the one that prints.
  intro after
  have call : after = daemonCall number answer launch files := rfl
  cases stage : launch.daemon with
  | prints path => exact absurd stage (others path)
  | locks path =>
    simp only [daemonCall, stage] at call
    rw [call]
    split
    · refine ⟨fun _ printed => (by cases printed), rfl, rfl, fun other => ?_⟩
      by_cases same : other = path
      · subst same
        simp
      · simp [same]
    · exact ⟨fun _ printed => (by cases printed), rfl, rfl, fun _ => rfl⟩
  | reports held =>
    simp only [daemonCall, stage] at call
    rw [call]
    split
    · refine ⟨fun _ printed => (by cases printed), ?_, ?_, releaseLock_content held files⟩
      · dsimp only
        split <;> rfl
      · dsimp only
        split <;> rfl
    · exact ⟨fun _ printed => (by cases printed), rfl, rfl, releaseLock_content held files⟩
  | notifies held =>
    simp only [daemonCall, stage] at call
    rw [call]
    split
    · split
      · exact ⟨fun _ printed => printed, rfl, rfl, fun _ => rfl⟩
      · exact ⟨fun _ printed => (by cases printed), rfl, rfl, releaseLock_content held files⟩
    · exact ⟨fun _ printed => (by cases printed), rfl, rfl, releaseLock_content held files⟩
  | closes held =>
    simp only [daemonCall, stage] at call
    rw [call]
    exact ⟨fun _ printed => printed, rfl, rfl, fun _ => rfl⟩
  | serving held =>
    simp only [daemonCall, stage] at call
    rw [call]
    exact ⟨fun _ printed => (by cases printed), rfl, rfl, releaseLock_content held files⟩
  | opens path | fdopens path =>
    simp only [daemonCall, stage] at call
    rw [call]
    refine ⟨fun _ printed => ?_, rfl, rfl, fun _ => rfl⟩
    dsimp only at printed
    split at printed <;> cases printed
  | unborn | exited status | killed =>
    simp only [daemonCall, stage] at call
    rw [call]
    exact ⟨fun _ printed => (by rwa [stage] at printed), rfl, rfl, fun _ => rfl⟩

/-- Files that keep their content name the same daemons, as long as no other one has printed. -/
theorem Named.keep {host : Host} (named : Named host) {number : Nat} {launch : Launch}
    {files : PidFiles}
    (printed : ∀ path, launch.daemon.printed = some path →
      (host.launches number).daemon.printed = some path ∧
        launch.pid = (host.launches number).pid ∧
        launch.recorded = (host.launches number).recorded)
    (content : ∀ path, (files path).content = (host.files path).content) :
    Named { host.setLaunch number launch with files := files } := by
  -- A launch has printed what it had printed before, and the files say the same.
  intro other path
  show (Function.update host.launches number launch other).daemon.printed = some path → _ <+: _
  rw [content]
  by_cases same : other = number
  · subst same
    simp only [Host.setLaunch, Function.update_self]
    intro shown
    obtain ⟨before, pid, recorded⟩ := printed path shown
    rw [pid, recorded]
    exact named other path before
  · simp only [Host.setLaunch, Function.update_of_ne same]
    exact named other path

/-- A daemon that has just been forked has printed nothing. -/
theorem childCall_printed (answer : Answer) {launch : Launch} {path : String}
    (printed : (childCall answer launch).daemon.printed = some path) :
    launch.daemon.printed = some path ∧ (childCall answer launch).pid = launch.pid ∧
      (childCall answer launch).recorded = launch.recorded := by
  cases stage : launch.child with
  | fork =>
    simp only [childCall, stage] at printed ⊢
    split at printed
    · -- A daemon without a PID file goes on to the notification, and still has printed nothing.
      cases pidfile : launch.pidfile <;> simp [pidfile, Daemon.printed] at printed
    · rename_i failed
      simp [failed, printed]
  | _ => grind [childCall, Launch.childTries, sendNote]

/-- A daemon prints into the file that it has locked, so no other daemon loses its name there. -/
theorem Named.print {host : Host} (named : Named host) (guarded : Guarded host) {number : Nat}
    {path : String} (prints : (host.launches number).daemon = .prints path) (written : Nat) :
    Named { host.setLaunch number { host.launches number with
        daemon := .notifies (some path), recorded := written } with
      files := Function.update host.files path { host.files path with
        content := overwrite ((pidLine (host.launches number).pid).take written)
          (host.files path).content } } := by
  -- Two daemons that have printed into the same file would both hold its lock.
  have mine := (guarded path number).mpr (by rw [prints]; rfl)
  intro other here
  by_cases same : other = number
  · subst same
    simp only [Host.setLaunch, Function.update_self]
    intro printed
    obtain rfl : path = here := Option.some.inj printed
    rw [Function.update_self]
    exact List.prefix_append _ _
  · simp only [Host.setLaunch, Function.update_of_ne same]
    intro printed
    have apart : here ≠ path := by
      rintro rfl
      have theirs := (guarded here other).mpr (Daemon.holds_of_printed printed)
      exact same (Option.some.inj (theirs.symm.trans mine))
    rw [Function.update_of_ne apart]
    exact named other here printed

/-- Whatever happens on the system, the PID files name the daemons that hold their locks. -/
theorem Named.step {host : Host} (named : Named host) (guarded : Guarded host)
    (event : HostEvent) : Named (hostStep host event) := by
  -- The file is written in one stage only, and by the holder of its lock.
  cases event with
  | start number pidfile init =>
    simp only [hostStep]
    split
    · exact named.keep (fun _ printed => (by cases printed)) fun _ => rfl
    · exact named
  | call number role answer =>
    cases role with
    | master =>
      refine named.keep (fun path printed => ?_) fun _ => rfl
      grind [masterCall]
    | child => exact named.keep (fun _ printed => childCall_printed answer printed) fun _ => rfl
    | daemon =>
      by_cases prints : ∃ path, (host.launches number).daemon = .prints path
      · obtain ⟨path, prints⟩ := prints
        have printed := named.print guarded prints answer.written
        simpa only [hostStep, daemonCall_prints number answer host.files prints] using printed
      · obtain ⟨before, pid, recorded, content⟩ :=
          daemonCall_others number answer host.files (not_exists.mp prints)
        exact named.keep (fun path printed => ⟨before path printed, pid, recorded⟩) content
  | kill number role =>
    refine named.keep (fun path printed => ?_) fun path => ?_
    · cases role <;> grind [killProcess, Daemon.printed]
    · split
      · exact releaseLock_content _ _ _
      · rfl

/-- The daemon uses the PID file that it was started with. -/
def Placed (launch : Launch) : Prop :=
  match launch.daemon with
  | .opens path | .locks path | .fdopens path | .prints path => launch.pidfile = some path
  | .notifies held | .closes held | .serving held => launch.pidfile = held
  | _ => True

/-- Whatever happens on the system, a daemon uses its own PID file. -/
theorem placed_step {host : Host} {number : Nat} (placed : Placed (host.launches number))
    (event : HostEvent) : Placed ((hostStep host event).launches number) := by
  -- The path is handed from one stage to the next.
  have advances := hostStep_advances host event number
  generalize (hostStep host event).launches number = after at advances
  cases advances with
  | stays => exact placed
  | starts pidfile init fresh => trivial
  | master answer => grind [masterCall, Placed]
  | child answer => grind [childCall, Launch.childTries, sendNote, Placed]
  | daemon answer => grind [daemonCall, sendNote, Placed]
  | dies role => cases role <;> grind [killProcess, Placed]

/-- All that is known of the system in every state. -/
structure Orderly (host : Host) : Prop where
  consistent : ∀ number, Consistent (host.launches number)
  placed : ∀ number, Placed (host.launches number)
  guarded : Guarded host
  named : Named host

/-- The system is orderly in every state that it can reach. -/
theorem orderly_run (content : String → List Char) (events : List HostEvent) :
    Orderly (run hostStep (hostStart content) events) := by
  -- The four invariants are proved together, since the later ones use the earlier ones.
  have start : Orderly (hostStart content) := by
    refine ⟨fun _ => consistent_blank, fun _ => trivial, fun path number => ?_, ?_⟩
    · simp [hostStart, Launch.blank, Daemon.holds]
    · intro number path printed
      cases printed
  refine run_invariant (fun host event orderly => ?_) start events
  exact ⟨fun number => consistent_step (orderly.consistent number) event,
    fun number => placed_step (orderly.placed number) event,
    orderly.guarded.step orderly.consistent event, orderly.named.step orderly.guarded event⟩

/--
The daemon has announced itself and is still there.

A program that is started by init makes no daemon. It serves as its own master, in the foreground.
-/
def Daemon.up : Daemon → Bool
  | .closes _ | .serving _ => true
  | _ => false

/-- The process ID in the first line of a PID file. -/
def firstLinePid (content : List Char) : Nat :=
  Nat.ofDigitChars 10 (content.takeWhile (· ≠ '\n')) 0

/-- What was written as a whole is read back, whatever the file held before. -/
theorem firstLinePid_overwrite {pid : Nat} {content : List Char}
    (begins : pidLine pid <+: content) : firstLinePid content = pid := by
  obtain ⟨rest, rfl⟩ := begins
  -- No digit ends the line.
  have digits : ∀ digit ∈ Nat.toDigits 10 pid, decide (digit ≠ '\n') = true := by
    intro digit member
    have isDigit := Nat.isDigit_of_mem_toDigits (by decide) (by decide) member
    rw [decide_eq_true_eq]
    rintro rfl
    cases isDigit
  have line : (pidLine pid ++ rest).takeWhile (· ≠ '\n') = Nat.toDigits 10 pid := by
    rw [pidLine, List.append_assoc, List.takeWhile_append_of_pos digits]
    simp
  rw [firstLinePid, line, Nat.ofDigitChars_ten_toDigits]

/-- A daemon that is up has printed into the PID file that it was started with. -/
theorem Placed.printed {launch : Launch} (placed : Placed launch) (up : launch.daemon.up = true)
    {path : String} (pidfile : launch.pidfile = some path) :
    launch.daemon.printed = some path := by
  -- There are two stages in which a daemon is up.
  cases stage : launch.daemon with
  | closes held | serving held =>
    simp only [Placed, stage] at placed
    rw [Daemon.printed, ← placed, pidfile]
  | _ => simp [stage, Daemon.up] at up

/--
At most one daemon runs on a PID file, and the file names it.

However often and with whatever interleaving the program is started, whichever calls fail and
whoever is killed, no two daemons that were started with the same PID file are up at once.
The one that is up holds the lock, and the first line of the file is its process ID if the line
could be written, whatever the file held before.
A program that is started by init takes no part in this: it has neither a daemon nor a lock.
-/
theorem one_daemon_per_pidfile (content : String → List Char) (events : List HostEvent)
    (path : String) :
    let host := run hostStep (hostStart content) events
    let runs number := (host.launches number).pidfile = some path ∧
      (host.launches number).daemon.up = true
    (∀ first second, runs first → runs second → first = second) ∧
      (∀ number, runs number → (host.files path).holder = some number ∧
        ((pidLine (host.launches number).pid).length ≤ (host.launches number).recorded →
          firstLinePid (host.files path).content = (host.launches number).pid)) ∧
      ∀ number, (host.launches number).master = .foreground →
        (host.launches number).daemon = .unborn ∧ (host.files path).holder ≠ some number := by
  intro host runs
  have orderly : Orderly host := orderly_run content events
  have printed : ∀ number, runs number → (host.launches number).daemon.printed = some path :=
    fun number running => (orderly.placed number).printed running.2 running.1
  -- Who has printed still holds the lock, and a lock has one holder.
  have locked : ∀ number, runs number → (host.files path).holder = some number :=
    fun number running => (orderly.guarded path number).mpr
      (Daemon.holds_of_printed (printed number running))
  refine ⟨fun first second one two => ?_, fun number running => ⟨locked number running, ?_⟩,
    fun number foreground => ?_⟩
  · exact Option.some.inj ((locked first one).symm.trans (locked second two))
  · intro whole
    have begins := orderly.named number path (printed number running)
    rw [List.take_of_length_le whole] at begins
    exact firstLinePid_overwrite begins
  · -- Without a fork there is no daemon, and only a daemon takes a lock.
    have consistent := orderly.consistent number
    have unforked := consistent.early (.inr (.inr (.inr foreground)))
    have unborn := consistent.unborn (.inl unforked)
    refine ⟨unborn, fun holder => ?_⟩
    have held := (orderly.guarded path number).mp holder
    rw [unborn] at held
    cases held

/-- Of two launches the first one gets the PID file, in which a longer number stood before. -/
theorem one_daemon_per_pidfile_twice :
    let host := run hostStep (hostStart fun _ => ['1', '2', '3', '4', '5', '6', '\n'])
      (background 0 77 "pid" ++ background 1 88 "pid")
    (host.launches 0).daemon.up = true ∧ (host.launches 1).daemon.up = false ∧
      (host.files "pid").content = ['7', '7', '\n', '4', '5', '6', '\n'] ∧
      (host.files "pid").holder = some 0 ∧ firstLinePid (host.files "pid").content = 77 := by
  -- The second launch finds the lock taken and gives up.
  intro host
  have one := (one_daemon_per_pidfile (fun _ => ['1', '2', '3', '4', '5', '6', '\n'])
    (background 0 77 "pid" ++ background 1 88 "pid") "pid").2.1 0
    ⟨by decide +kernel, by decide +kernel⟩
  exact ⟨by decide +kernel, by decide +kernel, by decide +kernel, one.1,
    (one.2 (by decide +kernel)).trans (by decide +kernel)⟩

end Daliserver

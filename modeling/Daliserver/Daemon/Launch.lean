import Mathlib.Logic.Function.Basic
import Daliserver.Machine.Run

/-! Going into the background: two forks, a notification pipe and a locked PID file (util.c). -/

namespace Daliserver

/-- What the operating system answers to a call of a process. -/
structure Answer where
  -- Whether the call succeeds, as far as that is not decided by the state.
  ok : Bool
  -- The process ID that `fork` gives to the new process.
  pid : Nat
  -- How many characters of what `fprintf` and `fflush` write reach the file.
  written : Nat
  -- The descriptor that `pipe` gives to the end that is written to.
  fd : Nat
deriving DecidableEq, Repr

/-- The process that was started. The stages are named by the call that is due. -/
inductive Master where
  | unstarted
  | pipe
  | fork
  -- It reads from the notification pipe.
  | waiting
  -- A child of init does not daemonize: it goes on as the server.
  | foreground
  | exited (status : Nat)
  | killed
deriving DecidableEq, Repr

/-- The child of the first fork. -/
inductive Child where
  | unborn
  | closes
  | setsid
  | chdir
  -- One of the standard descriptors, in their order, is redirected to /dev/null.
  | freopen (standard : Fin 3)
  | fork
  -- An error is passed on to the master.
  | reports
  -- The daemon has been forked, and `exit(0)` is due.
  | leaves
  | exited (status : Nat)
  | killed
deriving DecidableEq, Repr

/-- The grandchild, which becomes the server, along with the PID file it has opened or locked. -/
inductive Daemon where
  | unborn
  | opens (path : String)
  | locks (path : String)
  | fdopens (path : String)
  | prints (path : String)
  -- An error is passed on to the master.
  | reports (held : Option String)
  -- The master is told that all went well.
  | notifies (held : Option String)
  | closes (held : Option String)
  -- `daemonize` has returned.
  | serving (held : Option String)
  | exited (status : Nat)
  | killed
deriving DecidableEq, Repr

/-- One start of the program in the background. -/
structure Launch where
  pidfile : Option String
  master : Master
  child : Child
  daemon : Daemon
  -- The process ID of the daemon.
  pid : Nat
  -- The descriptor of the pipe that is written to, and whether it still is one of the pipe in the
  -- child and the daemon. It is not if it has the number of a standard descriptor, which the pipe
  -- gets if that one was closed when the program was started.
  noteFd : Nat
  piped : Bool
  -- What was written to the notification pipe and not read yet.
  note : List Nat
  -- How much of the daemon's process ID has reached the PID file, and whether the daemon has
  -- written that all went well. No process looks at these.
  recorded : Nat
  announced : Bool
deriving DecidableEq, Repr

/-- A PID file, where one that does not exist is empty. Launches hold locks by their numbers. -/
structure PidFile where
  content : List Char
  holder : Option Nat
deriving DecidableEq, Repr

/-- The files of the system, by their paths. -/
abbrev PidFiles := String → PidFile

/-- The line that is written to the PID file. -/
def pidLine (pid : Nat) : List Char := Nat.toDigits 10 pid ++ ['\n']

/-- Writing to the start of a file that is not truncated. -/
def overwrite (text content : List Char) : List Char := text ++ content.drop text.length

/-- The ends of the notification pipe that are still open for reading. -/
def Launch.hasReader (launch : Launch) : Bool :=
  -- The child closes its own end first, so the daemon inherits none.
  launch.master = .fork || launch.master = .waiting || launch.child = .closes

/-- The ends of the notification pipe that are still open for writing. -/
def Launch.hasWriter (launch : Launch) : Bool :=
  -- The master never closes its own end.
  launch.master = .fork || launch.master = .waiting ||
  (launch.piped &&
    ((match launch.child with
      | .unborn | .exited _ | .killed => false
      | _ => true) ||
    (match launch.daemon with
      | .unborn | .serving _ | .exited _ | .killed => false
      | _ => true)))

/-- Whether a write of a note returns. Without a reader of the pipe, SIGPIPE ends the process. -/
def Launch.canNote (launch : Launch) : Bool := !launch.piped || launch.hasReader

/-- The next call of the master returns. -/
def masterCall (answer : Answer) (launch : Launch) : Launch :=
  match launch.master with
  | .pipe =>
    if answer.ok then { launch with master := .fork, noteFd := answer.fd, piped := true }
    else { launch with master := .exited 1 }
  | .fork =>
    if answer.ok then { launch with master := .waiting, child := .closes }
    else { launch with master := .exited 1 }
  | .waiting =>
    if answer.ok then
      match launch.note with
      | status :: rest => { launch with master := .exited status, note := rest }
      -- An empty pipe blocks, unless nobody can write to it any more.
      | [] => if launch.hasWriter then launch else { launch with master := .exited 1 }
    else { launch with master := .exited 1 }
  -- What a server in the foreground does is not followed.
  | _ => launch

/-- A child process writes a status to its end of the pipe, or to what is there by now. -/
def sendNote (status : Nat) (launch : Launch) : Launch :=
  { launch with note := if launch.piped then launch.note ++ [status] else launch.note }

/-- A failed step of the child. -/
def Launch.childTries (ok : Bool) (next : Child) (launch : Launch) : Launch :=
  { launch with child := if ok then next else .reports }

/-- The next call of the child returns. -/
def childCall (answer : Answer) (launch : Launch) : Launch :=
  match launch.child with
  -- Closing and setting the file mode mask are not checked.
  | .closes => { launch with child := .setsid }
  | .setsid => launch.childTries answer.ok .chdir
  | .chdir => launch.childTries answer.ok (.freopen 0)
  | .freopen standard =>
    -- The old descriptor is closed whether the new one can be opened or not.
    let launch := { launch with piped := launch.piped && launch.noteFd ≠ standard }
    launch.childTries answer.ok (match standard with
      | 0 => .freopen 1
      | 1 => .freopen 2
      | 2 => .fork)
  | .fork =>
    if answer.ok then
      { launch with
        child := .leaves
        pid := answer.pid
        daemon := match launch.pidfile with
          | some path => .opens path
          | none => .notifies none }
    else { launch with child := .reports }
  | .reports =>
    -- A failed write is ignored.
    if launch.canNote then
      { (if answer.ok then sendNote 2 launch else launch) with child := .exited 1 }
    else { launch with child := .killed }
  | .leaves => { launch with child := .exited 0 }
  | _ => launch

/-- The PID file whose lock the daemon holds. -/
def Daemon.holds : Daemon → Option String
  | .fdopens path => some path
  | .prints path => some path
  | .reports held => held
  | .notifies held => held
  | .closes held => held
  | .serving held => held
  | _ => none

/-- A lock is given up when its process ends. -/
def releaseLock (held : Option String) (files : PidFiles) : PidFiles :=
  match held with
  | none => files
  -- The file itself stays, with what is written in it.
  | some path => Function.update files path { files path with holder := none }

/-- The next call of the daemon returns. The launch has a number, under which it takes locks. -/
def daemonCall (number : Nat) (answer : Answer) (launch : Launch) (files : PidFiles) :
    Launch × PidFiles :=
  match launch.daemon with
  | .opens path =>
    ({ launch with daemon := if answer.ok then .locks path else .reports none }, files)
  | .locks path =>
    -- F_TLOCK does not wait for another holder.
    if answer.ok ∧ (files path).holder = none then
      ({ launch with daemon := .fdopens path },
        Function.update files path { files path with holder := some number })
    else ({ launch with daemon := .reports none }, files)
  | .fdopens path =>
    ({ launch with daemon := if answer.ok then .prints path else .reports (some path) }, files)
  | .prints path =>
    -- Neither `fprintf` nor `fflush` is checked.
    ({ launch with daemon := .notifies (some path), recorded := answer.written },
      Function.update files path { files path with
        content := overwrite ((pidLine launch.pid).take answer.written) (files path).content })
  | .reports held =>
    if launch.canNote then
      ({ (if answer.ok then sendNote 2 launch else launch) with daemon := .exited 1 },
        releaseLock held files)
    else ({ launch with daemon := .killed }, releaseLock held files)
  | .notifies held =>
    if launch.canNote then
      if answer.ok then
        ({ sendNote 0 launch with daemon := .closes held, announced := true }, files)
      else ({ launch with daemon := .exited 1 }, releaseLock held files)
    else ({ launch with daemon := .killed }, releaseLock held files)
  | .closes held => ({ launch with daemon := .serving held }, files)
  -- The server ends at some time, and its lock goes with it.
  | .serving held => ({ launch with daemon := .exited 0 }, releaseLock held files)
  | _ => (launch, files)

/-- The three processes of a launch. -/
inductive Role where
  | master
  | child
  | daemon
deriving DecidableEq, Repr

/-- All launches of the program on a system, and its PID files. -/
structure Host where
  launches : Nat → Launch
  files : PidFiles

/-- What can happen on the system. -/
inductive HostEvent where
  -- The program is started in the background, by init or by another process.
  | start (number : Nat) (pidfile : Option String) (init : Bool)
  -- The call that a process has made returns.
  | call (number : Nat) (role : Role) (answer : Answer)
  -- A process is killed.
  | kill (number : Nat) (role : Role)

/-- A launch that has not been made. -/
def Launch.blank : Launch := ⟨none, .unstarted, .unborn, .unborn, 0, 0, false, [], 0, false⟩

/-- Replaces one launch. -/
def Host.setLaunch (number : Nat) (launch : Launch) (host : Host) : Host :=
  { host with launches := Function.update host.launches number launch }

/-- A process is killed, if it is there. -/
def killProcess (role : Role) (launch : Launch) : Launch :=
  match role with
  | .master =>
    match launch.master with
    -- Who is not there yet, or not any more, cannot be killed.
    | .unstarted | .exited _ => launch
    | _ => { launch with master := .killed }
  | .child =>
    match launch.child with
    | .unborn | .exited _ => launch
    | _ => { launch with child := .killed }
  | .daemon =>
    match launch.daemon with
    | .unborn | .exited _ => launch
    | _ => { launch with daemon := .killed }

/-- Handles one event. -/
def hostStep (host : Host) : HostEvent → Host
  | .start number pidfile init =>
    -- A number stands for one launch only.
    if (host.launches number).master = .unstarted then
      host.setLaunch number { Launch.blank with
        pidfile := pidfile, master := if init then .foreground else .pipe }
    else host
  | .call number .master answer =>
    host.setLaunch number (masterCall answer (host.launches number))
  | .call number .child answer =>
    host.setLaunch number (childCall answer (host.launches number))
  | .call number .daemon answer =>
    let (launch, files) := daemonCall number answer (host.launches number) host.files
    { host.setLaunch number launch with files := files }
  | .kill number role =>
    let launch := host.launches number
    { host.setLaunch number (killProcess role launch) with
      files := if role = .daemon then releaseLock launch.daemon.holds host.files
        else host.files }

/-- A system on which the program was never started, with whatever files there are. -/
def hostStart (content : String → List Char) : Host :=
  ⟨fun _ => Launch.blank, fun path => ⟨content path, none⟩⟩

/-- What an event can do to one launch. -/
inductive Advances (host : Host) (number : Nat) : HostEvent → Launch → Prop where
  -- The event names another launch, or one that has been made already.
  | stays (event : HostEvent) : Advances host number event (host.launches number)
  | starts (pidfile : Option String) (init : Bool)
      (fresh : (host.launches number).master = .unstarted) :
      Advances host number (.start number pidfile init) { Launch.blank with
        pidfile := pidfile, master := if init then .foreground else .pipe }
  | master (answer : Answer) :
      Advances host number (.call number .master answer) (masterCall answer (host.launches number))
  | child (answer : Answer) :
      Advances host number (.call number .child answer) (childCall answer (host.launches number))
  | daemon (answer : Answer) :
      Advances host number (.call number .daemon answer)
        (daemonCall number answer (host.launches number) host.files).1
  | dies (role : Role) :
      Advances host number (.kill number role) (killProcess role (host.launches number))

/-- An event concerns the launch that it names and no other. -/
theorem hostStep_advances (host : Host) (event : HostEvent) (number : Nat) :
    Advances host number event ((hostStep host event).launches number) := by
  -- One launch at a time is replaced, so all the others stay as they are.
  have one : ∀ (other : Nat) (launch : Launch),
      (other = number → Advances host number event launch) →
      Advances host number event (Function.update host.launches other launch number) := by
    intro other launch own
    by_cases same : number = other
    · subst same
      rw [Function.update_self]
      exact own rfl
    · rw [Function.update_of_ne same]
      exact .stays event
  cases event with
  | start other pidfile init =>
    simp only [hostStep]
    split
    · rename_i fresh
      refine one other _ fun own => ?_
      subst own
      exact .starts pidfile init fresh
    · exact .stays _
  | call other role answer =>
    cases role with
    | master =>
      refine one other _ fun own => ?_
      subst own
      exact .master answer
    | child =>
      refine one other _ fun own => ?_
      subst own
      exact .child answer
    | daemon =>
      refine one other _ fun own => ?_
      subst own
      exact .daemon answer
  | kill other role =>
    refine one other _ fun own => ?_
    subst own
    exact .dies role

end Daliserver

import Daliserver.Log.Channels
import Daliserver.Machine.Run

/-! Where a message is written to, as far as the calls that led up to it tell. -/

namespace Daliserver

open Machine

/-- The three channels of the log. -/
inductive Channel where
  | console
  | file
  | syslog
deriving DecidableEq, Repr

/-- The channel that a text was written to. -/
def Written.channel (written : Written) : Channel :=
  match written.sink with
  | .console _ => .console
  | .file _ => .file
  | .syslog _ => .syslog

/-- What was written to a channel. -/
def Log.on (channel : Channel) (log : Log) : List Written :=
  log.written.filter fun written => written.channel = channel

namespace LogCall

/-- The level that a call sets for the console. -/
def consoleLevel : LogCall → Option Nat
  | .setLevel level => some level
  | _ => none

/-- The level that a call sets for the file. -/
def fileLevel : LogCall → Option Nat
  | .setLogfileLevel level => some level
  | _ => none

/-- The level that a call sets for syslog. -/
def syslogLevel : LogCall → Option Nat
  | .setSyslogLevel level => some level
  | _ => none

/-- The path that a call configures, which may be that there is no file. -/
def configured : LogCall → Option (Option String)
  | .setLogfile path _ => some path
  | _ => none

/-- Whether a call that opens the file succeeds. -/
def opened : LogCall → Option Bool
  | .setLogfile _ fopen => some fopen.isNone
  | .reopenFile fopen => some fopen.isNone
  | _ => none

/-- Whether a call enables syslog or disables it. -/
def enabled : LogCall → Option Bool
  | .setSyslog name => some name.isSome
  | _ => none

end LogCall

/-- The level of the console after some calls. -/
def consoleLevel (build : LogBuild) (history : List LogCall) : Nat :=
  latest LogCall.consoleLevel build.levelDefault history

/-- The level of the file after some calls. -/
def fileLevel (build : LogBuild) (history : List LogCall) : Nat :=
  latest LogCall.fileLevel build.levelDefault history

/-- The level of syslog after some calls. -/
def syslogLevel (history : List LogCall) : Nat :=
  latest LogCall.syslogLevel logLevelError history

/-- The path that is configured after some calls. -/
def fileConfigured (history : List LogCall) : Option String :=
  latest LogCall.configured none history

/-- The file was opened when this was last tried. -/
def fileOpened (history : List LogCall) : Bool :=
  latest LogCall.opened false history

/-- Syslog is enabled after some calls. -/
def syslogEnabled (history : List LogCall) : Bool :=
  latest LogCall.enabled false history

/-- Errors go to another stream than the rest. -/
def streamFor (level : Nat) : Stream := if level ≤ logLevelError then .stderr else .stdout

/-- The priority of a level. -/
def priorityFor : Nat → Priority
  | 0 => .alert
  | 1 => .err
  | 2 => .warning
  | 3 => .info
  | _ => .debug

namespace Message

/-- The text of a message, with its arguments filled in. -/
def text (build : LogBuild) (message : Message) : String :=
  build.render message.format message.args

/-- A message on the console. -/
def onConsole (build : LogBuild) (message : Message) : Written :=
  ⟨.console (streamFor message.level), logLine message (some (message.text build))⟩

/-- A message in a file. -/
def onFile (build : LogBuild) (message : Message) (path : String) : Written :=
  ⟨.file path, logLine message (some (message.text build))⟩

/-- A message in syslog, which adds the date by itself. -/
def onSyslog (build : LogBuild) (message : Message) : Written :=
  ⟨.syslog (priorityFor message.level), some (message.text build)⟩

end Message

/-- What a message should add to a channel, after some calls. -/
def routes (build : LogBuild) (history : List LogCall) (message : Message) :
    Channel → List Written
  | .console =>
    if message.level ≤ consoleLevel build history then [message.onConsole build] else []
  | .file =>
    match fileConfigured history with
    | some path =>
      if fileOpened history ∧ message.level ≤ fileLevel build history then
        [message.onFile build path]
      else []
    | none => []
  | .syslog =>
    if syslogEnabled history ∧ message.level ≤ syslogLevel history then
      [message.onSyslog build]
    else []

/-- The log after some calls. -/
def logAfter (build : LogBuild) (history : List LogCall) : Log :=
  run (logStep build) (logStart build) history

/-- A message goes where it should, and a file that could not be reopened is not forgotten. -/
structure Routed (build : LogBuild) (history : List LogCall) (message : Message) : Prop where
  channels : ∀ channel, (logAfter build (history ++ [.message message])).on channel =
    (logAfter build history).on channel ++ routes build history message channel
  kept : ∀ failure, (logAfter build (history ++ [.reopenFile (some failure)])).logfile =
    fileConfigured history
  restored : ∀ failure later, (∀ call ∈ later, LogCall.configured call = none) →
    (logAfter build (history ++ .reopenFile (some failure) :: later ++
      [.reopenFile none])).fpLogfile = fileConfigured history

/-- What a message that was compiled in adds to a channel. -/
def added (build : LogBuild) (message : Message) (log : Log) : Channel → List Written
  | .console => if message.level ≤ log.loglevel then [message.onConsole build] else []
  | .file =>
    match log.fpLogfile with
    | some path => if message.level ≤ log.loglevelFile then [message.onFile build path] else []
    | none => []
  | .syslog =>
    -- A level without a name has no priority, and is kept from syslog.
    if message.level ≤ log.loglevelSyslog ∧ message.level ≤ logLevelDebug then
      [message.onSyslog build]
    else []

/-- What a message adds to the log. -/
def addedBy (build : LogBuild) (message : Message) (log : Log) : List Written :=
  if message.level ≤ build.levelMax then
    added build message log .console ++ added build message log .file ++
      added build message log .syslog
  else []

/-- The log with more written to it. -/
def Log.add (more : List Written) (log : Log) : Log := { log with written := log.written ++ more }

@[simp] theorem Log.add_nil (log : Log) : log.add [] = log := by
  simp [Log.add]

@[simp] theorem Log.add_add (first second : List Written) (log : Log) :
    (log.add first).add second = log.add (first ++ second) := by
  simp [Log.add]

@[simp] theorem Log.write_eq_add (sink : Sink) (text : Option String) (log : Log) :
    log.write sink text = log.add [⟨sink, text⟩] := rfl

/-- Every level that has a name is written with its priority. -/
theorem switch_priority (level : Nat) (text : Option String) (lines : Log) :
    (if level = logLevelFatal then lines.write (.syslog .alert) text
      else if level = logLevelError then lines.write (.syslog .err) text
      else if level = logLevelWarn then lines.write (.syslog .warning) text
      else if level = logLevelInfo then lines.write (.syslog .info) text
      else if level = logLevelDebug then lines.write (.syslog .debug) text
      else lines) =
      lines.add (if level ≤ logLevelDebug then [⟨.syslog (priorityFor level), text⟩] else []) := by
  match level with
  | 0 | 1 | 2 | 3 | 4 => rfl
  | level + 5 =>
    simp [logLevelFatal, logLevelError, logLevelWarn, logLevelInfo, logLevelDebug]

/-- A message changes nothing but what was written. -/
theorem logPrintf_eq (build : LogBuild) (message : Message) (log : Log) :
    logPrintf build message log = log.add (addedBy build message log) := by
  rw [logPrintf, logVprintf, addedBy]
  by_cases compiled : message.level ≤ build.levelMax
  · simp only [if_pos compiled, switch_priority, added]
    -- The outer test of the console and the file only tells whether a date is needed.
    cases isOpen : log.fpLogfile with
    | none =>
      by_cases onConsole : message.level ≤ log.loglevel <;>
        by_cases onSyslog : message.level ≤ log.loglevelSyslog <;>
        simp [onConsole, onSyslog, vprintf, streamFor, Message.text, Message.onConsole,
          Message.onSyslog]
    | some path =>
      by_cases onConsole : message.level ≤ log.loglevel <;>
        by_cases onFile : message.level ≤ log.loglevelFile <;>
        by_cases onSyslog : message.level ≤ log.loglevelSyslog <;>
        simp [onConsole, onFile, onSyslog, vprintf, streamFor, Message.text, Message.onConsole,
          Message.onFile, Message.onSyslog]
  · simp [compiled]

/-- Reopening succeeds or closes the file, and keeps the path in any case. -/
theorem logReopenFile_eq (build : LogBuild) (fopen : Option Failure) (log : Log) :
    ∃ more, (logReopenFile build fopen log).2 =
      Log.add more { log with fpLogfile := if fopen.isNone then log.logfile else none } := by
  cases configured : log.logfile with
  | none => exact ⟨[], by simp [logReopenFile, configured]⟩
  | some path =>
    cases fopen with
    | none => exact ⟨[], by simp [logReopenFile, configured]⟩
    | some failure =>
      simp only [logReopenFile, configured, logPrintf_eq]
      exact ⟨_, rfl⟩

/-- A path that could be duplicated is opened like one that was configured before. -/
theorem logSetLogfile_eq (build : LogBuild) (path : Option String) (fopen : Option Failure)
    (log : Log) :
    logSetLogfile build path none fopen log =
      logReopenFile build fopen { log with logfile := path } := by
  cases path <;> rfl

/-- A level that was not compiled in admits as much as the highest one that was. -/
theorem le_clampLevel {build : LogBuild} {level : Nat} (compiled : level ≤ build.levelMax)
    (set : Nat) : level ≤ clampLevel build set ↔ level ≤ set := by
  unfold clampLevel
  split <;> omega

/-- All that some calls have set. -/
structure Settings where
  console : Nat
  file : Nat
  syslog : Nat
  configured : Option String
  opened : Bool
  enabled : Bool

/-- What is set after some calls. -/
def settings (build : LogBuild) (history : List LogCall) : Settings where
  console := consoleLevel build history
  file := fileLevel build history
  syslog := syslogLevel history
  configured := fileConfigured history
  opened := fileOpened history
  enabled := syslogEnabled history

/-- One more call sets what it has a value for. -/
theorem settings_concat (build : LogBuild) (history : List LogCall) (call : LogCall) :
    settings build (history ++ [call]) = {
      console := call.consoleLevel.getD (consoleLevel build history)
      file := call.fileLevel.getD (fileLevel build history)
      syslog := call.syslogLevel.getD (syslogLevel history)
      configured := call.configured.getD (fileConfigured history)
      opened := call.opened.getD (fileOpened history)
      enabled := call.enabled.getD (syslogEnabled history) } := by
  simp only [settings, consoleLevel, fileLevel, syslogLevel, fileConfigured, fileOpened,
    syslogEnabled, latest_concat]

/-- Every variable is as it was set. -/
structure Follows (build : LogBuild) (settings : Settings) (log : Log) : Prop where
  console : ∀ level ≤ build.levelMax, (level ≤ log.loglevel ↔ level ≤ settings.console)
  file : ∀ level ≤ build.levelMax, (level ≤ log.loglevelFile ↔ level ≤ settings.file)
  syslog : ∀ level ≤ build.levelMax, (level ≤ log.loglevelSyslog ↔ level ≤ settings.syslog)
  logfile : log.logfile = settings.configured
  fpLogfile : log.fpLogfile = if settings.opened then settings.configured else none
  enabled : log.enabledSyslog = settings.enabled

/-- What is written is not among the variables. -/
theorem Follows.add {build : LogBuild} {settings : Settings} {log : Log}
    (follows : Follows build settings log) (more : List Written) :
    Follows build settings (log.add more) :=
  { follows with }

/-- A file is open after its last opening exactly if that succeeded. -/
theorem Follows.reopen {build : LogBuild} {settings : Settings} {log : Log}
    (follows : Follows build settings log) (fopen : Option Failure) :
    Follows build { settings with opened := fopen.isNone } (logReopenFile build fopen log).2 := by
  obtain ⟨more, reopened⟩ := logReopenFile_eq build fopen log
  have file : (if fopen.isNone then log.logfile else none) =
      if fopen.isNone then settings.configured else none := by
    rw [follows.logfile]
  have now : Follows build { settings with opened := fopen.isNone }
      { log with fpLogfile := if fopen.isNone then log.logfile else none } :=
    { follows with fpLogfile := file }
  rw [reopened]
  exact now.add more

/-- Every call sets the variables that are its own, and leaves the others alone. -/
theorem Follows.step {build : LogBuild} {history : List LogCall} {log : Log}
    (follows : Follows build (settings build history) log) (call : LogCall) :
    Follows build (settings build (history ++ [call])) (logStep build log call) := by
  rw [settings_concat]
  cases call with
  | setLevel level =>
    exact { follows with console := fun _ compiled => le_clampLevel compiled level }
  | setLogfile path fopen =>
    -- The file that was open before is closed without a look at its path.
    have closed : Follows build
        { settings build history with configured := path, opened := false }
        { log with logfile := path, fpLogfile := none } :=
      { follows with logfile := rfl, fpLogfile := rfl }
    rw [logStep, logSetLogfile_eq]
    exact closed.reopen fopen
  | setLogfileLevel level =>
    exact { follows with file := fun _ compiled => le_clampLevel compiled level }
  | reopenFile fopen => exact follows.reopen fopen
  | setSyslog name =>
    cases name with
    | none => exact { follows with enabled := rfl }
    | some ident => exact { follows with enabled := rfl }
  | setSyslogLevel level =>
    exact { follows with syslog := fun _ compiled => le_clampLevel compiled level }
  | message message =>
    rw [logStep, logPrintf_eq]
    exact follows.add _

/-- Whatever was called and whatever failed, the variables are as they were set. -/
theorem follows_logAfter (build : LogBuild) (history : List LogCall) :
    Follows build (settings build history) (logAfter build history) := by
  let tied : List LogCall → Log → Prop := fun past log => Follows build (settings build past) log
  have initial : tied [] (logStart build) := by
    constructor <;> intros <;> rfl
  exact run_history initial (fun past log call follows => Follows.step follows call) history

theorem logAfter_concat (build : LogBuild) (history : List LogCall) (call : LogCall) :
    logAfter build (history ++ [call]) = logStep build (logAfter build history) call :=
  run_append (logStep build) (logStart build) history [call]

@[simp] theorem Log.on_add (channel : Channel) (more : List Written) (log : Log) :
    (log.add more).on channel =
      log.on channel ++ more.filter fun written => written.channel = channel :=
  List.filter_append log.written more

/-- Every channel gets entries of its own kind only. -/
theorem channel_of_added {build : LogBuild} {message : Message} {log : Log} {channel : Channel}
    {written : Written} (member : written ∈ added build message log channel) :
    written.channel = channel := by
  cases channel with
  | console =>
    simp only [added, List.mem_ite_nil_right, List.mem_singleton] at member
    rw [member.2]
    rfl
  | file =>
    simp only [added] at member
    split at member
    · simp only [List.mem_ite_nil_right, List.mem_singleton] at member
      rw [member.2]
      rfl
    · cases member
  | syslog =>
    simp only [added, List.mem_ite_nil_right, List.mem_singleton] at member
    rw [member.2]
    rfl

/-- What a message adds to a channel is all that is seen of it there. -/
theorem addedBy_channel {build : LogBuild} {message : Message}
    (compiled : message.level ≤ build.levelMax) (log : Log) (channel : Channel) :
    ((addedBy build message log).filter fun written => written.channel = channel) =
      added build message log channel := by
  have parts : ∀ other, ((added build message log other).filter fun written =>
      written.channel = channel) =
        if other = channel then added build message log other else [] := by
    intro other
    by_cases same : other = channel
    · rw [if_pos same, List.filter_eq_self]
      intro written member
      simp [channel_of_added member, same]
    · rw [if_neg same, List.filter_eq_nil_iff]
      intro written member
      simp [channel_of_added member, same]
  rw [addedBy, if_pos compiled, List.filter_append, List.filter_append, parts, parts, parts]
  -- Of the three parts only the one of the channel remains.
  cases channel <;> simp

/-- A channel gets what it should exactly if this is what the message adds to it. -/
theorem channels_iff {build : LogBuild} {message : Message}
    (compiled : message.level ≤ build.levelMax) (history : List LogCall) (channel : Channel) :
    (logAfter build (history ++ [.message message])).on channel =
        (logAfter build history).on channel ++ routes build history message channel ↔
      added build message (logAfter build history) channel =
        routes build history message channel := by
  rw [logAfter_concat, logStep, logPrintf_eq, Log.on_add, addedBy_channel compiled,
    List.append_right_inj]

/-- The console follows its level. -/
theorem added_console {build : LogBuild} {message : Message}
    (compiled : message.level ≤ build.levelMax) (history : List LogCall) :
    added build message (logAfter build history) .console =
      routes build history message .console := by
  have level := (follows_logAfter build history).console message.level compiled
  simp only [added, routes, level, settings]

/-- The file follows its level, its path, and what became of opening it. -/
theorem added_file {build : LogBuild} {message : Message}
    (compiled : message.level ≤ build.levelMax) (history : List LogCall) :
    added build message (logAfter build history) .file =
      routes build history message .file := by
  have level := (follows_logAfter build history).file message.level compiled
  have file := (follows_logAfter build history).fpLogfile
  simp only [added, routes, level, file, settings]
  by_cases opened : fileOpened history = true
  · simp [opened]
  · cases fileConfigured history <;> simp [opened]

/-- Syslog follows its level, but it does not follow whether it is enabled. -/
theorem added_syslog_iff {build : LogBuild} {message : Message}
    (compiled : message.level ≤ build.levelMax) (history : List LogCall) :
    added build message (logAfter build history) .syslog =
        routes build history message .syslog ↔
      syslogLevel history < message.level ∨
        (syslogEnabled history = true ↔ message.level ≤ logLevelDebug) := by
  have level := (follows_logAfter build history).syslog message.level compiled
  simp only [added, routes, level, settings]
  by_cases above : syslogLevel history < message.level
  · simp [above, Nat.not_le.mpr above]
  · simp only [above, Nat.not_lt.mp above, true_and, and_true, false_or]
    by_cases named : message.level ≤ logLevelDebug <;>
      by_cases enabled : syslogEnabled history = true <;>
      simp [named, enabled]

/-- Only configuring another file changes the path. -/
theorem fileConfigured_append {later : List LogCall}
    (same : ∀ call ∈ later, LogCall.configured call = none) (history : List LogCall) :
    fileConfigured (history ++ later) = fileConfigured history :=
  latest_append same none history

/-- Once the file is reopened it is the one that was configured, whatever failed before. -/
theorem fpLogfile_reopened (build : LogBuild) {later : List LogCall}
    (same : ∀ call ∈ later, LogCall.configured call = none) (history : List LogCall) :
    (logAfter build (history ++ later ++ [.reopenFile none])).fpLogfile =
      fileConfigured history := by
  have opened : fileOpened (history ++ later ++ [.reopenFile none]) = true :=
    latest_concat LogCall.opened false (history ++ later) (.reopenFile none)
  have path : fileConfigured (history ++ later ++ [.reopenFile none]) =
      fileConfigured history := by
    rw [fileConfigured_append (by simp [LogCall.configured]), fileConfigured_append same]
  have file := (follows_logAfter build (history ++ later ++ [.reopenFile none])).fpLogfile
  simp only [settings, opened, if_true, path] at file
  exact file

/--
The log follows its configuration exactly if syslog need not be enabled, or is.

Whether it is enabled is known to the code, but it is never asked for. Levels that have no name
are kept from syslog at any rate.
-/
theorem log_routed_iff {build : LogBuild} {message : Message}
    (compiled : message.level ≤ build.levelMax) (history : List LogCall) :
    Routed build history message ↔
      syslogLevel history < message.level ∨
        (syslogEnabled history = true ↔ message.level ≤ logLevelDebug) := by
  constructor
  · intro routed
    have syslog := (channels_iff compiled history .syslog).mp (routed.channels .syslog)
    exact (added_syslog_iff compiled history).mp syslog
  · intro follows
    refine ⟨fun channel => (channels_iff compiled history channel).mpr ?_, ?_, ?_⟩
    · cases channel with
      | console => exact added_console compiled history
      | file => exact added_file compiled history
      | syslog => exact (added_syslog_iff compiled history).mpr follows
    · intro failure
      have logfile := (follows_logAfter build (history ++ [.reopenFile (some failure)])).logfile
      rw [logfile]
      exact fileConfigured_append (by simp [LogCall.configured]) history
    · intro failure later same
      apply fpLogfile_reopened
      intro call member
      rcases List.mem_cons.mp member with rfl | member
      · rfl
      · exact same call member

/-- A build in which arguments are not filled in. -/
def plainBuild : LogBuild := ⟨logLevelInfo, logLevelInfo, fun format _ => format⟩

/-- What is logged when the process is killed. -/
def killed : Message :=
  ⟨logLevelFatal, "Another signal received, killing process", [], "[2011-01-01 00:00:00] "⟩

/-- Once syslog is enabled, all is well even if the log file cannot be opened. -/
theorem log_routed_enabled :
    Routed plainBuild [.setLogfile (some "/var/log/daliserver.log")
      (some ⟨"Permission denied", "[2011-01-01 00:00:00] "⟩), .setSyslog (some "daliserver")]
      killed :=
  (log_routed_iff (by decide) _).mpr (.inr (by decide))

/-- Syslog is written to when it was never enabled, and also once it is disabled again. -/
theorem syslog_written_unasked :
    ¬ Routed plainBuild [] killed ∧
      ¬ Routed plainBuild [.setSyslog (some "daliserver"), .setSyslog none] killed := by
  refine ⟨fun routed => ?_, fun routed => ?_⟩
  · have lengths := congrArg List.length (routed.channels .syslog)
    revert lengths
    decide
  · have lengths := congrArg List.length (routed.channels .syslog)
    revert lengths
    decide

end Daliserver

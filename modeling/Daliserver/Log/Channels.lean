/-! Logging to the console, to a file, and to syslog (log.c, built with syslog support). -/

namespace Daliserver

def logLevelFatal : Nat := 0
def logLevelError : Nat := 1
def logLevelWarn : Nat := 2
def logLevelInfo : Nat := 3
def logLevelDebug : Nat := 4

/-- An argument of a format string. -/
inductive LogArg where
  | text (value : String)
  | number (value : Int)
deriving DecidableEq, Repr

/-- What is fixed when the program is built. -/
structure LogBuild where
  levelMax : Nat
  levelDefault : Nat
  -- How the C library formats a text.
  render : String → List LogArg → String

/-- Where console output goes. -/
inductive Stream where
  | stdout
  | stderr
deriving DecidableEq, Repr

/-- The priorities of syslog that are used. -/
inductive Priority where
  | alert
  | err
  | warning
  | info
  | debug
deriving DecidableEq, Repr

/-- Where a text is written to. -/
inductive Sink where
  | console (stream : Stream)
  | file (path : String)
  | syslog (priority : Priority)
deriving DecidableEq, Repr

/-- A text that was written, unless its arguments had been used up. -/
structure Written where
  sink : Sink
  text : Option String
deriving DecidableEq, Repr

/-- The variables of log.c, with everything that was written. -/
structure Log where
  loglevel : Nat
  loglevelFile : Nat
  loglevelSyslog : Nat
  -- The configured path.
  logfile : Option String
  -- The path of the file that is open.
  fpLogfile : Option String
  enabledSyslog : Bool
  written : List Written
deriving DecidableEq, Repr

/-- The variables at the start of the program. -/
def logStart (build : LogBuild) : Log where
  loglevel := build.levelDefault
  loglevelFile := build.levelDefault
  loglevelSyslog := logLevelError
  logfile := none
  fpLogfile := none
  enabledSyslog := false
  written := []

/-- A list of arguments, of which nothing is known once it was used. -/
abbrev VaList := Option (List LogArg)

/-- Formats a text, which uses up its arguments. -/
def vprintf (build : LogBuild) (format : String) (args : VaList) : Option String × VaList :=
  (args.map (build.render format), none)

/-- What precedes a text on the console and in the file, behind the date. -/
def prefixfmt (level : Nat) : String :=
  if level = logLevelFatal then "!!FATAL!! "
  else if level = logLevelError then "**ERROR** "
  else if level = logLevelWarn then "--WARNING-- "
  else if level = logLevelInfo then "INFO "
  else ""

/-- Writes a text somewhere. -/
def Log.write (sink : Sink) (text : Option String) (log : Log) : Log :=
  { log with written := log.written ++ [⟨sink, text⟩] }

/-- A message, with the date at which it is logged. -/
structure Message where
  level : Nat
  format : String
  args : List LogArg
  date : String
deriving DecidableEq, Repr

/-- The line for the console and the file. -/
def logLine (message : Message) (text : Option String) : Option String :=
  text.map fun text => message.date ++ prefixfmt message.level ++ text ++ "\n"

/-- `log_vprintf` -/
def logVprintf (build : LogBuild) (message : Message) (args : VaList) (log : Log) : Log :=
  let level := message.level
  if level ≤ build.levelMax then
    let syslogargs := args
    let lines :=
      if level ≤ log.loglevel ∨ log.fpLogfile.isSome ∧ level ≤ log.loglevelFile then
        let out : Stream := if level ≤ logLevelError then .stderr else .stdout
        -- The arguments are copied before the console may use them up.
        let fileargs := args
        let console :=
          if level ≤ log.loglevel then
            log.write (.console out) (logLine message (vprintf build message.format args).1)
          else log
        match log.fpLogfile with
        | some path =>
          if level ≤ log.loglevelFile then
            console.write (.file path) (logLine message (vprintf build message.format fileargs).1)
          else console
        | none => console
      else log
    -- Whether syslog was enabled is not looked at.
    if level ≤ log.loglevelSyslog then
      let text := (vprintf build message.format syslogargs).1
      if level = logLevelFatal then lines.write (.syslog .alert) text
      else if level = logLevelError then lines.write (.syslog .err) text
      else if level = logLevelWarn then lines.write (.syslog .warning) text
      else if level = logLevelInfo then lines.write (.syslog .info) text
      else if level = logLevelDebug then lines.write (.syslog .debug) text
      else lines
    else lines
  else log

/-- `log_printf` -/
def logPrintf (build : LogBuild) (message : Message) (log : Log) : Log :=
  logVprintf build message (some message.args) log

/-- A level that was compiled in. -/
def clampLevel (build : LogBuild) (level : Nat) : Nat :=
  if level > build.levelMax then build.levelMax else level

/-- `log_set_level` -/
def logSetLevel (build : LogBuild) (level : Nat) (log : Log) : Log :=
  { log with loglevel := clampLevel build level }

/-- `log_set_logfile_level` -/
def logSetLogfileLevel (build : LogBuild) (level : Nat) (log : Log) : Log :=
  { log with loglevelFile := clampLevel build level }

/-- `log_set_syslog_level` -/
def logSetSyslogLevel (build : LogBuild) (level : Nat) (log : Log) : Log :=
  { log with loglevelSyslog := clampLevel build level }

/-- Why a call of the C library failed, and when that is reported. -/
structure Failure where
  reason : String
  date : String
deriving DecidableEq, Repr

/-- The error that reports a failure, at `LOG_LEVEL_ERROR`. -/
def Failure.message (format path : String) (failure : Failure) : Message :=
  ⟨logLevelError, format, [.text path, .text failure.reason], failure.date⟩

/-- `log_reopen_file`, where `fopen` may fail -/
def logReopenFile (build : LogBuild) (fopen : Option Failure) (log : Log) : Int × Log :=
  let closed := { log with fpLogfile := none }
  match closed.logfile with
  | none => (0, closed)
  | some path =>
    match fopen with
    | none => (0, { closed with fpLogfile := some path })
    | some failure =>
      (-1, logPrintf build (failure.message "Error opening log file %s: %s" path) closed)

/-- `log_set_logfile`, where `strdup` and `fopen` may fail -/
def logSetLogfile (build : LogBuild) (logfilePath : Option String) (strdup fopen : Option Failure)
    (log : Log) : Int × Log :=
  let unset := { log with logfile := none }
  match logfilePath with
  | none => logReopenFile build fopen unset
  | some path =>
    match strdup with
    | none => logReopenFile build fopen { unset with logfile := some path }
    -- The file that was open before stays open here.
    | some failure =>
      (-1, logPrintf build (failure.message "Error setting log file %s: %s" path) unset)

/-- `log_set_syslog` -/
def logSetSyslog (name : Option String) (log : Log) : Log :=
  let closed := { log with enabledSyslog := false }
  match name with
  | none => closed
  | some _ => { closed with enabledSyslog := true }

/-- A call of one of the functions, with memory to spare for a path. -/
inductive LogCall where
  | setLevel (level : Nat)
  | setLogfile (path : Option String) (fopen : Option Failure)
  | setLogfileLevel (level : Nat)
  | reopenFile (fopen : Option Failure)
  | setSyslog (name : Option String)
  | setSyslogLevel (level : Nat)
  | message (message : Message)
deriving DecidableEq, Repr

/-- Carries out a call. -/
def logStep (build : LogBuild) (log : Log) : LogCall → Log
  | .setLevel level => logSetLevel build level log
  | .setLogfile path fopen => (logSetLogfile build path none fopen log).2
  | .setLogfileLevel level => logSetLogfileLevel build level log
  | .reopenFile fopen => (logReopenFile build fopen log).2
  | .setSyslog name => logSetSyslog name log
  | .setSyslogLevel level => logSetSyslogLevel build level log
  | .message message => logPrintf build message log

end Daliserver

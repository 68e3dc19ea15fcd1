import Daliserver.Machine.Getopt
import Daliserver.Machine.Numeral
import Daliserver.Log.Channels

/-! The options of the program and how they are read from the command line (daliserver.c). -/

namespace Daliserver

open Machine

/-- What the parser takes from the platform and from the way the program was built. -/
structure Platform where
  -- Whether HAVE_VSYSLOG is defined.
  vsyslog : Bool
  -- Whether getopt goes on behind the first operand.
  permute : Bool
  -- The bits of a long.
  longWidth : Nat
  int_le_long : 32 ≤ longWidth
deriving Repr

def intMax : Int := 2 ^ 31 - 1
def defaultNetPort : BitVec 16 := 55825
def defaultNetAddress : List Char := "127.0.0.1".toList
def defaultLogLevel : Nat := logLevelInfo
def defaultPidFile : List Char := "/var/run/daliserver.pid".toList

/-- The option string that is given to getopt. -/
def optstring : List Char := "d:l:p:nsf:br:u:".toList

structure Options where
  port : BitVec 16
  address : List Char
  loglevel : Nat
  dryrun : Bool
  syslog : Bool
  logfile : Option (List Char)
  background : Bool
  pidfile : Option (List Char)
  usbbus : Int
  usbdev : Int
deriving DecidableEq, Repr

/-- What is set before the first option is read. -/
def defaultOptions : Options where
  port := defaultNetPort
  address := defaultNetAddress
  loglevel := defaultLogLevel
  dryrun := false
  syslog := false
  logfile := none
  background := false
  pidfile := none
  -- Any device will do.
  usbbus := -1
  usbdev := -1

/-- The bus and the device in front of and behind the first colon, if both are in range. -/
def splitUsbdev (platform : Platform) (arg : List Char) : Option (Int × Int) :=
  match arg.dropWhile (· != ':') with
  | [] => none
  | _ :: behind =>
    -- The first number is read from the whole text and stops at the colon by itself.
    let bus := strtol platform.longWidth arg
    let dev := strtol platform.longWidth behind
    if bus ≥ 0 ∧ bus ≤ intMax ∧ dev ≥ 0 ∧ dev ≤ intMax then some (bus, dev) else none

/-- The level that the argument of -d names. -/
def levelNamed (optarg : List Char) : Option Nat :=
  if optarg = "fatal".toList then some logLevelFatal
  else if optarg = "error".toList then some logLevelError
  else if optarg = "warn".toList then some logLevelWarn
  else if optarg = "info".toList then some logLevelInfo
  else if optarg = "debug".toList then some logLevelDebug
  else none

/-- One round of the loop over the options; the parser gives up with nothing. -/
def parseRound (platform : Platform) (opts : Options) : Found → Option Options
  | .value 'd' optarg => (levelNamed optarg).map fun level => { opts with loglevel := level }
  | .value 'l' optarg => some { opts with address := optarg }
  -- The cast keeps the lower bits, which is what the mask in front of it does.
  | .value 'p' optarg =>
    some { opts with port := BitVec.ofInt 16 (strtol platform.longWidth optarg) }
  | .flag 'n' => some { opts with dryrun := true }
  -- A build without syslog knows the option but refuses it.
  | .flag 's' => if platform.vsyslog then some { opts with syslog := true } else none
  | .value 'f' optarg => some { opts with logfile := some optarg }
  -- A PID file that was given before is kept.
  | .flag 'b' =>
    some { opts with
      background := true
      pidfile := if opts.pidfile.isNone then some defaultPidFile else opts.pidfile }
  | .value 'r' optarg => some { opts with pidfile := some optarg }
  | .value 'u' optarg =>
    (splitUsbdev platform optarg).map fun place =>
      { opts with usbbus := place.1, usbdev := place.2 }
  | _ => none

/-- The options of a command line, or nothing if it is refused. -/
def parseOpt (platform : Platform) (argv : List (List Char)) : Option Options :=
  (getopt optstring platform.permute argv).foldlM (parseRound platform) defaultOptions

/-- What one option does to the options read so far. -/
inductive Change where
  | loglevel (level : Nat)
  | address (text : List Char)
  | port (number : BitVec 16)
  | dryrun
  | syslog
  | logfile (path : List Char)
  | background
  | pidfile (path : List Char)
  | usbdev (bus dev : Int)
deriving DecidableEq, Repr

namespace Change

/-- The letter of the option. -/
def letter : Change → Char
  | .loglevel _ => 'd'
  | .address _ => 'l'
  | .port _ => 'p'
  | .dryrun => 'n'
  | .syslog => 's'
  | .logfile _ => 'f'
  | .background => 'b'
  | .pidfile _ => 'r'
  | .usbdev _ _ => 'u'

/-- The options behind it. -/
def apply (opts : Options) : Change → Options
  | .loglevel level => { opts with loglevel := level }
  | .address text => { opts with address := text }
  | .port number => { opts with port := number }
  | .dryrun => { opts with dryrun := true }
  | .syslog => { opts with syslog := true }
  | .logfile path => { opts with logfile := some path }
  | .background =>
    { opts with background := true, pidfile := some (opts.pidfile.getD defaultPidFile) }
  | .pidfile path => { opts with pidfile := some path }
  | .usbdev bus dev => { opts with usbbus := bus, usbdev := dev }

/-- What the parser checks before it makes a change. -/
def Allowed (platform : Platform) : Change → Prop
  | .loglevel level => level ≤ logLevelDebug
  | .syslog => platform.vsyslog = true
  | .usbdev bus dev => 0 ≤ bus ∧ bus ≤ intMax ∧ 0 ≤ dev ∧ dev ≤ intMax
  | _ => True

/-- Changes by different options may be made in either order. -/
theorem apply_comm {first second : Change} (different : first.letter ≠ second.letter)
    (opts : Options) : second.apply (first.apply opts) = first.apply (second.apply opts) := by
  -- The PID file is the only field that two options write: -b fills it in, -r replaces it.
  cases first <;> cases second <;> first | rfl | exact absurd rfl different

/-- A change overrides what the same option did before. -/
theorem apply_absorbs {first second : Change} (same : first.letter = second.letter)
    (opts : Options) : second.apply (first.apply opts) = second.apply opts := by
  cases first <;> cases second <;> first | rfl | exact absurd same (by simp [letter])

end Change

/-- A level that has a name is one of the five. -/
theorem levelNamed_le {optarg : List Char} {level : Nat} (named : levelNamed optarg = some level) :
    level ≤ logLevelDebug := by
  -- Five names, each with its level.
  unfold levelNamed at named
  split_ifs at named <;> cases named <;> decide

/-- Both numbers of an accepted place fit in an int and are not negative. -/
theorem splitUsbdev_range {platform : Platform} {arg : List Char} {place : Int × Int}
    (split : splitUsbdev platform arg = some place) :
    0 ≤ place.1 ∧ place.1 ≤ intMax ∧ 0 ≤ place.2 ∧ place.2 ≤ intMax := by
  -- The range is what the parser has tested.
  unfold splitUsbdev at split
  split at split
  · cases split
  · simp only [Option.ite_none_right_eq_some, Option.some.injEq] at split
    obtain ⟨range, rfl⟩ := split
    exact range

/-- An option is refused whatever the options so far are, or makes the same change to all. -/
theorem parseRound_cases (platform : Platform) (found : Found) :
    (∀ opts, parseRound platform opts found = none) ∨
      ∃ change : Change, found.letter = some change.letter ∧ change.Allowed platform ∧
        ∀ opts, parseRound platform opts found = some (change.apply opts) := by
  -- One case for each letter, and one for all the others.
  cases found with
  | refused => exact .inl fun opts => rfl
  | flag letter =>
    by_cases dryrun : letter = 'n'
    · subst dryrun
      exact .inr ⟨.dryrun, rfl, trivial, fun opts => rfl⟩
    by_cases syslog : letter = 's'
    · subst syslog
      by_cases built : platform.vsyslog = true
      · exact .inr ⟨.syslog, rfl, built, fun opts => by simp [parseRound, built, Change.apply]⟩
      · exact .inl fun opts => by simp [parseRound, built]
    by_cases background : letter = 'b'
    · subst background
      refine .inr ⟨.background, rfl, trivial, fun opts => ?_⟩
      cases file : opts.pidfile <;> simp [parseRound, Change.apply, file]
    exact .inl fun opts => by simp [parseRound, dryrun, syslog, background]
  | value letter optarg =>
    by_cases loglevel : letter = 'd'
    · subst loglevel
      cases named : levelNamed optarg with
      | none => exact .inl fun opts => by simp [parseRound, named]
      | some level =>
        exact .inr ⟨.loglevel level, rfl, levelNamed_le named, fun opts => by
          simp [parseRound, named, Change.apply]⟩
    by_cases address : letter = 'l'
    · subst address
      exact .inr ⟨.address optarg, rfl, trivial, fun opts => rfl⟩
    by_cases port : letter = 'p'
    · subst port
      exact .inr ⟨.port _, rfl, trivial, fun opts => rfl⟩
    by_cases logfile : letter = 'f'
    · subst logfile
      exact .inr ⟨.logfile optarg, rfl, trivial, fun opts => rfl⟩
    by_cases pidfile : letter = 'r'
    · subst pidfile
      exact .inr ⟨.pidfile optarg, rfl, trivial, fun opts => rfl⟩
    by_cases usbdev : letter = 'u'
    · subst usbdev
      cases split : splitUsbdev platform optarg with
      | none => exact .inl fun opts => by simp [parseRound, split]
      | some place =>
        exact .inr ⟨.usbdev place.1 place.2, rfl, splitUsbdev_range split, fun opts => by
          simp [parseRound, split, Change.apply]⟩
    exact .inl fun opts => by
      simp [parseRound, loglevel, address, port, logfile, pidfile, usbdev]

end Daliserver

import Daliserver.Options.Parse

/-! Which options a command line can give, and which of its words decide them. -/

namespace Daliserver

open Machine

/-- Options that the rest of the program can rely on. -/
structure Options.WellFormed (platform : Platform) (opts : Options) : Prop where
  loglevel : opts.loglevel ≤ logLevelDebug
  syslog : opts.syslog = true → platform.vsyslog = true
  -- A daemon always has a PID file.
  pidfile : opts.background = true → opts.pidfile.isSome
  -- The device is given by both of its numbers or by neither.
  usbdev : (opts.usbbus = -1 ∧ opts.usbdev = -1) ∨
    ((0 ≤ opts.usbbus ∧ opts.usbbus ≤ intMax) ∧ (0 ≤ opts.usbdev ∧ opts.usbdev ≤ intMax))

namespace Options.WellFormed

variable {platform : Platform} {opts : Options}

theorem default (platform : Platform) : defaultOptions.WellFormed platform :=
  ⟨by decide, by simp [defaultOptions], by decide, .inl ⟨rfl, rfl⟩⟩

theorem apply (good : opts.WellFormed platform) {change : Change}
    (allowed : change.Allowed platform) : (change.apply opts).WellFormed platform := by
  -- A change touches one or two of the fields, and the rest is as before.
  obtain ⟨loglevel, syslog, pidfile, usbdev⟩ := good
  cases change with
  | loglevel level => exact ⟨allowed, syslog, pidfile, usbdev⟩
  | syslog => exact ⟨loglevel, fun _ => allowed, pidfile, usbdev⟩
  | background => exact ⟨loglevel, syslog, fun _ => rfl, usbdev⟩
  | pidfile path => exact ⟨loglevel, syslog, fun _ => rfl, usbdev⟩
  | usbdev bus dev =>
    exact ⟨loglevel, syslog, pidfile, .inr ⟨⟨allowed.1, allowed.2.1⟩, allowed.2.2⟩⟩
  | address | port | dryrun | logfile => exact ⟨loglevel, syslog, pidfile, usbdev⟩

theorem round (good : opts.WellFormed platform) {found : Found} {next : Options}
    (taken : parseRound platform opts found = some next) : next.WellFormed platform := by
  rcases parseRound_cases platform found with refused | ⟨change, -, allowed, makes⟩
  · simp [refused] at taken
  · obtain rfl := Option.some.inj ((makes opts).symm.trans taken)
    exact good.apply allowed

/-- The loop over the options keeps them well formed. -/
theorem rounds (good : opts.WellFormed platform) {options : List Found} {last : Options}
    (taken : options.foldlM (parseRound platform) opts = some last) :
    last.WellFormed platform := by
  -- By induction on the options, as the loop goes through them.
  induction options generalizing opts with
  | nil =>
    obtain rfl := Option.some.inj taken
    exact good
  | cons found options ih =>
    obtain ⟨next, here, later⟩ := Option.bind_eq_some_iff.mp taken
    exact ih (good.round here) later

end Options.WellFormed

/-- The name of a log level. -/
def levelName : Nat → List Char
  | 0 => "fatal".toList
  | 1 => "error".toList
  | 2 => "warn".toList
  | 3 => "info".toList
  | _ => "debug".toList

theorem levelNamed_levelName {level : Nat} (known : level ≤ logLevelDebug) :
    levelNamed (levelName level) = some level := by
  have each : ∀ level < 5, levelNamed (levelName level) = some level := by decide
  exact each level (Nat.lt_succ_of_le known)

/-- The argument of -u for a bus and a device. -/
def placeName (bus dev : Int) : List Char := decimal bus.toNat ++ ':' :: decimal dev.toNat

namespace Options

/-- The options that set every field, those that are as at the start left out. -/
def settings (opts : Options) : List Found :=
  [.value 'd' (levelName opts.loglevel), .value 'l' opts.address,
    .value 'p' (decimal opts.port.toNat)] ++
  (if opts.dryrun then [.flag 'n'] else []) ++
  (if opts.syslog then [.flag 's'] else []) ++
  (opts.logfile.map (Found.value 'f')).toList ++
  (if opts.background then [.flag 'b'] else []) ++
  (opts.pidfile.map (Found.value 'r')).toList ++
  (if opts.usbbus = -1 then [] else [.value 'u' (placeName opts.usbbus opts.usbdev)])

/-- A command line that gives these options. -/
def commandLine (opts : Options) : List (List Char) :=
  "daliserver".toList :: opts.settings.flatMap Found.words

/-- Every setting is one of the option string. -/
theorem settings_known (opts : Options) : ∀ found ∈ opts.settings, found.Known optstring := by
  -- There are three flags and six options with a value.
  intro found member
  have flags : ∀ letter ∈ ['n', 's', 'b'], (Found.flag letter).Known optstring := by
    intro letter member
    simp only [List.mem_cons, List.not_mem_nil, or_false] at member
    rcases member with rfl | rfl | rfl <;> exact ⟨by decide, by decide⟩
  have values : ∀ letter ∈ ['d', 'l', 'p', 'f', 'r', 'u'], ∀ optarg,
      (Found.value letter optarg).Known optstring := by
    intro letter member optarg
    simp only [List.mem_cons, List.not_mem_nil, or_false] at member
    rcases member with rfl | rfl | rfl | rfl | rfl | rfl <;> exact ⟨by decide, by decide⟩
  simp only [settings, List.mem_append, List.mem_cons, List.not_mem_nil, or_false,
    List.mem_ite_nil_right, List.mem_ite_nil_left, Option.mem_toList,
    Option.map_eq_some_iff] at member
  rcases member with
    ((((((rfl | rfl | rfl) | ⟨-, rfl⟩) | ⟨-, rfl⟩) | ⟨_, -, rfl⟩) | ⟨-, rfl⟩) | ⟨_, -, rfl⟩) |
      ⟨-, rfl⟩
  all_goals first
    | exact flags _ (by decide)
    | exact values _ (by decide) _

end Options

section RoundTrip

variable (platform : Platform)

/-- A port is read back from its digits. -/
theorem parseRound_port (port : BitVec 16) (now : Options) :
    parseRound platform now (.value 'p' (decimal port.toNat)) = some { now with port := port } := by
  -- Every port fits in a long, and its low bits are all there is.
  have fits : port.toNat < 2 ^ (platform.longWidth - 1) := by
    have wide : 16 ≤ platform.longWidth - 1 := by
      have := platform.int_le_long
      omega
    exact Nat.lt_of_lt_of_le port.isLt (Nat.pow_le_pow_right (by decide) wide)
  have read := strtol_decimal fits stops_nil
  rw [List.append_nil] at read
  simp [parseRound, read]

/-- A bus and a device are read back from what is written for them. -/
theorem splitUsbdev_placeName {bus dev : Int} (busRange : 0 ≤ bus ∧ bus ≤ intMax)
    (devRange : 0 ≤ dev ∧ dev ≤ intMax) :
    splitUsbdev platform (placeName bus dev) = some (bus, dev) := by
  -- The numbers are those in front of the colon and behind it.
  have fits : ∀ number : Int, number ≤ intMax → number.toNat < 2 ^ (platform.longWidth - 1) := by
    intro number small
    have wide : 2 ^ 31 ≤ 2 ^ (platform.longWidth - 1) := by
      refine Nat.pow_le_pow_right (by decide) ?_
      have := platform.int_le_long
      omega
    have bound : number ≤ 2147483647 := small
    omega
  -- None of the digits is the colon that is looked for.
  have colon : (placeName bus dev).dropWhile (· != ':') = ':' :: decimal dev.toNat := by
    have digits : ∀ letter ∈ decimal bus.toNat, (letter != ':') = true := by
      intro letter member
      have digit := Nat.isDigit_of_mem_toDigits (by decide) (by decide) member
      simp only [bne_iff_ne]
      rintro rfl
      exact absurd digit (by decide)
    rw [placeName, List.dropWhile_append_of_pos digits]
    rfl
  have first : strtol platform.longWidth (placeName bus dev) = bus := by
    rw [placeName, strtol_decimal (fits bus busRange.2) (stops_cons (by decide))]
    exact Int.toNat_of_nonneg busRange.1
  have second : strtol platform.longWidth (decimal dev.toNat) = dev := by
    have read := strtol_decimal (fits dev devRange.2) stops_nil
    rw [List.append_nil] at read
    rw [read]
    exact Int.toNat_of_nonneg devRange.1
  rw [splitUsbdev, colon]
  simp only [first, second]
  exact if_pos ⟨busRange.1, busRange.2, devRange.1, devRange.2⟩

variable (now : Options)

theorem rounds_dryrun (given : Bool) :
    (if given then [Found.flag 'n'] else []).foldlM (parseRound platform) now =
      some { now with dryrun := now.dryrun || given } := by
  cases given <;> simp [parseRound]

theorem rounds_syslog {given : Bool} (built : given = true → platform.vsyslog = true) :
    (if given then [Found.flag 's'] else []).foldlM (parseRound platform) now =
      some { now with syslog := now.syslog || given } := by
  cases given with
  | false => simp
  | true => simp [parseRound, built rfl]

theorem rounds_logfile (given : Option (List Char)) :
    (given.map (Found.value 'f')).toList.foldlM (parseRound platform) now =
      some { now with logfile := given.or now.logfile } := by
  cases given <;> simp [parseRound]

/-- The PID file is replaced by a given one behind -b. -/
theorem rounds_pidfile {background : Bool} {given : Option (List Char)}
    (named : background = true → given.isSome) :
    ((if background then [Found.flag 'b'] else []) ++
        (given.map (Found.value 'r')).toList).foldlM (parseRound platform) now =
      some { now with
        background := now.background || background
        pidfile := given.or now.pidfile } := by
  -- The default is filled in first and replaced by the file that is named.
  cases background <;> cases given <;> simp_all [parseRound]

/-- The settings of well-formed options give these options. -/
theorem rounds_settings {opts : Options} (good : opts.WellFormed platform) :
    opts.settings.foldlM (parseRound platform) defaultOptions = some opts := by
  -- Each option sets its own field, and those left out keep their default.
  have usb : ∀ now : Options, now.usbbus = -1 → now.usbdev = -1 →
      (if opts.usbbus = -1 then []
        else [Found.value 'u' (placeName opts.usbbus opts.usbdev)]).foldlM
          (parseRound platform) now =
      some { now with usbbus := opts.usbbus, usbdev := opts.usbdev } := by
    intro now bus dev
    rcases good.usbdev with ⟨noBus, noDev⟩ | ⟨busRange, devRange⟩
    · rw [if_pos noBus, noBus.trans bus.symm, noDev.trans dev.symm]
      rfl
    · rw [if_neg (by omega)]
      simp [parseRound, splitUsbdev_placeName platform busRange devRange]
  have level := levelNamed_levelName good.loglevel
  rw [Options.settings, List.append_assoc _ (if opts.background then _ else _)]
  simp only [List.foldlM_append, List.foldlM_cons, List.foldlM_nil, parseRound_port,
    rounds_dryrun, rounds_syslog platform _ good.syslog, rounds_logfile,
    rounds_pidfile platform _ good.pidfile, Option.bind_eq_bind, Option.bind_some]
  simp only [parseRound, level, Option.map_some, Option.bind_some, Option.pure_def]
  rw [usb _ rfl rfl]
  simp [defaultOptions]

end RoundTrip

/-- The command line of well-formed options gives them back. -/
theorem parseOpt_commandLine {platform : Platform} {opts : Options}
    (good : opts.WellFormed platform) : parseOpt platform opts.commandLine = some opts := by
  -- The words are taken apart into the settings they were made of.
  rw [parseOpt, getopt, Options.commandLine, List.drop_one, List.tail_cons,
    scan_words opts.settings_known]
  exact rounds_settings platform good

/--
The options that some command line gives are exactly the well-formed ones.

Each of them is given by the command line that is written for it, wherever operands end the
options and however wide a long is.
-/
theorem options_exact (platform : Platform) (opts : Options) :
    ((∃ argv, parseOpt platform argv = some opts) ↔ opts.WellFormed platform) ∧
      (parseOpt platform opts.commandLine = some opts ↔ opts.WellFormed platform) := by
  -- One direction is the loop, and the other one the round trip.
  have sound : ∀ argv, parseOpt platform argv = some opts → opts.WellFormed platform :=
    fun argv parsed => (Options.WellFormed.default platform).rounds parsed
  exact ⟨⟨fun ⟨argv, parsed⟩ => sound argv parsed,
      fun good => ⟨_, parseOpt_commandLine good⟩⟩,
    ⟨sound _, parseOpt_commandLine⟩⟩

/-- Options with different letters may be given in either order. -/
theorem parseRound_commutes (platform : Platform) :
    Commutes (parseRound platform) Found.letter := by
  -- An option that is refused is refused in either order.
  intro opts first second different
  rcases parseRound_cases platform first with refused | ⟨change, letter, -, makes⟩
  · cases parseRound platform opts second <;> simp [refused]
  rcases parseRound_cases platform second with refused | ⟨other, otherLetter, -, makesOther⟩
  · simp [refused, makes]
  · have letters : change.letter ≠ other.letter := by
      rw [letter, otherLetter] at different
      exact fun same => different (by rw [same])
    simp [makes, makesOther, Change.apply_comm letters]

/-- An option that is given again overrides what it did before. -/
theorem parseRound_absorbs (platform : Platform) :
    Absorbs (parseRound platform) Found.letter := by
  -- Whether the second one is refused does not depend on the first.
  intro opts first second same taken
  rcases parseRound_cases platform first with refused | ⟨change, letter, -, makes⟩
  · simp [refused] at taken
  rcases parseRound_cases platform second with refused | ⟨other, otherLetter, -, makesOther⟩
  · simp [refused, makes]
  · have letters : change.letter = other.letter := by
      rw [letter, otherLetter] at same
      exact Option.some.inj same
    simp [makes, makesOther, Change.apply_absorbs letters]

/-- The last option with a letter on a command line. -/
def lastOption (platform : Platform) (argv : List (List Char)) (letter : Char) : Option Found :=
  ((getopt optstring platform.permute argv).filter (·.letter = some letter)).getLast?

/-- A command line that is accepted has no refused option on it. -/
theorem refused_not_mem {platform : Platform} {options : List Found} {opts last : Options}
    (taken : options.foldlM (parseRound platform) opts = some last) :
    options.filter (·.letter = none) = [] := by
  -- Each option of the list was taken, and a refused one is not.
  induction options generalizing opts with
  | nil => rfl
  | cons found options ih =>
    obtain ⟨next, here, later⟩ := Option.bind_eq_some_iff.mp taken
    have lettered : found.letter ≠ none := by
      cases found with
      | refused => cases here
      | flag letter => simp [Found.letter]
      | value letter optarg => simp [Found.letter]
    rw [List.filter_cons_of_neg (by simpa using lettered)]
    exact ih later

/--
The last option with each letter decides.

Two command lines that are accepted and agree in the last option of every letter give the same
options, in whatever order and however their options are written.
-/
theorem last_option_decides (platform : Platform) {first second : List (List Char)}
    {one other : Options} (parsed : parseOpt platform first = some one)
    (parsedOther : parseOpt platform second = some other)
    (agree : ∀ letter, lastOption platform first letter = lastOption platform second letter) :
    one = other := by
  -- The loop is a fold whose steps commute and override each other.
  refine (parseRound_commutes platform).eq_of_lasts (parseRound_absorbs platform) (fun key => ?_)
    parsed parsedOther
  cases key with
  | none => rw [refused_not_mem parsed, refused_not_mem parsedOther]
  | some letter => exact agree letter

/-- Two ways to write the same options, with one of them given twice. -/
theorem last_option_decides_twice :
    parseOpt ⟨true, false, 32, by decide⟩
        (["daliserver", "-r", "/tmp/old", "-nb", "-p80", "-r/tmp/dali.pid"].map String.toList) =
      parseOpt ⟨true, false, 32, by decide⟩
        (["daliserver", "-bnr", "/tmp/dali.pid", "-p", "80"].map String.toList) := by
  -- The four letters that are given are compared one by one.
  have parsed : parseOpt ⟨true, false, 32, by decide⟩
      (["daliserver", "-r", "/tmp/old", "-nb", "-p80", "-r/tmp/dali.pid"].map String.toList) =
        some { defaultOptions with
          port := 80, dryrun := true, background := true
          pidfile := some "/tmp/dali.pid".toList } := by decide
  have other : (parseOpt ⟨true, false, 32, by decide⟩
      (["daliserver", "-bnr", "/tmp/dali.pid", "-p", "80"].map String.toList)).isSome := by decide
  obtain ⟨opts, parsedOther⟩ := Option.isSome_iff_exists.mp other
  rw [parsed, parsedOther]
  refine congrArg some (last_option_decides _ parsed parsedOther fun letter => ?_)
  have options : getopt optstring false
      (["daliserver", "-r", "/tmp/old", "-nb", "-p80", "-r/tmp/dali.pid"].map String.toList) =
        [.value 'r' "/tmp/old".toList, .flag 'n', .flag 'b', .value 'p' "80".toList,
          .value 'r' "/tmp/dali.pid".toList] := by decide
  have otherOptions : getopt optstring false
      (["daliserver", "-bnr", "/tmp/dali.pid", "-p", "80"].map String.toList) =
        [.flag 'b', .flag 'n', .value 'r' "/tmp/dali.pid".toList, .value 'p' "80".toList] := by
    decide
  simp only [lastOption, options, otherOptions, List.filter_cons, Found.letter, Option.some.injEq,
    List.filter_nil]
  by_cases pidfile : 'r' = letter
  · subst pidfile
    rfl
  by_cases port : 'p' = letter
  · subst port
    rfl
  by_cases dryrun : 'n' = letter
  · subst dryrun
    rfl
  by_cases background : 'b' = letter
  · subst background
    rfl
  simp only [pidfile, port, dryrun, background, decide_false, Bool.false_eq_true, if_false]

end Daliserver

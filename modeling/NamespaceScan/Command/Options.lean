import NamespaceScan.Command.Arguments
import NamespaceScan.Command.Help
import NamespaceScan.Files.Host
import NamespaceScan.Text.Blank
import NamespaceScan.Text.Case

/-!
# Options

What a user can ask for, and how it is read from the words of a command line
and from the environment. Values are checked in the order in which their
options were given, and the words behind the options last. Of an option that
is given twice the last value counts.
-/

namespace NamespaceScan.Command

/-- The end of a run before its work begins: what is shown, and how it ends. -/
structure Stop where
  events : List Event := []
  ending : Ending

namespace Stop

/-- Show a text as the result. -/
def showing (text : Text) : Stop := { events := [.results text], ending := .returned (.int 0) }

/-- Refuse words that cannot be read. Only an unknown option is worth a
reminder of the usage. -/
def ofMisuse (topic : Topic) (misuse : Misuse) : Stop where
  ending :=
    match misuse with
    | .unknown _ => Ending.misuse topic misuse.message
    | .missingValue _ | .unwantedValue _ => Ending.refusal 2 misuse.message

/-- Refuse the value of an option. -/
def badValue (topic : Topic) (hint reason : Text) : Stop where
  ending := Ending.misuse topic (Text.concat ["Invalid value for ", hint, ": ", reason])

end Stop

/-- What may stand at a path. -/
inductive Expected where
  | anything
  | file
  | directory
deriving DecidableEq

/-- The word for what is expected. -/
def Expected.word : Expected → Text
  | .anything => "Path"
  | .file => "File"
  | .directory => "Directory"

/-- Why the value of an option is not taken. -/
inductive Objection where
  /-- For a reason in words. -/
  | reason (text : Text)
  /-- It cannot even be looked at. -/
  | fault (fault : Fault)

/-- The end of a run for an objection to the value of an option. -/
def Stop.ofObjection (topic : Topic) (hint : Text) : Objection → Stop
  | .reason text => .badValue topic hint text
  | .fault fault => { ending := .unexpected fault.message }

/-- The objection to a path as the value of an option. -/
def objection? (host : Host) (expected : Expected) (mustExist : Bool) (raw : Text) :
    Option Objection :=
  let say (remark : Text) : Option Objection :=
    some (.reason (Text.concat [expected.word, " ", raw.quoted, " ", remark]))
  match pathFault? raw with
  | some fault => some (.fault fault)
  | none =>
    match host.find raw with
    | .error _ => if mustExist then say "does not exist." else none
    | .ok spot =>
      if expected = .directory ∧ spot.entry.isFile then say "is a file."
      else if expected = .file ∧ spot.entry.isDirectory then say "is a directory."
      else none

/-! ## Options of the program -/

/-- The options before the command. -/
inductive ProgramKey where
  | config
  | verbose
  | color (wanted : Bool)
  | version
  | help
deriving DecidableEq

/-- What is asked for before the command. -/
structure ProgramOptions where
  /-- The settings file that is named. -/
  config : Option Path := none
  /-- How often more detail is asked for. -/
  verbose : Nat := 0
  color : Bool := true

namespace ProgramOptions

def switches : List (Switch ProgramKey) :=
  [⟨"--config", .config, true⟩, ⟨"-c", .config, true⟩, ⟨"--verbose", .verbose, false⟩,
    ⟨"-v", .verbose, false⟩, ⟨"--color", .color true, false⟩, ⟨"--no-color", .color false, false⟩,
    ⟨"--version", .version, false⟩, ⟨"-h", .help, false⟩, ⟨"--help", .help, false⟩]

/-- The words for yes and no. -/
def truths : List (Text × Bool) :=
  [("", false), ("0", false), ("1", true), ("f", false), ("false", false), ("n", false),
    ("no", false), ("off", false), ("on", true), ("t", true), ("true", true), ("y", true),
    ("yes", true)]

/-- The truth value that a text stands for. -/
def truth? (t : Text) : Option Bool :=
  (truths.find? fun entry => entry.1 = t.strip.lower).map (·.2)

/-- The options that show something and end the run. -/
def shown? : ProgramKey → Option Text
  | .version => some versionLine
  | .help => some Topic.program.help
  | _ => none

/-- The settings file, from the options or the environment. -/
def configOf (host : Host) (env : Environment) (line : CommandLine ProgramKey) :
    Except Stop (Option Path) :=
  let named := (line.values fun key value => if key = .config then some value else none).getLast?
  match named.or (env.content? "CLOSUREDEPS_CONFIG") with
  | none => .ok none
  | some raw =>
    match objection? host .file true raw with
    | some objection => .error (.ofObjection .program "'--config' / '-c'" objection)
    | none => .ok (some (Path.ofText raw))

/-- Whether colors are wanted, from the options or the environment. -/
def colorOf (env : Environment) (line : CommandLine ProgramKey) : Except Stop Bool :=
  let asked := line.values fun key _ =>
    match key with
    | .color wanted => some wanted
    | _ => none
  match asked.getLast?, env.content? "CLOSUREDEPS_COLOR" with
  | some wanted, _ => .ok wanted
  | none, none => .ok true
  | none, some word =>
    match truth? word with
    | some wanted => .ok wanted
    | none =>
      .error (.badValue .program "'--color'"
        (Text.concat
          [word.quoted, " is not a valid boolean. Recognized values: ",
            Text.joinWith ", " (truths.map (·.1))]))

/-- Read the options before the command, and the words from the command on. -/
def read (host : Host) (env : Environment) (arguments : List Text) :
    Except Stop (ProgramOptions × List Text) :=
  if arguments = [] then .error { ending := .refused 2 Topic.program.help }
  else
    match CommandLine.read switches false arguments with
    | .error misuse => .error (.ofMisuse .program misuse)
    | .ok line =>
      match line.first? shown? with
      | some text => .error (.showing text)
      | none => do
        let config ← configOf host env line
        let color ← colorOf env line
        let verbose := (line.values fun key _ => if key = .verbose then some () else none).length
        return ({ config, verbose, color }, line.words)

end ProgramOptions

/-! ## Options of the scan -/

/-- How results are presented. -/
inductive Format where
  | table
  | simple
  | json
  | deps
deriving DecidableEq

namespace Format

/-- The word for a format. -/
def word : Format → Text
  | .table => "table"
  | .simple => "simple"
  | .json => "json"
  | .deps => "deps"

def all : List Format := [.table, .simple, .json, .deps]

/-- A word without regard to case; the long s is a small s. -/
def folded (t : Text) : Text := Text.substitute 0x17F "s" t.lower

/-- The format that a word names in any case. -/
def ofWord? (t : Text) : Option Format := all.find? fun format => format.word = folded t

end Format

/-- The options of the scan. -/
inductive ScanKey where
  | format
  | output
  | base
  | extension
  | excluded
  | strict (wanted : Bool)
  | includeEmpty
  | help
deriving DecidableEq

/-- What is asked for of a scan. -/
structure ScanOptions where
  paths : List Path := []
  format : Format := .table
  /-- The file for the results. -/
  output : Option Path := none
  /-- The directory from which reported paths are seen. -/
  base : Option Path := none
  extensions : List Text := []
  excluded : List Text := []
  strict : Option Bool := none
  /-- Files without dependencies are listed too. -/
  includeEmpty : Bool := false

namespace ScanOptions

def switches : List (Switch ScanKey) :=
  [⟨"--format", .format, true⟩, ⟨"-f", .format, true⟩, ⟨"--output", .output, true⟩,
    ⟨"-o", .output, true⟩, ⟨"--base", .base, true⟩, ⟨"--ext", .extension, true⟩,
    ⟨"--exclude-dir", .excluded, true⟩, ⟨"--strict", .strict true, false⟩,
    ⟨"--no-strict", .strict false, false⟩, ⟨"--include-empty", .includeEmpty, false⟩,
    ⟨"-h", .help, false⟩, ⟨"--help", .help, false⟩]

/-- The values that were given for an option. -/
def valuesOf (line : CommandLine ScanKey) (key : ScanKey) : List Text :=
  line.values fun other value => if other = key then some value else none

/-- The objection to the value of an option, with the names of the option. -/
def optionObjection? (host : Host) : ScanKey → Text → Option (Text × Objection)
  | .format, word =>
    if (Format.ofWord? word).isSome then none
    else
      some ("'--format' / '-f'",
        .reason (Text.concat
          [word.quoted, " is not one of ",
            Text.joinWith ", " (Format.all.map fun format => format.word.quoted), "."]))
  | .output, raw => (objection? host .file false raw).map (("'--output' / '-o'" : Text), ·)
  | .base, raw => (objection? host .directory true raw).map (("'--base'" : Text), ·)
  | _, _ => none

/-- The first objection to a value: those of options come before those of
paths. -/
def firstObjection? (host : Host) (line : CommandLine ScanKey) : Option (Text × Objection) :=
  let options := line.options.findSome? fun given =>
    (valuesOf line given.key).getLast?.bind (optionObjection? host given.key)
  options.or
    (line.words.findSome? fun raw =>
      (objection? host .anything true raw).map (("'[PATHS]...'" : Text), ·))

/-- The options that a command line stands for. -/
def ofLine (line : CommandLine ScanKey) : ScanOptions :=
  let last (key : ScanKey) : Option Text := (valuesOf line key).getLast?
  let strict := line.values fun key _ =>
    match key with
    | .strict wanted => some wanted
    | _ => none
  { paths := line.words.map Path.ofText
    format := ((last .format).bind Format.ofWord?).getD .table
    output := (last .output).map Path.ofText
    base := (last .base).map Path.ofText
    extensions := valuesOf line .extension
    excluded := valuesOf line .excluded
    strict := strict.getLast?
    includeEmpty := (valuesOf line .includeEmpty).length ≠ 0 }

/-- Read the options of a scan. -/
def read (host : Host) (arguments : List Text) : Except Stop ScanOptions :=
  match CommandLine.read switches true arguments with
  | .error misuse => .error (.ofMisuse .scan misuse)
  | .ok line =>
    match line.first? fun key => if key = .help then some () else none with
    | some _ => .error (.showing Topic.scan.help)
    | none =>
      match firstObjection? host line with
      | some (hint, objection) => .error (.ofObjection .scan hint objection)
      | none => .ok (ofLine line)

end ScanOptions

end NamespaceScan.Command

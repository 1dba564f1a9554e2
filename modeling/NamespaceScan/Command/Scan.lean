import NamespaceScan.Command.Options
import NamespaceScan.Console.Screen
import NamespaceScan.Files.Writing
import NamespaceScan.Report.Format
import NamespaceScan.Scanner

/-!
# The scan command

Scan the files that were asked for, and present what they provide and require:
as a table, as a text on the console, or as a file. Nothing but the file that
was asked for is written, and only after the scan has succeeded.
-/

namespace NamespaceScan.Command

/-- What happened in a part of a run: what is to be seen, the file system
afterwards, and how it ended. -/
structure Ran where
  events : List Event
  files : FileSystem
  ending : Ending

/-- What a scan needs besides its options. -/
structure ScanContext where
  grammar : Grammar
  settings : Settings := {}
  /-- How often more detail was asked for. -/
  verbose : Nat := 0
  /-- Shows what is presented. -/
  screen : Console.Screen
  environment : Environment := {}
  /-- The steps of a writing that do not succeed. -/
  trouble : Trouble := fun _ => none
  /-- The part of the name of a temporary file that makes it unlike others. -/
  salt : Text

namespace Format

/-- The text of a format that is not a table. -/
def render? : Format → Option (Location → Path → List Dependencies → Text)
  | .table => none
  | .simple => some Report.simple
  | .json => some Report.json
  | .deps => some Report.deps

end Format

namespace ScanOptions

/-- The scanner that settings and options ask for. -/
def scanner (context : ScanContext) (options : ScanOptions) : Scanner :=
  Scanner.withWishes context.grammar context.settings options.extensions options.excluded
    options.strict

/-- The records that are presented. -/
def listed (options : ScanOptions) (records : List Dependencies) : List Dependencies :=
  if options.includeEmpty then records else records.filter (·.hasNames)

/-- The paths to scan: the working directory if none are given. -/
def targets (options : ScanOptions) : List Text :=
  if options.paths = [] then [here] else options.paths.map Path.toText

/-- The table of records. -/
def table (cwd : Location) (base : Path) (records : List Dependencies) : Console.Table where
  title := "Closure Dependencies"
  columns :=
    [⟨"File", "path"⟩, ⟨"Provides", "provide"⟩, ⟨"Requires", "require"⟩, ⟨"Notes", "error"⟩]
  rows := records.map fun d => (Report.row cwd base d).map (·.2)
  ruled := true

/-- Print a text as the result and go on. A text without octets cannot be printed. -/
def print (fault : Utf8.EncodeError → Fault) (text : Text) (rest : List Event × Ending) :
    List Event × Ending :=
  match Utf8.firstSurrogates 0 text with
  | some error => ([], .unexpected (fault error).message)
  | none => (.results text :: rest.1, rest.2)

/-- Tell of a success and go on. -/
def praise (context : ScanContext) (text : Text) (rest : List Event × Ending) :
    List Event × Ending :=
  print .unprintable (context.screen.spoken context.environment .success text) rest

/-- Sum up records. -/
def summarize (context : ScanContext) (records : List Dependencies) : List Event × Ending :=
  let provides := (records.map fun d => d.found.provides.size).sum
  let requires := (records.map fun d => d.found.requires.size).sum
  let broken := records.filter (·.hasErrors)
  let warnings :=
    if broken.isEmpty then []
    else
      [Event.message .warning
        (Text.concat
          [Text.ofNat broken.length,
            " file(s) had syntax errors; results come from the recovered tree"])]
  praise context
    (Text.concat
      [Text.ofNat records.length, " file(s): ", Text.ofNat provides, " provide(s), ",
        Text.ofNat requires, " require(s)"])
    (warnings, .done)

/-- Present records as a table. -/
def presentTable (context : ScanContext) (cwd : Location) (base : Path)
    (records : List Dependencies) : List Event × Ending :=
  let summed := summarize context records
  if records.isEmpty then
    (.message .warning "No goog.provide / goog.require calls found" :: summed.1, summed.2)
  else
    match context.screen.drawn context.environment (table cwd base records) with
    | .error fault => ([], .unexpected fault.message)
    | .ok text => print .unprintable text summed

/-- Write a report to a file. Who asked for more detail is told of the success. -/
def writeReport (context : ScanContext) (host : Host) (target : Path) (count : Nat)
    (report : Text) : Ran :=
  let written := host.write context.trouble context.salt target report
  match written.outcome with
  | .error (.failure failure) => ⟨[.message .error failure.shown], written.files, .given⟩
  | .error (.fault fault) => ⟨[], written.files, .unexpected fault.message⟩
  | .ok () =>
    let notes := do
      Host.writingNote target report
      Traced.note "commands.scan" .info
        ["Wrote ", Text.ofNat count, " file record(s) to ", target.toText]
    let (events, ending) :=
      if context.verbose = 0 then ([], .done)
      else praise context ("Output written to: " ++ target.toText) ([], .done)
    ⟨notes.log.map .record ++ events, written.files, ending⟩

/-- Present the records of a scan that succeeded. A report that is printed is echoed
for an output that no terminal reads; a file gets the report as it is. -/
def present (context : ScanContext) (host : Host) (options : ScanOptions) (base : Path)
    (records : List Dependencies) : Ran :=
  match options.format.render?, options.output with
  | none, _ =>
    let (events, ending) := presentTable context host.cwd base records
    ⟨events, host.files, ending⟩
  | some render, none =>
    let report := context.screen.echoed false (render host.cwd base records)
    let (events, ending) := print .unencodable report ([], .done)
    ⟨events, host.files, ending⟩
  | some render, some target =>
    writeReport context host target records.length (render host.cwd base records)

/-- Scan and present. -/
def run (context : ScanContext) (host : Host) (options : ScanOptions) : Ran :=
  if options.format = .table ∧ options.output.isSome then
    ⟨[], host.files, Ending.misuse .scan "--output requires --format simple, json or deps"⟩
  else
    match host.resolve (options.base.getD (Path.ofLocation host.cwd)) with
    | .error fault => ⟨[], host.files, .unexpected fault.message⟩
    | .ok base =>
      let scanned := (options.scanner context).scan host options.targets
      let seen := scanned.log.map Event.record
      match scanned.outcome with
      | .error (.failure failure) =>
        ⟨seen ++ [.message .error failure.shown], host.files, .given⟩
      | .error (.fault fault) => ⟨seen, host.files, .unexpected fault.message⟩
      | .ok records =>
        let presented :=
          present context host options (Path.ofLocation base) (options.listed records)
        { presented with events := seen ++ presented.events }

end ScanOptions

end NamespaceScan.Command

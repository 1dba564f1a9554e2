import NamespaceScan.Command.Frontend
import NamespaceScan.Command.Scan
import NamespaceScan.Settings.Loading

/-!
# Running the program

A run reads the options before the command, switches logging on, loads the
settings, and only then reads the options of the command. So settings that
cannot be used are reported before anything that is wrong with the command's
own options, while an unknown command is reported before the settings are
looked at.

A machine has parts that the program does not define: the grammar of the sources, the reader of
settings files, the frontend that understands the words, and the screen that shows the results.
-/

namespace NamespaceScan.Command

/-- The surroundings in which the program is run. -/
structure Machine where
  host : Host
  environment : Environment
  grammar : Grammar
  reader : Toml.TableReader
  frontend : Frontend
  screen : Console.Screen
  /-- The complaints go to a terminal. -/
  terminal : Bool := false
  around : Log.Surroundings
  trouble : Trouble := fun _ => none
  salt : Text

/-- The end of a run. -/
structure Finished where
  exit : Exit
  output : Console.Output
  environment : Environment
  files : FileSystem

namespace Machine

/-- Events under a registry of loggers. -/
def printed (m : Machine) (registry : Log.Registry) (env : Environment) (events : List Event) :
    Console.Output :=
  Command.printed m.screen registry env m.terminal m.around events

/-- End a run in which nothing was written. -/
def finish (m : Machine) (registry : Log.Registry) (stop : Stop) : Finished where
  exit := stop.ending.exit
  output := m.printed registry m.environment (stop.events ++ stop.ending.events)
  environment := m.environment
  files := m.host.files

/-- Forbid colors, or allow them again. -/
def withColor (env : Environment) (color : Bool) : Environment :=
  if color then env.erase Environment.noColor else env.set Environment.noColor "1"

/-- The records of a run whose settings were loaded. -/
def greeting (level : Log.Level) (color : Bool) (settings : Settings) : List Event :=
  let notes := do
    Traced.note "cli" .debug
      ["closuredeps ", version, ", log level ", level.name, ", color ", (Value.bool color).shown]
    match settings.source with
    | some path =>
      Traced.note "cli" .debug
        ["Configuration ", path.toText, ": ", settings.toValue.quoted]
    | none => return
  notes.log.map .record

/-- The end of a run whose settings could not be loaded. -/
def unloaded : Problem → Stop
  | .failure failure =>
    match failure with
    | .config .. => { events := [.message .error failure.shown], ending := .given }
    | _ => { ending := .failed failure }
  | .fault fault => { ending := .unexpected fault.message }

/-- What a scan on the machine needs besides its options. -/
def context (m : Machine) (settings : Settings) (options : ProgramOptions) : ScanContext where
  grammar := m.grammar
  settings := settings
  verbose := options.verbose
  screen := m.screen
  environment := withColor m.environment options.color
  trouble := m.trouble
  salt := m.salt

/-- Run the command once the settings are loaded. -/
def runCommand (m : Machine) (settings : Settings) (options : ProgramOptions)
    (arguments : List Text) : Ran :=
  match m.frontend.scan m.host (withColor m.environment options.color) arguments with
  | .error stop => ⟨stop.events, m.host.files, stop.ending⟩
  | .ok wishes => wishes.run (m.context settings options) m.host

/-- Run the program with options that were read. -/
def runWith (m : Machine) (options : ProgramOptions) (arguments : List Text) : Finished :=
  let level := Log.Level.ofVerbosity options.verbose
  let registry := ({} : Log.Registry).configure
    (Log.Registry.setupFor m.environment level (2 ≤ options.verbose))
  let loaded := Settings.load m.reader m.host options.config
  let seen := loaded.log.map Event.record
  match loaded.outcome with
  | .error problem =>
    let stop := unloaded problem
    m.finish registry { stop with events := seen ++ stop.events }
  | .ok settings =>
    let env := withColor m.environment options.color
    let ran := m.runCommand settings options arguments
    { exit := ran.ending.exit
      output :=
        m.printed registry m.environment seen ++
          m.printed registry env
            (greeting level options.color settings ++ ran.events ++ ran.ending.events)
      environment := env
      files := ran.files }

/-- Run the program with the words of a command line. -/
def run (m : Machine) (arguments : List Text) : Finished :=
  match m.frontend.program m.host m.environment arguments with
  | .error stop => m.finish {} stop
  | .ok (options, rest) => m.runWith options rest

end Machine

end NamespaceScan.Command

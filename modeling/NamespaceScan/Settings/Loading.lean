import NamespaceScan.Files.Host
import NamespaceScan.Log.Traced
import NamespaceScan.Settings.Basic
import NamespaceScan.Toml.Table

/-!
# Loading settings

Settings come from a file that is named, or from one that is found in the
working directory: first the program's own file, then the project file if it
has a section for the program. A project file that cannot be read counts as
one without a section.

What the octets of a file mean is left to a reader of tables.
-/

namespace NamespaceScan

namespace Settings

/-- The name of the program's own settings file. -/
def ownName : Text := "closuredeps.toml"

/-- The name of the project file. -/
def projectName : Text := "pyproject.toml"

/-- The key of the program's section. -/
def sectionKey : Text := "closuredeps"

/-- The key of the table of tools in a project file. -/
def toolKey : Text := "tool"

/-- A failure about the file at a path. -/
def unusable (path : Path) (message : List Text) : Problem :=
  .failure (.config (.text (Text.concat message)) (some path.toText) none)

/-- The octets of the file at a path. -/
def octetsOf (host : Host) (path : Path) : Except Refusal ByteArray :=
  match host.find path.toText with
  | .error obstacle => .error ⟨obstacle, path.toText, none⟩
  | .ok spot =>
    match spot.entry with
    | .file octets => .ok octets
    | _ => .error ⟨.isDirectory, path.toText, none⟩

/-- The table that a settings file holds, as the given reader reads it. -/
def readTable (reader : Toml.TableReader) (host : Host) (path : Path) :
    Except Problem Toml.Table :=
  match octetsOf host path with
  | .error refusal =>
    .error (unusable path ["Cannot read configuration file ", path.toText, ": ", refusal.message])
  | .ok octets =>
    match reader octets with
    | .error (.malformed message) =>
      .error (unusable path ["Invalid TOML in ", path.name, ": ", message])
    | .error (.beyond fault) => .error (.fault fault)
    | .ok table => .ok table

/-- Whether a value has the program's key: a table by its keys, a list by its
items, a text by its parts. -/
def mentions : Value → Except Fault Bool
  | .table entries => .ok (Value.find? entries sectionKey).isSome
  | .list items => .ok ((items.filterMap asText?).contains sectionKey)
  | .text t => .ok (t.includes sectionKey)
  | value => .error (.notContainer value.longTypeWord)

/-- The table of tools of a project file. -/
def tools (table : Toml.Table) : Value := (Value.find? table toolKey).getD (.table [])

/-- Whether the project file at a path has a section for the program. -/
def hasSection (reader : Toml.TableReader) (host : Host) (path : Path) : Except Problem Bool :=
  match readTable reader host path with
  | .error (.failure _) => .ok false
  | .error (.fault fault) => .error (.fault fault)
  | .ok table => (mentions (tools table)).mapError .fault

/-- A record about settings. -/
def note (level : Log.Level) (message : List Text) : Traced Unit :=
  Traced.note "config" level message

/-- Whether a file, or a link to one, stands at a path. -/
def isFileAt (host : Host) (path : Path) : Except Problem Bool :=
  ((host.look path).map fun spot => spot.any (·.entry.isFile)).mapError .fault

/-- The file that is named as the settings file. -/
def named (host : Host) (path : Path) : Traced Path := do
  let location ← Traced.ofExcept ((host.resolve path).mapError .fault)
  let resolved := Path.ofLocation location
  if ← Traced.ofExcept (isFileAt host resolved) then
    note .debug ["Using explicit config: ", resolved.toText]
    return resolved
  else Traced.stop (unusable path ["Configuration file not found: ", path.toText])

/-- The place of the program's own settings file in the working directory. -/
def ownFile (host : Host) : Path := Path.ofLocation (host.cwd ++ [ownName])

/-- The place of the project file in the working directory. -/
def projectFile (host : Host) : Path := Path.ofLocation (host.cwd ++ [projectName])

/-- The settings file in the working directory. -/
def discovered (reader : Toml.TableReader) (host : Host) : Traced (Option Path) := do
  let own := ownFile host
  if ← Traced.ofExcept (isFileAt host own) then
    note .debug ["Found ", ownName, ": ", own.toText]
    return some own
  let project := projectFile host
  let present ← Traced.ofExcept (isFileAt host project)
  let used ← if present then Traced.ofExcept (hasSection reader host project) else pure false
  if used then
    note .debug ["Found [tool.closuredeps] in pyproject.toml: ", project.toText]
    return some project
  note .debug ["No configuration file found"]
  return none

/-- The settings file: the one that is named, or the one that is found. -/
def discover (reader : Toml.TableReader) (host : Host) : Option Path → Traced (Option Path)
  | some path => do return some (← named host path)
  | none => discovered reader host

/-- The program's section of the file with the given name. -/
def sectionOf (name : Text) (table : Toml.Table) : Except Fault Value :=
  if name = projectName then
    match tools table with
    | .table entries => .ok ((Value.find? entries sectionKey).getD (.table []))
    | value => .error (.notTable value.longTypeWord "get")
  else .ok ((Value.find? table sectionKey).getD (.table []))

/-- The settings of a file. -/
def ofFile (reader : Toml.TableReader) (host : Host) (path : Path) : Traced Settings := do
  note .info ["Loading configuration from ", path.toText]
  let table ← Traced.ofExcept (readTable reader host path)
  let body ← Traced.ofExcept ((sectionOf path.name table).mapError .fault)
  if body.isVoid then
    note .debug ["Config file found but no closuredeps section, using defaults"]
    return { source := some path }
  else
    let settings ← Traced.ofExcept (ofSection path.toText body)
    note .debug ["Loaded configuration: ", settings.toValue.quoted]
    return { settings with source := some path }

/-- The settings of the file that is named or found; without one, the
defaults. -/
def load (reader : Toml.TableReader) (host : Host) (path : Option Path) : Traced Settings := do
  match ← discover reader host path with
  | some file => ofFile reader host file
  | none =>
    note .debug ["No config file found, using defaults"]
    return {}

end Settings

end NamespaceScan

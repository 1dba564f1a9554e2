import NamespaceScan.Command.Run
import NamespaceScan.JavaScript.Program
import NamespaceScan.Toml.Document
import Std.Time.Format
import Std.Time.Zoned

/-!
# The executable

The program's work is a function on a picture of the file system. This module
takes the picture before the run, as far as the words of the command line can
lead, and carries over what the run has changed.
-/

namespace NamespaceScan.Executable

open Command (CommandLine Machine ProgramOptions ScanOptions)

/-- A text as a string of the host. -/
def native (t : Text) : String := t.toString?.getD ""

/-- The place of a location on the host. -/
def place (l : Location) :=
  ({ root := native (Location.toText l), fileName := "" } : IO.FS.DirEntry).root

/-- How deep directories and links are followed. -/
def depthLimit : Nat := 256

/-- What stands at a location, links not followed; nothing if it cannot be
looked at. -/
def kindAt (l : Location) : IO (Option IO.FS.FileType) := do
  try return some (← (place l).symlinkMetadata).type
  catch _ => return none

/-- Where a link leads in the end. A link that leads nowhere gets a name that
does not exist. -/
def linkTarget (l : Location) : IO Text := do
  try return Text.ofString (← IO.FS.realPath (place l)).toString
  catch _ => return Text.concat [l.getLast?.getD [], " (missing)"]

/-- The content of a file. -/
def content (l : Location) : IO Entry := do
  try return .file (← IO.FS.readBinFile (place l))
  catch _ => return .file ByteArray.empty

/-- The names in a directory. -/
def namesIn (l : Location) : IO (List Text) := do
  try return (← (place l).readDir).toList.map fun member => Text.ofString member.fileName
  catch _ => return []

/-- Put an entry into the picture, unless one is there. -/
def add (fs : FileSystem) (directory : Location) (name : Text) (entry : Entry) : FileSystem :=
  if (fs.get? (directory ++ [name])).isSome then fs else fs.put directory name entry

mutual

/-- Picture what stands under a name, and what names behind it lead to. -/
def picture (deep : Bool) : Nat → FileSystem → Location → List Text → IO FileSystem
  | 0, fs, _, _ => return fs
  | fuel + 1, fs, directory, [] => if deep then pictureAll fuel fs directory else return fs
  | fuel + 1, fs, directory, name :: rest => do
    if name = [] ∨ name = here then picture deep fuel fs directory rest
    else if name = above then picture deep fuel fs directory.dropLast rest
    else
      let location := directory ++ [name]
      match ← kindAt location with
      | some .dir => picture deep fuel (add fs directory name (.directory [])) location rest
      | some .symlink =>
        let target ← linkTarget location
        picture deep fuel (add fs directory name (.link target)) (beginning directory target)
          (components target ++ rest)
      | some .file => return add fs directory name (← content location)
      | _ => return fs

/-- Picture a directory with everything below it that can be searched. -/
def pictureAll : Nat → FileSystem → Location → IO FileSystem
  | 0, fs, _ => return fs
  | fuel + 1, fs, directory => do
    let mut fs := fs
    for name in ← namesIn directory do
      let deep := (← kindAt (directory ++ [name])) == some .dir && name.head? ≠ some dot
      fs ← picture deep fuel fs directory [name]
    return fs

end

/-- The paths that a command line can lead to, and whether they are searched. -/
def interests (env : Environment) (arguments : List Text) : List (Text × Bool) :=
  let program :=
    match CommandLine.read ProgramOptions.switches false arguments with
    | .ok line => line
    | .error _ => {}
  let scan :=
    match CommandLine.read ScanOptions.switches true (program.words.drop 1) with
    | .ok line => line
    | .error _ => {}
  let values := program.options.map (·.value) ++ scan.options.map (·.value)
  let named := (env.content? "CLOSUREDEPS_CONFIG").toList ++ values.filter (· ≠ [])
  let searched := if scan.words = [] then [here] else scan.words
  (Settings.ownName :: Settings.projectName :: named).map (·, false) ++ searched.map (·, true)

/-- The home directories of the users. -/
def accounts : IO (List (Text × Text)) := do
  try
    return (← IO.FS.lines "/etc/passwd").toList.filterMap fun line =>
      match line.splitOn ":" with
      | name :: _ :: _ :: _ :: _ :: home :: _ => some (Text.ofString name, Text.ofString home)
      | _ => none
  catch _ => return []

/-- The variables that the program looks at. -/
def environment : IO Environment := do
  let names := ["NO_COLOR", "CI", "COLUMNS", "HOME", "CLOSUREDEPS_CONFIG", "CLOSUREDEPS_COLOR"]
  let found ← names.filterMapM fun name => do
    return (← IO.getEnv name).map fun value => (Text.ofString name, Text.ofString value)
  return ⟨found⟩

/-- Picture the host for a command line. -/
def host (env : Environment) (arguments : List Text) : IO Host := do
  let cwd := (Path.ofText (Text.ofString (← IO.currentDir).toString)).names
  let mut fs : FileSystem ← picture false depthLimit {} [] cwd
  let start : Host := { cwd, home := (env.get? "HOME").getD "/", accounts := ← accounts }
  for (raw, deep) in interests env arguments do
    fs ← picture deep depthLimit fs (beginning cwd raw) (components raw)
    match start.expand (Path.ofText raw) with
    | .ok path => fs ← picture deep depthLimit fs [] (path.namesFrom cwd)
    | .error _ => pure ()
  return start.withFiles fs

/-- Write a changed file in one step. -/
def store (l : Location) (salt : Text) (octets : ByteArray) : IO Unit := do
  let temporary := l.dropLast ++ [Host.temporaryName salt (l.getLast?.getD [])]
  IO.FS.createDirAll (place l.dropLast)
  IO.FS.writeBinFile (place temporary) octets
  IO.FS.rename (place temporary) (place l)

/-- Carry over the files that are new or differ. -/
def carryOver (before after : FileSystem) (salt : Text) : IO Unit := do
  for (location, octets) in after.root.leaves [] do
    let same := match before.get? location with
      | some (.file old) => old == octets
      | _ => false
    unless same do store location salt octets

/-- Eight letters or digits by chance. -/
def freshSalt : IO Text := do
  let letters := Text.ofString "abcdefghijklmnopqrstuvwxyz0123456789_"
  (List.range 8).mapM fun _ => do
    return letters.getD (← IO.rand 0 (letters.length - 1)) dot

/-- Run the program with the words of a command line. -/
def run (arguments : List Text) : IO UInt32 := do
  let environment ← environment
  let host ← host environment arguments
  let errors ← IO.getStderr
  let salt ← freshSalt
  let time := (← Std.Time.PlainDateTime.now).format "uuuu-MM-dd HH:mm:ss"
  let machine : Machine :=
    { host, environment, salt, grammar := JavaScript.parse, reader := Toml.load
      frontend := .standard, screen := .standard, terminal := ← errors.isTty
      around := { time := Text.ofString time, trace := "(no trace)" } }
  let finished := machine.run arguments
  carryOver host.files finished.files salt
  (← IO.getStdout).write (Utf8.octets finished.output.results)
  errors.write (Utf8.octets finished.output.complaints)
  return UInt32.ofNat (finished.exit.number % 256).toNat

end NamespaceScan.Executable

/-- The entry of the executable. -/
def main (arguments : List String) : IO UInt32 :=
  NamespaceScan.Executable.run (arguments.map NamespaceScan.Text.ofString)

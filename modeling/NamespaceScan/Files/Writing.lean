import NamespaceScan.Files.Host
import NamespaceScan.Log.Traced

/-!
# Writing files

A file is written in four steps: the directories above it are made, a
temporary file is created beside it, the content is written there, and the
temporary file takes the name of the target. So nobody sees a half-written
file. When a step is refused, the temporary file is removed again.

A host may refuse any step for reasons of its own, such as a full disk;
`Trouble` says which steps it refuses.
-/

namespace NamespaceScan

/-- The steps of a writing. -/
inductive WriteStep where
  /-- Make the directory at a path. -/
  | makeDirectory (p : Path)
  | createTemporary
  | writeContent
  | replaceTarget
deriving DecidableEq

/-- The steps that the host refuses for reasons of its own. -/
abbrev Trouble := WriteStep → Option Refusal

namespace Host

/-- The host with another file system. -/
def withFiles (host : Host) (files : FileSystem) : Host := { host with files }

/-- The directory in which the last name of a path stands. -/
def parentSpot (host : Host) (p : Path) : Except Obstacle Location :=
  match host.find p.parent.toText with
  | .error obstacle => .error obstacle
  | .ok spot => if spot.entry.isDirectory then .ok spot.location else .error .notDirectory

/-- The entry under a name in the directory at a location. -/
def member? (host : Host) (directory : Location) (name : Text) : Option Entry :=
  host.files.get? (directory ++ [name])

/-- A name that a new entry can have. -/
def isOwnName (name : Text) : Bool := name ≠ [] && name ≠ above

/-- Make one directory. -/
def makeDirectory (host : Host) (p : Path) : Except Obstacle FileSystem :=
  if isLongPath p.toText then .error .nameTooLong
  else match host.parentSpot p with
  | .error obstacle => .error obstacle
  | .ok directory =>
    if isLongName p.name then .error .nameTooLong
    else if isOwnName p.name && (host.member? directory p.name).isNone then
      .ok (host.files.put directory p.name (.directory []))
    else .error .alreadyThere

/-- Make one directory, unless the host refuses it for reasons of its own. -/
def tryDirectory (host : Host) (trouble : Trouble) (p : Path) : Except Refusal FileSystem :=
  match trouble (.makeDirectory p) with
  | some refusal => .error refusal
  | none => (host.makeDirectory p).mapError fun obstacle => ⟨obstacle, p.toText, none⟩

/-- A file system after an attempt to change it. -/
structure Attempt where
  files : FileSystem
  refusal : Option Refusal := none

/-- The path with the given names, the last one first. -/
def pathUp (anchor : Anchor) (namesUp : List Text) : Path := { anchor, names := namesUp.reverse }

/-- Make a directory, unless it is there. A missing parent is an obstacle. -/
def ensureDirectory (host : Host) (trouble : Trouble) (p : Path) : Attempt :=
  match host.tryDirectory trouble p with
  | .ok files => { files }
  | .error refusal =>
    if refusal.obstacle ≠ .notFound ∧ host.hasDirectory p then { files := host.files }
    else { files := host.files, refusal := some refusal }

/-- Make a directory and all that are missing above it, at most the given number of them. The
names are given from the last one up. It is a fault if more are missing, and then none is made. -/
def ensureDirectories (host : Host) (trouble : Trouble) (anchor : Anchor) :
    Nat → List Text → Except Fault Attempt
  | _, [] => .ok (host.ensureDirectory trouble (pathUp anchor []))
  | depth, name :: namesUp =>
    let p := pathUp anchor (name :: namesUp)
    match host.tryDirectory trouble p with
    | .ok files => .ok { files }
    | .error refusal =>
      if refusal.obstacle ≠ .notFound then .ok (host.ensureDirectory trouble p)
      else
        match depth with
        | 0 => .error .tooDeep
        | depth + 1 =>
          match host.ensureDirectories trouble anchor depth namesUp with
          | .error fault => .error fault
          | .ok made =>
            if made.refusal.isSome then .ok made
            else .ok ((host.withFiles made.files).ensureDirectory trouble p)
termination_by structural _ namesUp => namesUp

/-- The name of the temporary file for a target. -/
def temporaryName (salt name : Text) : Text := Text.concat [".", name, ".", salt, ".tmp"]

/-- The octets in the name of a temporary file besides the name of its target:
three points, an ending, and eight signs that make it unlike others. -/
def temporaryOctets : Nat := 14

/-- A temporary file: the directory where it stands, its name and its full
path in messages. -/
structure Temporary where
  directory : Location
  name : Text
  shown : Text

/-- The full path of the temporary file for a target. -/
def temporaryPath (host : Host) (salt : Text) (target : Path) : Location :=
  target.parent.locate host.cwd ++ [temporaryName salt target.name]

/-- Create the temporary file for a target, empty. -/
def createTemporary (host : Host) (salt : Text) (target : Path) :
    Except Refusal (Temporary × FileSystem) :=
  let parent := target.parent.locate host.cwd
  let name := temporaryName salt target.name
  let shown := Location.toText (host.temporaryPath salt target)
  let length := Text.octetCount (Location.toText (parent ++ [target.name])) + temporaryOctets
  if pathLimit < length then .error ⟨.nameTooLong, shown, none⟩
  else match host.find (Location.toText parent) with
  | .error obstacle => .error ⟨obstacle, shown, none⟩
  | .ok spot =>
    if !spot.entry.isDirectory then .error ⟨.notDirectory, shown, none⟩
    else if nameLimit < Text.octetCount target.name + temporaryOctets then
      .error ⟨.nameTooLong, shown, none⟩
    else if (host.member? spot.location name).isSome then .error ⟨.noFreshName, none, none⟩
    else
      .ok (⟨spot.location, name, shown⟩,
        host.files.put spot.location name (.file ByteArray.empty))

/-- Give a temporary file the name of the target. -/
def replaceTarget (host : Host) (temporary : Temporary) (target : Path) (content : ByteArray) :
    Except Refusal FileSystem :=
  let refuse (obstacle : Obstacle) : Refusal := ⟨obstacle, temporary.shown, target.toText⟩
  if isLongPath target.toText then .error (refuse .nameTooLong)
  else match host.parentSpot target with
  | .error obstacle => .error (refuse obstacle)
  | .ok directory =>
    if !isOwnName target.name then .error (refuse .busy)
    else
      match host.member? directory target.name with
      | some (.directory _) => .error (refuse .isDirectory)
      | _ =>
        .ok ((host.files.erase temporary.directory temporary.name).put directory target.name
          (.file content))

/-- The end of a writing: the file system, and the problem if there was one. -/
structure Written where
  files : FileSystem
  outcome : Except Problem Unit

/-- The failure of a writing. -/
def unwritten (target : Path) (refusal : Refusal) : Problem :=
  .failure (.file (.text ("Atomic write failed: " ++ refusal.message)) (some target.toText)
    (some "write") (some refusal.message))

/-- Write octets to a temporary file and give it the name of the target. -/
def writeBeside (host : Host) (trouble : Trouble) (temporary : Temporary) (target : Path)
    (content : ByteArray) : Written :=
  let cleared := host.files.erase temporary.directory temporary.name
  let refused (refusal : Refusal) : Written := ⟨cleared, .error (unwritten target refusal)⟩
  match (trouble .writeContent).or (trouble .replaceTarget) with
  | some refusal => refused refusal
  | none =>
    match host.replaceTarget temporary target content with
    | .error refusal => refused refusal
    | .ok files => ⟨files, .ok ()⟩

/-- Write a text to a file. A path that names no file is a fault, found when the path is first
used: that of the directory before anything is made, that of the temporary file when the
directory is there. A text that has no octets is a fault that leaves the empty temporary file
behind. -/
def write (host : Host) (trouble : Trouble) (salt : Text) (target : Path) (content : Text) :
    Written :=
  let stopped (files : FileSystem) (fault : Fault) : Written := ⟨files, .error (.fault fault)⟩
  let refused (files : FileSystem) (refusal : Refusal) : Written :=
    ⟨files, .error (unwritten target refusal)⟩
  match pathFault? target.parent.toText with
  | some fault => stopped host.files fault
  | none =>
    match host.ensureDirectories trouble target.anchor host.nesting.parents
      target.names.dropLast.reverse with
    | .error fault => stopped host.files fault
    | .ok parents =>
      match parents.refusal with
      | some refusal => refused parents.files refusal
      | none =>
        match pathFault? (Location.toText (host.temporaryPath salt target)) with
        | some fault => stopped parents.files fault
        | none =>
          match trouble .createTemporary with
          | some refusal => refused parents.files refusal
          | none =>
            match (host.withFiles parents.files).createTemporary salt target with
            | .error refusal => refused parents.files refusal
            | .ok (temporary, files) =>
              match Utf8.encode content with
              | .error error => stopped files (.unencodable error)
              | .ok octets => (host.withFiles files).writeBeside trouble temporary target octets

/-- The record of a writing that succeeded. -/
def writingNote (target : Path) (content : Text) : Traced Unit :=
  Traced.note "filesystem" .debug
    ["Wrote ", Text.ofNat content.length, " character(s) to ", target.toText]

end Host

end NamespaceScan

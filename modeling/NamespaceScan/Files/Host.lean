import NamespaceScan.Files.Entry
import NamespaceScan.Files.Resolution

/-!
# Hosts

A host is a file system with a working directory and the home directories of
its users. It answers what a path leads to.

There are two ways to follow links. Asking for an entry gives up after forty
links. Resolving a path to a location follows every link once, keeps what does
not exist as it is written, and stops at a link that leads back to itself.

A function that calls itself fails when too many of its calls are nested. How
many can be, depends on what the program is doing when it is called.
-/

namespace NamespaceScan

/-- The number of links after which a path is given up. -/
def Host.linkLimit : Nat := 40

/-- How deep calls of a function can be nested. -/
structure Nesting where
  /-- Links that are resolved one inside of the other. -/
  links : Nat
  /-- Directories that are searched one inside of the other. -/
  directories : Nat
  /-- Missing directories that are made one above the other. -/
  parents : Nat
  /-- Every link that can be followed can be resolved. -/
  enough : Host.linkLimit ≤ links

/-- What is left of a thousand calls by a program that makes a few dozen of them itself. -/
def Nesting.standard : Nesting where
  links := 960
  directories := 960
  parents := 960
  enough := by decide

/-- A file system as a program sees it. -/
structure Host where
  files : FileSystem := {}
  /-- The working directory. -/
  cwd : Location := []
  /-- The home directory of the user. -/
  home : Text := "/"
  /-- The home directories of the named users. -/
  accounts : List (Text × Text) := []
  nesting : Nesting := .standard

/-- Where a written path begins. -/
def beginning (cwd : Location) (t : Text) : Location :=
  if t.head? = some slash then [] else cwd

/-! ## Entries -/

/-- An entry and where it stands. -/
structure Spot where
  location : Location
  entry : Entry

namespace FileSystem

/-- Follow names from a directory. Where a link stands, `enter` takes over with
the directory of the link, its target and the names behind it. -/
def walkWith (fs : FileSystem) (enter : Location → Text → List Text → Except Obstacle Spot)
    (place : Location) (entry : Entry) : List Text → Except Obstacle Spot
  | [] => .ok ⟨place, entry⟩
  | name :: rest =>
    match entry with
    | .directory members =>
      if name = [] ∨ name = here then walkWith fs enter place entry rest
      else if name = above then
        match fs.get? place.dropLast with
        | some parent => walkWith fs enter place.dropLast parent rest
        | none => .error .notFound
      else if isLongName name then .error .nameTooLong
      else
        match Members.get? members name with
        | none => .error .notFound
        | some (.link target) => enter place target rest
        | some entry => walkWith fs enter (place ++ [name]) entry rest
    | _ => .error .notDirectory

/-- Follow names from a location that should be a directory. -/
def walkFrom (fs : FileSystem) (enter : Location → Text → List Text → Except Obstacle Spot)
    (start : Location) (names : List Text) : Except Obstacle Spot :=
  match fs.get? start with
  | some entry => fs.walkWith enter start entry names
  | none => .error .notFound

/-- Follow names from a directory through at most the given number of links. -/
def walk (fs : FileSystem) : Nat → Location → List Text → Except Obstacle Spot
  | 0, start, names => fs.walkFrom (fun _ _ _ => .error .tooManyLinks) start names
  | links + 1, start, names =>
    fs.walkFrom
      (fun place target rest => walk fs links (beginning place target) (components target ++ rest))
      start names

end FileSystem

namespace Host

/-- The entry that a written path leads to. A text that names no file leads
nowhere. -/
def find (host : Host) (t : Text) : Except Obstacle Spot :=
  if t = [] ∨ t.isNameable = false then .error .notFound
  else if isLongPath t then .error .nameTooLong
  else host.files.walk linkLimit (beginning host.cwd t) (components t)

/-- The entry at a path. -/
def at? (host : Host) (p : Path) : Option Spot := (host.find p.toText).toOption

/-- The entry at a path, if there is one. It is a fault to ask for a path with a
name that is too long. -/
def look (host : Host) (p : Path) : Except Fault (Option Spot) :=
  match host.find p.toText with
  | .ok spot => .ok (some spot)
  | .error .nameTooLong => .error (.refused ⟨.nameTooLong, p.toText, none⟩)
  | .error _ => .ok none

/-- A directory, or a link to one, stands at the path. -/
def hasDirectory (host : Host) (p : Path) : Bool := (host.at? p).any (·.entry.isDirectory)

end Host

/-! ## Locations -/

namespace Host

/-- The target of the link at a path. What stands at a path that is too long cannot be seen and
is taken for no link. -/
def linkAt (host : Host) : LinkReader := fun p =>
  match pathFault? p.toText with
  | some fault => .error fault
  | none => .ok (if isLongPath p.toText then none else host.files.link? (p.reach host.cwd))

/-- The location that a path leads to when its links are read in the given way. It need not
exist, but a file could be named so. -/
def followWith (host : Host) (ask : LinkReader) (p : Path) : Except Fault Location :=
  match Resolution.follow ask host.nesting.links p.origin p.names [] with
  | .error fault => .error fault
  | .ok resolution =>
    let location := resolution.place.reach host.cwd
    match pathFault? (Location.toText location) with
    | some fault => .error fault
    | none => .ok location

/-- The location that a path leads to, whether or not it can be reached. -/
def follow (host : Host) (p : Path) : Except Fault Location := host.followWith host.linkAt p

/-- The location that a path leads to. It need not exist. A link that leads
back to itself is a fault when it is where the path ends up. -/
def resolve (host : Host) (p : Path) : Except Fault Location :=
  match host.follow p with
  | .error fault => .error fault
  | .ok location =>
    match host.find (Location.toText location) with
    | .error .tooManyLinks => .error (.linkLoop (Location.toText location))
    | _ => .ok location

/-- The home directory that a name with a tilde stands for. -/
def homeOf (host : Host) (name : Text) : Option Text :=
  let user := name.drop 1
  let home :=
    if user = [] then some host.home
    else (host.accounts.find? fun account => account.1 = user).map (·.2)
  home.map fun text =>
    let trimmed := (text.reverse.dropWhile (· = slash)).reverse
    if trimmed = [] then [slash] else trimmed

/-- A relative path that begins with a tilde begins at a home directory. -/
def expand (host : Host) (p : Path) : Except Fault Path :=
  match p.isAbsolute, p.names with
  | false, first :: rest =>
    if first.head? = some 0x7E then
      match host.homeOf first with
      | some home =>
        if home.head? = some 0x7E then .error .unknownHome
        else .ok { Path.ofText home with names := (Path.ofText home).names ++ rest }
      | none => .error ((pathFault? (first.drop 1)).getD .unknownHome)
    else .ok p
  | _, _ => .ok p

/-- The location of a path, with a tilde expanded. -/
def validate (host : Host) (p : Path) : Except Fault Location :=
  (host.expand p).bind host.resolve

end Host

end NamespaceScan

import NamespaceScan.Files.Host
import NamespaceScan.Log.Traced
import NamespaceScan.OrderedSet
import NamespaceScan.Text.Case

/-!
# Search

The source files below a directory: those with one of the wanted extensions,
in directories that are neither hidden nor excluded. Links to directories are
not entered, and a directory whose path is too long is entered but cannot be
listed. The search does not depend on the order of the members of a directory.
It fails where it has to enter too many directories one inside of the other.
-/

namespace NamespaceScan

/-- What to look for below a directory. -/
structure Search where
  /-- The extensions of source files; case does not matter. -/
  extensions : List Text
  /-- The names of directories that are not entered. -/
  excluded : List Text

namespace Search

/-- Whether directories of this name are entered. -/
def enters (s : Search) (name : Text) : Bool :=
  !s.excluded.contains name && !name.startsWith [dot]

/-- Whether files of this name are source files. -/
def wants (s : Search) (name : Text) : Bool :=
  (s.extensions.map Text.lower).contains (extension name).lower

/-- Whether the directory at a place can be listed. -/
def lists (place : Location) : Bool := !isLongPath (Location.toText place)

mutual

/-- The source files at or below the member of a directory. `leads` tells
whether a link leads to a directory. -/
def found (s : Search) (leads : Location → Bool) (place : Location) (name : Text) :
    Entry → List Location
  | .file _ => if s.wants name then [place ++ [name]] else []
  | .link _ => if s.wants name && !leads (place ++ [name]) then [place ++ [name]] else []
  | .directory members =>
    if s.enters name && lists (place ++ [name]) then foundAmong s leads (place ++ [name]) members
    else []

/-- The source files at or below the members of a directory. -/
def foundAmong (s : Search) (leads : Location → Bool) (place : Location) :
    List (Text × Entry) → List Location
  | [] => []
  | (name, entry) :: rest => found s leads place name entry ++ foundAmong s leads place rest

end

mutual

/-- How many directories are entered one inside of the other at or below the
member of a directory. -/
def depth (s : Search) (place : Location) (name : Text) : Entry → Nat
  | .directory members =>
    if s.enters name then
      if lists (place ++ [name]) then depthAmong s (place ++ [name]) members + 1 else 1
    else 0
  | _ => 0

/-- How many directories are entered one inside of the other at or below the
members of a directory. -/
def depthAmong (s : Search) (place : Location) : List (Text × Entry) → Nat
  | [] => 0
  | (name, entry) :: rest => max (depth s place name entry) (depthAmong s place rest)

end

/-- The source files below the directory that a location leads to. It is a fault to enter too
many directories one inside of the other. -/
def below (s : Search) (host : Host) (l : Location) : Except Fault (OrderedSet Location) :=
  match host.at? (Path.ofLocation l) with
  | some ⟨_, .directory members⟩ =>
    if host.nesting.directories < s.depthAmong l members then .error .tooDeep
    else
      .ok (OrderedSet.ofList
        (s.foundAmong (fun place => host.hasDirectory (Path.ofLocation place)) l members))
  | _ => .ok ∅

/-- The source files below the directory at a path; none if there is no
directory. -/
def run (s : Search) (host : Host) (p : Path) : Traced (OrderedSet Location) :=
  match host.resolve p with
  | .error fault => Traced.stop (.fault fault)
  | .ok l => do
    let spot ← Traced.ofExcept ((host.look (Path.ofLocation l)).mapError .fault)
    if spot.any (·.entry.isDirectory) then
      let files ← Traced.ofExcept ((s.below host l).mapError .fault)
      Traced.note "filesystem" .debug
        ["Discovered ", Text.ofNat files.size, " source file(s) under ", Location.toText l]
      return files
    else return ∅

end Search

end NamespaceScan

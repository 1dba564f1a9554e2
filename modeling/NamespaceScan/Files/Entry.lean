import NamespaceScan.Path

/-!
# Entries

The file system is a tree of directories. An entry is a file with its octets,
a directory with named members, or a symbolic link with the text it stands
for. Names are unique in a directory; the first member of a name counts.
-/

namespace NamespaceScan

/-- What stands under a name in a directory. -/
inductive Entry where
  | file (octets : ByteArray)
  | directory (members : List (Text × Entry))
  | link (target : Text)
deriving Inhabited

/-- The members of a directory. -/
abbrev Members := List (Text × Entry)

namespace Members

/-- The member with a name. -/
def get? (members : Members) (name : Text) : Option Entry :=
  (members.find? fun member => member.1 = name).map (·.2)

/-- Put an entry under a name, in the place of the one that was there. -/
def put (name : Text) (entry : Entry) : Members → Members
  | [] => [(name, entry)]
  | member :: rest =>
    if member.1 = name then (name, entry) :: rest else member :: put name entry rest

/-- Remove the member with a name. -/
def erase (members : Members) (name : Text) : Members :=
  members.filter fun member => member.1 ≠ name

end Members

namespace Entry

/-- Whether the entry is a directory. -/
def isDirectory : Entry → Bool
  | .directory _ => true
  | _ => false

/-- Whether the entry is a file. -/
def isFile : Entry → Bool
  | .file _ => true
  | _ => false

/-- The entry that names lead to. Links are not followed. -/
def descend : Entry → Location → Option Entry
  | entry, [] => some entry
  | .directory members, name :: rest => (Members.get? members name).bind (·.descend rest)
  | _, _ :: _ => none

/-- Change the directory that names lead to; nothing changes when there is
none. -/
def change (f : Members → Members) : Entry → Location → Entry
  | .directory members, [] => .directory (f members)
  | .directory members, name :: rest =>
    match Members.get? members name with
    | some entry => .directory (Members.put name (entry.change f rest) members)
    | none => .directory members
  | entry, _ => entry

mutual

/-- The files in an entry, with the names that lead to them from a place. -/
def leaves (place : Location) : Entry → List (Location × ByteArray)
  | .file octets => [(place, octets)]
  | .directory members => leavesIn place members
  | .link _ => []

/-- The files among the members of a directory. -/
def leavesIn (place : Location) : List (Text × Entry) → List (Location × ByteArray)
  | [] => []
  | (name, entry) :: rest => leaves (place ++ [name]) entry ++ leavesIn place rest

end

end Entry

/-- A file system: what stands below the root directory. -/
structure FileSystem where
  members : Members := []

namespace FileSystem

/-- The root directory. -/
def root (fs : FileSystem) : Entry := .directory fs.members

/-- The file system with the given root directory. -/
def ofRoot : Entry → FileSystem
  | .directory members => { members }
  | _ => {}

/-- The entry at a location. Links are not followed. -/
def get? (fs : FileSystem) (l : Location) : Option Entry := fs.root.descend l

/-- The target of the link at a location, if one stands there. -/
def link? (fs : FileSystem) (l : Location) : Option Text :=
  match fs.get? l with
  | some (.link target) => some target
  | _ => none

/-- Put an entry under a name into the directory at a location. -/
def put (fs : FileSystem) (directory : Location) (name : Text) (entry : Entry) : FileSystem :=
  ofRoot (fs.root.change (Members.put name entry) directory)

/-- Remove the entry with a name from the directory at a location. -/
def erase (fs : FileSystem) (directory : Location) (name : Text) : FileSystem :=
  ofRoot (fs.root.change (Members.erase · name) directory)

end FileSystem

end NamespaceScan

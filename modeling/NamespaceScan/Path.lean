import NamespaceScan.Text.Basic

/-!
# Paths

A path is how a file is named: relative, from the root, or from the special
root that two slashes name, followed by names. Empty names and single dots are
dropped when a text is read as a path; double dots are kept, because what they
mean depends on links.

A location is a place in the tree of directories: the names from the root down.
Locations are compared name by name, so a directory's files stand together.
-/

namespace NamespaceScan

/-- Where a path begins. -/
inductive Anchor where
  | relative
  | root
  | doubleRoot
deriving DecidableEq

/-- The name of a file. -/
structure Path where
  anchor : Anchor := .relative
  names : List Text := []
deriving DecidableEq

/-- The names from the root of the directory tree down to a place. -/
abbrev Location := List Text

/-- The code point between the names of a path. -/
def slash : CodePoint := 0x2F

/-- The name of the directory itself. -/
def here : Text := "."

/-- The name of the directory above. -/
def above : Text := ".."

namespace Anchor

/-- The slashes at the beginning of a path. -/
def toText : Anchor → Text
  | .relative => []
  | .root => [slash]
  | .doubleRoot => [slash, slash]

/-- Exactly two slashes are special; more of them count as one. -/
def ofSlashes : Nat → Anchor
  | 0 => .relative
  | 2 => .doubleRoot
  | _ => .root

end Anchor

namespace Location

/-- The location that one more name leads to: a double dot leads one directory
up, an empty name or a single dot nowhere. -/
def step (place : Location) (name : Text) : Location :=
  if name = [] ∨ name = here then place
  else if name = above then place.dropLast
  else place ++ [name]

/-- Follow names from the root when links do not matter. -/
def collapse (names : List Text) : Location := names.foldl step []

/-- A location as a text. -/
def toText (l : Location) : Text := slash :: Text.joinWith [slash] l

/-- The names that lead from one location to another: up to the last common
directory, then down. -/
def steps : Location → Location → List Text
  | [], target => target
  | source, [] => List.replicate source.length above
  | s :: source, t :: target =>
    if s = t then steps source target
    else List.replicate (source.length + 1) above ++ t :: target

end Location

namespace Path

/-- The path that a text names. -/
def ofText (t : Text) : Path where
  anchor := Anchor.ofSlashes (t.takeWhile (· = slash)).length
  names := (t.splitOn slash).filter fun name => name ≠ [] && name ≠ here

/-- A path as a text. -/
def toText (p : Path) : Text :=
  if p.anchor = .relative ∧ p.names = [] then here
  else p.anchor.toText ++ Text.joinWith [slash] p.names

/-- The path of a location. -/
def ofLocation (l : Location) : Path := { anchor := .root, names := l }

/-- The last name. -/
def name (p : Path) : Text := p.names.getLast?.getD []

/-- The path without its last name. -/
def parent (p : Path) : Path := { p with names := p.names.dropLast }

/-- Whether the path does not depend on the working directory. -/
def isAbsolute (p : Path) : Bool := p.anchor ≠ .relative

/-- Where the names of a path begin, seen from a working directory. -/
def start (p : Path) (cwd : Location) : Location := if p.isAbsolute then [] else cwd

/-- The names of a path from the root on, seen from a working directory. -/
def namesFrom (p : Path) (cwd : Location) : List Text :=
  if p.isAbsolute then p.names else cwd ++ p.names

/-- The location of a path when links do not matter. -/
def locate (p : Path) (cwd : Location) : Location := Location.collapse (p.namesFrom cwd)

/-- The path that leads from a base to a file when links do not matter. -/
def relativeTo (p : Path) (cwd : Location) (base : Path) : Path :=
  { names := Location.steps (base.locate cwd) (p.locate cwd) }

/-- The parts by which paths are compared. -/
def parts (p : Path) : List Text :=
  if p.anchor = .relative then p.names else p.anchor.toText :: p.names

instance : LT Path := ⟨fun p q => p.parts < q.parts⟩

instance (p q : Path) : Decidable (p < q) := inferInstanceAs (Decidable (p.parts < q.parts))

end Path

/-- The code point before a file extension. -/
def dot : CodePoint := 0x2E

/-- The extension of a file name, with its dot. A dot at either end of the name
begins no extension. -/
def extension (name : Text) : Text :=
  let tail := name.reverse.takeWhile (· ≠ dot)
  if tail ≠ [] ∧ tail.length + 1 < name.length then dot :: tail.reverse else []

end NamespaceScan

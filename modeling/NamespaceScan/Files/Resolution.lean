import NamespaceScan.Files.Naming
import NamespaceScan.Path

/-!
# Resolving paths

A path is resolved name by name, on the paths as they are written: a name is added to the path so
far, a double dot takes the last name away, and where a link stands its target is resolved from
there. What does not exist is kept as it is written. The result of a link is remembered under the
path where it was met. A link that is met again while it is being followed leads back to itself;
then the rest of the path is kept as it is.

Links are entered one inside of the other, and only so deep as the calls of a function may be
nested.
-/

namespace NamespaceScan

/-- The parts of a written path. -/
def components (t : Text) : List Text := t.splitOn slash

namespace Path

/-- The path where the names of a path begin: the root or the working directory. -/
def origin (p : Path) : Path := { anchor := if p.isAbsolute then .root else .relative }

/-- The path with one more name. -/
def child (p : Path) (name : Text) : Path := { p with names := p.names ++ [name] }

/-- The path one directory up, as it is written: only where no name is left to take away, a double
dot is added to a relative path. -/
def up (p : Path) : Path :=
  match p.names.getLast? with
  | none => if p.isAbsolute then p else p.child above
  | some last => if last = above then p.child above else p.parent

/-- The path where the target of a link begins that stands in the directory at a path. -/
def toward (p : Path) (target : Text) : Path :=
  if target.head? = some slash then { anchor := .root } else p

/-- The path with the rest of a written path behind it. The rest begins at the root where it
begins with a slash. -/
def followedBy (p : Path) (rest : List Text) : Path :=
  match rest with
  | [] :: _ :: _ => { anchor := .root, names := rest }
  | _ => { p with names := p.names ++ rest }

/-- The location of a path from a working directory, with the names taken as they are written. -/
def reach (p : Path) (cwd : Location) : Location := p.names.foldl Location.step (p.start cwd)

end Path

/-- The links that were met, with where they lead once that is known. -/
abbrev MetLinks := List (Path × Option Path)

/-- How far a path has been resolved. -/
structure Resolution where
  place : Path
  /-- No link led back to itself. -/
  complete : Bool
  links : MetLinks

/-- Tells the target of the link at a path, if one stands there. -/
abbrev LinkReader := Path → Except Fault (Option Text)

namespace Resolution

/-- What is known of a link: nothing, only that it was met, or where it leads. -/
def known? (links : MetLinks) (p : Path) : Option (Option Path) :=
  (links.find? fun known => known.1 = p).map (·.2)

/-- Resolve names from a path on. Where a new link stands, `enter` resolves its target. -/
def followWith (ask : LinkReader) (enter : Path → Text → MetLinks → Except Fault Resolution)
    (place : Path) (links : MetLinks) : List Text → Except Fault Resolution
  | [] => .ok ⟨place, true, links⟩
  | name :: rest =>
    if name = [] ∨ name = here then followWith ask enter place links rest
    else if name = above then followWith ask enter place.up links rest
    else
      match ask (place.child name) with
      | .error fault => .error fault
      | .ok none => followWith ask enter (place.child name) links rest
      | .ok (some target) =>
        match known? links (place.child name) with
        | some (some known) => followWith ask enter known links rest
        | some none => .ok ⟨(place.child name).followedBy rest, false, links⟩
        | none =>
          match enter place target ((place.child name, none) :: links) with
          | .error fault => .error fault
          | .ok inner =>
            if inner.complete then
              followWith ask enter inner.place
                ((place.child name, some inner.place) :: inner.links) rest
            else .ok ⟨inner.place.followedBy rest, false, inner.links⟩

/-- Resolve names from a path on; `depth` links can be entered one inside of the other. -/
def follow (ask : LinkReader) : Nat → Path → List Text → MetLinks → Except Fault Resolution
  | 0, place, names, links =>
    followWith ask (fun _ _ _ => .error .tooDeep) place links names
  | depth + 1, place, names, links =>
    followWith ask
      (fun place target links =>
        follow ask depth (place.toward target) (components target) links)
      place links names

end Resolution

end NamespaceScan

import NamespaceScan.Text.Quoted

/-!
# Refusals

The reasons for which the file system refuses a request, and their wording:
a number, a phrase, and the paths that the request named.
-/

namespace NamespaceScan

/-- Why a request to the file system is refused. -/
inductive Obstacle where
  | notFound
  | busy
  | alreadyThere
  | notDirectory
  | isDirectory
  | noSpace
  | nameTooLong
  | tooManyLinks
  | noFreshName
deriving DecidableEq

namespace Obstacle

/-- The number of an obstacle. -/
def number : Obstacle → Nat
  | .notFound => 2
  | .busy => 16
  | .alreadyThere | .noFreshName => 17
  | .notDirectory => 20
  | .isDirectory => 21
  | .noSpace => 28
  | .nameTooLong => 36
  | .tooManyLinks => 40

/-- An obstacle in words. -/
def phrase : Obstacle → Text
  | .notFound => "No such file or directory"
  | .busy => "Device or resource busy"
  | .alreadyThere => "File exists"
  | .notDirectory => "Not a directory"
  | .isDirectory => "Is a directory"
  | .noSpace => "No space left on device"
  | .nameTooLong => "File name too long"
  | .tooManyLinks => "Too many levels of symbolic links"
  | .noFreshName => "No usable temporary file name found"

end Obstacle

/-- A refused request: the obstacle, and the path or the two paths of the
request. -/
structure Refusal where
  obstacle : Obstacle
  path : Option Text := none
  target : Option Text := none
deriving DecidableEq

/-- The wording of a refusal. -/
def Refusal.message (r : Refusal) : Text :=
  Text.concat
    ["[Errno ", Text.ofNat r.obstacle.number, "] ", r.obstacle.phrase,
      Text.concat (r.path.toList.map fun p => Text.concat [": ", p.quoted]),
      Text.concat (r.target.toList.map fun p => Text.concat [" -> ", p.quoted])]

end NamespaceScan

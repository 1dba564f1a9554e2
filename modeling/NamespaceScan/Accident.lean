import NamespaceScan.Value

/-!
# Accidents

An accident is an error from outside of the program, described by values. One
from the operating system has a number and a phrase, and can name one file or
two.
-/

namespace NamespaceScan

/-- An error from outside, with the values that describe it. -/
structure Accident where
  /-- The operating system reports it. -/
  ofSystem : Bool := false
  arguments : List Value := []

namespace Accident

/-- A file that is named, behind the given words. -/
def named (words : Text) : Option Value → Text
  | none | some .null => []
  | some value => words ++ value.quoted

/-- The numbers of errors that say that an operation would have to wait. -/
def waitingNumbers : List Int := [11, 114, 115]

/-- The value names no file: after an error that says that an operation would
have to wait, a number tells how much was done. -/
def isProgress (number : Value) : Option Value → Bool
  | some (.int _) | some (.bool _) =>
    match number with
    | .int n => waitingNumbers.contains n
    | _ => false
  | _ => false

/-- A number and a phrase, followed by the files that are named. -/
def systemMessage (number phrase : Value) (rest : List Value) : Text :=
  let first := if isProgress number rest[0]? then [] else named ": " rest[0]?
  let second := if first = [] then [] else named " -> " rest[2]?
  Text.concat ["[Errno ", number.shown, "] ", phrase.shown, first, second]

/-- The values as they are: nothing, one value, or several in parentheses. -/
def plainMessage : List Value → Text
  | [] => []
  | [value] => value.shown
  | values => Value.tupled values

/-- The wording of an accident. -/
def message (a : Accident) : Text :=
  match a.ofSystem, a.arguments with
  | true, number :: phrase :: rest =>
    if rest.length ≤ 3 then systemMessage number phrase rest else plainMessage a.arguments
  | _, arguments => plainMessage arguments

end Accident

end NamespaceScan

import NamespaceScan.Console.Markup
import NamespaceScan.Console.Style
import NamespaceScan.Problem

/-!
# Opening and closing tags

A tag in marked text opens a style; a tag that begins with a slash closes the
style of that name that was opened last, or the last one of all if it names
none. A tag that has nothing to close is a fault.
-/

namespace NamespaceScan.Markup

/-- A tag: its name, and what follows an equals sign. -/
structure Tag where
  name : Text
  parameters : Option Text := none

namespace Tag

/-- The tag that is written between brackets. -/
def ofBrackets (written : Text) : Tag :=
  let inner := (written.drop 1).dropLast
  { name := inner.takeWhile (· ≠ 0x3D)
    parameters := if 0x3D ∈ inner then some ((inner.dropWhile (· ≠ 0x3D)).drop 1) else none }

/-- The name that a closing tag closes, if it is one. -/
def closes? (tag : Tag) : Option Text :=
  match tag.name with
  | slash :: name => if slash = 0x2F then some (Text.strip name) else none
  | [] => none

end Tag

/-- The styles that are still open, the last one first, after a tag that stands
at a position. -/
def afterTag (opened : List Text) (position : Nat) (written : Text) : Except Fault (List Text) :=
  let tag := Tag.ofBrackets written
  match tag.closes? with
  | none => .ok (Console.Style.normalize tag.name :: opened)
  | some [] =>
    match opened with
    | [] => .error (.nothingToClose position)
    | _ :: rest => .ok rest
  | some name =>
    let name := Console.Style.normalize name
    if name ∈ opened then .ok (opened.erase name) else .error (.strayClosing written position)

/-- Go through the pieces of a marked text from a position. -/
def checkPieces (opened : List Text) (position : Nat) : List Piece → Except Fault Unit
  | [] => .ok ()
  | .plain t :: rest => checkPieces opened (position + t.length) rest
  | .tag count t :: rest =>
    let next := position + count + t.length
    if count % 2 = 1 then checkPieces opened next rest
    else
      match afterTag opened (position + count) t with
      | .error fault => .error fault
      | .ok opened => checkPieces opened next rest

/-- Every closing tag of a marked text has something to close. -/
def check (t : Text) : Except Fault Unit := checkPieces [] 0 (pieces t)

end NamespaceScan.Markup

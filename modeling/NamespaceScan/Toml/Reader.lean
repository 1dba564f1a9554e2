import NamespaceScan.Problem

/-!
# Readers

A reader takes a value from the beginning of a text. An error in the text keeps
what stands from the offending place on, so its line and column can be told
once the whole document is at hand. A text that goes beyond a limit is a fault.
-/

namespace NamespaceScan.Toml

/-- Why a document cannot be read. -/
inductive Error where
  /-- An error in the text, and what stands from its place on. -/
  | malformed (reason rest : Text)
  /-- A limit that the text goes beyond. -/
  | beyond (fault : Fault)

/-- Takes a value from the beginning of a text. -/
abbrev Reader := StateT Text (Except Error)

def newline : CodePoint := 0x0A
def hash : CodePoint := 0x23
def quotationMark : CodePoint := 0x22
def apostrophe : CodePoint := 0x27
def escapeMark : CodePoint := 0x5C

/-- The place before a rest of a document in words; lines and columns count from
one. -/
def place (document rest : Text) : Text :=
  if rest = [] then "end of document"
  else
    let before := document.take (document.length - rest.length)
    let column := (before.reverse.takeWhile (· ≠ newline)).length + 1
    Text.concat
      ["line ", Text.ofNat (before.count newline + 1), ", column ", Text.ofNat column]

/-- Stop with an error at the current place. -/
def fail {α : Type} (reason : Text) : Reader α := fun rest => .error (.malformed reason rest)

/-- The next code point, which is not taken. -/
def peek : Reader (Option CodePoint) := do return (← get).head?

/-- Skip code points. -/
def skip (count : Nat) : Reader Unit := modify (List.drop count)

/-- Blanks inside of a line. -/
def isBlank (c : CodePoint) : Bool := c = 0x20 || c = 0x09

/-- Blanks and line ends. -/
def isSpread (c : CodePoint) : Bool := isBlank c || c = newline

/-- Control characters, which stand nowhere but for the tab. -/
def isIllegal (c : CodePoint) : Bool := (c.val < 0x20 && c ≠ 0x09) || c = 0x7F

/-- Skip blanks inside of a line. -/
def skipBlanks : Reader Unit := modify (List.dropWhile isBlank)

/-- The text before an ending, and what follows from the ending on if it is
there at all. -/
def breakOn (ending : Text) : Text → Text × Option Text
  | [] => ([], if ending = [] then some [] else none)
  | c :: rest =>
    if ending.isPrefixOf (c :: rest) then ([], some (c :: rest))
    else
      let (before, found) := breakOn ending rest
      (c :: before, found)

/-- Take the text before an ending. Without one, all of the text is taken,
unless the ending is needed. -/
def takeUntil (ending : Text) (illegal : CodePoint → Bool) (needed : Bool) : Reader Text := do
  let t ← get
  let (before, found) := breakOn ending t
  if found.isNone && needed then throw (.malformed ("Expected " ++ ending.quoted) [])
  match before.dropWhile (fun c => !illegal c) with
  | c :: _ =>
    throw
      (.malformed ("Found invalid character " ++ Text.quoted [c]) (t.dropWhile fun c => !illegal c))
  | [] =>
    set (found.getD [])
    return before

/-- Skip a comment, if one stands here. -/
def skipComment : Reader Unit := do
  if (← peek) = some hash then
    skip 1
    discard (takeUntil [newline] isIllegal false)

/-- Skip blanks, line ends and comments. -/
def skipSpread : Nat → Reader Unit
  | 0 => return
  | fuel + 1 => do
    let before := (← get).length
    modify (List.dropWhile isSpread)
    skipComment
    if (← get).length < before then skipSpread fuel

/-- Skip everything that may stand between the items of an array. -/
def skipBetween : Reader Unit := do skipSpread ((← get).length + 1)

end NamespaceScan.Toml

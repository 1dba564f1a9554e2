import NamespaceScan.Text.Utf8

/-!
# Positions in a source

A cursor is what is left of a source text together with the octet and the row
where it begins. Rows are counted by line feeds only. How much is left is kept
as a number, which bounds every repetition without counting again.
-/

namespace NamespaceScan.JavaScript

/-- A position in a source. -/
structure Cursor where
  /-- The text from here on. -/
  rest : Text
  /-- The number of code points from here on. -/
  left : Nat
  /-- The number of octets before. -/
  offset : Nat := 0
  /-- The number of line feeds before. -/
  row : Nat := 0
deriving Inhabited

namespace Cursor

/-- At the beginning of a text. -/
def ofText (t : Text) : Cursor := { rest := t, left := t.length }

/-- Behind a code point that leaves `rest`. -/
def past (k : Cursor) (c : CodePoint) (rest : Text) : Cursor :=
  ⟨rest, k.left - 1, k.offset + Utf8.width c, if c = 0x0A then k.row + 1 else k.row⟩

/-- Behind the next code point, if there is one. -/
def next (k : Cursor) : Cursor :=
  match k.rest with
  | [] => k
  | c :: rest => k.past c rest

/-- Behind the next `count` code points. -/
def skip : Nat → Cursor → Cursor
  | 0, k => k
  | count + 1, k => skip count k.next

/-- Behind the code points from here that have a property. -/
def skipWhile (p : CodePoint → Bool) (k : Cursor) : Cursor :=
  skip (k.rest.takeWhile p).length k

/-- The next code point. -/
def peek? (k : Cursor) : Option CodePoint := k.rest.head?

/-- The text continues with the given one. -/
def startsWith (k : Cursor) (t : Text) : Bool := t.isPrefixOf k.rest

/-- The end of the text is reached. -/
def atEnd (k : Cursor) : Bool := k.rest.isEmpty

end Cursor

end NamespaceScan.JavaScript

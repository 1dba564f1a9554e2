import NamespaceScan.Text.Width

/-!
# Graphemes

A grapheme is a stretch of a text that is shown as one sign: a character with a
width, the marks without one behind it, and what a joiner adds. A line may be
cut between two graphemes, never inside of one.
-/

namespace NamespaceScan

/-- Characters that are shown as one sign, and the columns that the sign takes. -/
structure Grapheme where
  text : Text
  columns : Nat

namespace Grapheme

/-- The grapheme that begins with a character. -/
def ofCodePoint (c : CodePoint) : Grapheme := ⟨[c], c.columns⟩

/-- Add characters at the end. -/
def extend (g : Grapheme) (t : Text) (columns : Nat) : Grapheme :=
  ⟨g.text ++ t, g.columns + columns⟩

/-- The graphemes of a text that goes on from an open grapheme; `before` is the
last character that has a width and is not widened yet. -/
def continued (g : Grapheme) (before : Option CodePoint) : Text → List Grapheme
  | [] => [g]
  | [c] =>
    if c = CodePoint.emojiSelector then [g.extend [c] (CodePoint.widening before)]
    else if c.columns = 0 then [g.extend [c] 0]
    else [g, ofCodePoint c]
  | c :: d :: rest =>
    if c = CodePoint.joiner then continued (g.extend [c, d] 0) before rest
    else if c = CodePoint.emojiSelector then
      let added := CodePoint.widening before
      continued (g.extend [c] added) (if added = 0 then before else none) (d :: rest)
    else if c.columns = 0 then continued (g.extend [c] 0) before (d :: rest)
    else g :: continued (ofCodePoint c) (some c) (d :: rest)

end Grapheme

/-- The graphemes of a text. -/
def Text.graphemes : Text → List Grapheme
  | [] => []
  | c :: rest =>
    (Grapheme.ofCodePoint c).continued (if c.columns = 0 then none else some c) rest

end NamespaceScan

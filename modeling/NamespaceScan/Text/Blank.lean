import NamespaceScan.Text.Basic

/-!
# White space

The characters that are removed from both ends of a text before it is used as
a file extension.
-/

namespace NamespaceScan

/-- The ranges of white space. -/
def blankRanges : List (Nat × Nat) :=
  [(0x9, 0xD), (0x1C, 0x20), (0x85, 0x85), (0xA0, 0xA0), (0x1680, 0x1680), (0x2000, 0x200A),
   (0x2028, 0x2029), (0x202F, 0x202F), (0x205F, 0x205F), (0x3000, 0x3000)]

/-- White space. -/
def CodePoint.isBlank (c : CodePoint) : Bool := c.inRanges blankRanges

/-- The text without white space at its ends. -/
def Text.strip (t : Text) : Text :=
  ((t.dropWhile CodePoint.isBlank).reverse.dropWhile CodePoint.isBlank).reverse

end NamespaceScan

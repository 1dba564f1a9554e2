import NamespaceScan.Text.Basic

/-!
# Character classes of the source language
-/

namespace NamespaceScan.JavaScript

/-- White space between tokens. -/
def isSpace (c : CodePoint) : Bool :=
  (0x09 ≤ c.val && c.val ≤ 0x0D) || c = 0x20 || c = 0xA0 || c = 0x1680 ||
    (0x2000 ≤ c.val && c.val ≤ 0x200B) || c = 0x2028 || c = 0x2029 || c = 0x202F ||
    c = 0x205F || c = 0x2060 || c = 0x3000 || c = 0xFEFF

/-- White space at which a line may be broken. No-break spaces and marks
without a width are not among it. -/
def isBreakable (c : CodePoint) : Bool :=
  (0x09 ≤ c.val && c.val ≤ 0x0D) || c = 0x20 || c = 0x1680 ||
    (0x2000 ≤ c.val && c.val ≤ 0x200A && c ≠ 0x2007) || c = 0x2028 || c = 0x2029 ||
    c = 0x205F || c = 0x3000

/-- The characters that end a line where a semicolon may be missing. -/
def endsLine (c : CodePoint) : Bool := c = 0x0A || c = 0x2028 || c = 0x2029

/-- The characters that end a comment of one line. -/
def endsComment (c : CodePoint) : Bool := endsLine c || c = 0x0D

/-- The punctuation that cannot stand in a name. -/
def punctuation : Text := ":;`\"'@#.,|^&<=>+-*/\\%?!~()[]\x7b\x7d"

/-- May stand in a name. -/
def isNamePart (c : CodePoint) : Bool :=
  0x20 < c.val && !isSpace c && !punctuation.elem c

/-- May begin a name. -/
def isNameStart (c : CodePoint) : Bool := isNamePart c && !c.isDigit

end NamespaceScan.JavaScript

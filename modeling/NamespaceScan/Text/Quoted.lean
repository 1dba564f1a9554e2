import NamespaceScan.Text.Printable

/-!
# Quoted texts

A text between quotes, fit for a message: single quotes, unless the text has
single quotes and no double ones. Backslashes and the chosen quote are escaped,
and so is every character that cannot be shown.
-/

namespace NamespaceScan

namespace Quoted

/-- The quote that is put around a text. -/
def mark (t : Text) : CodePoint := if 0x27 ∈ t ∧ 0x22 ∉ t then 0x22 else 0x27

/-- A code point as an escape with its number. -/
def numbered (c : CodePoint) : Text :=
  if c.val < 0x100 then "\\x" ++ Text.hexDigits 2 c.val
  else if c.val < 0x10000 then "\\u" ++ Text.hexDigits 4 c.val
  else "\\U" ++ Text.hexDigits 8 c.val

/-- A code point of a text that stands between the given quotes. -/
def shown (mark c : CodePoint) : Text :=
  if c = mark ∨ c = 0x5C then [0x5C, c]
  else if c = 0x0A then "\\n"
  else if c = 0x0D then "\\r"
  else if c = 0x09 then "\\t"
  else if 0x20 ≤ c.val ∧ c.val < 0x7F then [c]
  else if c.isPrintable then [c]
  else numbered c

end Quoted

/-- A text between quotes. -/
def Text.quoted (t : Text) : Text :=
  let mark := Quoted.mark t
  mark :: t.flatMap (Quoted.shown mark) ++ [mark]

end NamespaceScan

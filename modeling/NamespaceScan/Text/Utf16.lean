import NamespaceScan.Text.Basic

/-!
# UTF-16 pairs

A pair of surrogates stands for one code point beyond U+FFFF. Joining the
pairs of a text is all or nothing: a text with an unpaired surrogate has no
joined form.
-/

namespace NamespaceScan

namespace Utf16

/-- The code units of one code point. -/
def unitsOf (c : CodePoint) : List Nat :=
  if c.val < 0x10000 then [c.val]
  else [0xD800 + (c.val - 0x10000) / 1024, 0xDC00 + (c.val - 0x10000) % 1024]

/-- The code units of a text. -/
def units (t : Text) : List Nat := t.flatMap unitsOf

/-- The code point that a pair stands for. -/
def pairValue (high low : CodePoint) : CodePoint :=
  Fin.ofNat _ (0x10000 + (high.val - 0xD800) * 1024 + (low.val - 0xDC00))

/-- The text with its pairs joined, unless some surrogate is unpaired. -/
def joinPairs : Text → Option Text
  | [] => some []
  | [c] => if c.isSurrogate then none else some [c]
  | c :: d :: rest =>
    if c.isSurrogate then
      if c.isHighSurrogate && d.isLowSurrogate then (joinPairs rest).map (pairValue c d :: ·)
      else none
    else (joinPairs (d :: rest)).map (c :: ·)

/-- The joined form, or the text as it is when there is none. -/
def joinPairsOrKeep (t : Text) : Text := (joinPairs t).getD t

end Utf16

end NamespaceScan

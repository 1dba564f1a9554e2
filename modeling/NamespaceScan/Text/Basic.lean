import NamespaceScan.Numbers

/-!
# Texts

A text is a list of Unicode code points. Surrogate code points may stand in it
on their own: a string literal can spell half of a pair, and such a value has
to be carried, compared and reported unchanged. Texts are ordered by code
point, so sorting never depends on how a text is stored.
-/

namespace NamespaceScan

/-- A Unicode code point; the surrogates U+D800 to U+DFFF are code points too. -/
abbrev CodePoint := Fin 0x110000

instance CodePoint.neZero : NeZero 0x110000 := ⟨by decide⟩
instance CodePoint.lawfulBEq : LawfulBEq CodePoint := inferInstance

/-- A text: code points in reading order, compared lexicographically. -/
abbrev Text := List CodePoint

namespace CodePoint

/-- The code point of a character. -/
def ofChar (c : Char) : CodePoint := Fin.ofNat _ c.toNat

/-- A code point from its number, if the number is not too large. -/
def ofNat? (n : Nat) : Option CodePoint :=
  if h : n < 0x110000 then some ⟨n, h⟩ else none

/-- The first half of a surrogate pair. -/
def isHighSurrogate (c : CodePoint) : Bool := 0xD800 ≤ c.val && c.val ≤ 0xDBFF

/-- The second half of a surrogate pair. -/
def isLowSurrogate (c : CodePoint) : Bool := 0xDC00 ≤ c.val && c.val ≤ 0xDFFF

/-- Either half of a surrogate pair. -/
def isSurrogate (c : CodePoint) : Bool := 0xD800 ≤ c.val && c.val ≤ 0xDFFF

/-- The decimal digits. -/
def isDigit (c : CodePoint) : Bool := 0x30 ≤ c.val && c.val ≤ 0x39

/-- The letters of the basic Latin alphabet. -/
def isLatinLetter (c : CodePoint) : Bool :=
  (0x41 ≤ c.val && c.val ≤ 0x5A) || (0x61 ≤ c.val && c.val ≤ 0x7A)

/-- The value of a hexadecimal digit, in either case. -/
def hexValue? (c : CodePoint) : Option Nat :=
  if c.isDigit then some (c.val - 0x30)
  else if 0x41 ≤ c.val && c.val ≤ 0x46 then some (c.val - 0x41 + 10)
  else if 0x61 ≤ c.val && c.val ≤ 0x66 then some (c.val - 0x61 + 10)
  else none

/-- The value of an octal digit. -/
def octalValue? (c : CodePoint) : Option Nat :=
  if 0x30 ≤ c.val && c.val ≤ 0x37 then some (c.val - 0x30) else none

/-- Lies in one of the given closed ranges. -/
def inRanges (ranges : List (Nat × Nat)) (c : CodePoint) : Bool :=
  ranges.any fun range => range.1 ≤ c.val && c.val ≤ range.2

/-- The lower-case hexadecimal digit of a number below sixteen. -/
def hexDigit (n : Nat) : CodePoint :=
  if n % 16 < 10 then Fin.ofNat _ (0x30 + n % 16) else Fin.ofNat _ (0x61 + (n % 16 - 10))

end CodePoint

namespace Text

/-- The text of a string. -/
def ofString (s : String) : Text := s.toList.map CodePoint.ofChar

instance : Coe String Text := ⟨ofString⟩

/-- The string of a text, if no surrogate stands in it. -/
def toString? (t : Text) : Option String :=
  if t.any CodePoint.isSurrogate then none
  else some (String.ofList (t.map fun c => Char.ofNat c.val))

/-- The decimal digits of a natural number. -/
def ofNat (n : Nat) : Text := (Nat.toDigits 10 n).map CodePoint.ofChar

/-- An integer in decimal, with a minus sign when it is negative. -/
def ofInt : Int → Text
  | .ofNat n => ofNat n
  | .negSucc n => CodePoint.ofChar '-' :: ofNat (n + 1)

/-- The parts one after the other. -/
def concat (parts : List Text) : Text := parts.flatten

/-- The parts with a separator between neighbours. -/
def joinWith (separator : Text) (parts : List Text) : Text := List.intercalate separator parts

/-- The pieces between the occurrences of a separator; there is always one. -/
def splitOn (separator : CodePoint) : Text → List Text
  | [] => [[]]
  | c :: rest =>
    if c = separator then [] :: splitOn separator rest
    else
      match splitOn separator rest with
      | [] => [[c]]
      | piece :: pieces => (c :: piece) :: pieces

/-- Every occurrence of a code point replaced by a text. -/
def substitute (target : CodePoint) (replacement : Text) (t : Text) : Text :=
  t.flatMap fun c => if c = target then replacement else [c]

/-- Begins with the given text. -/
def startsWith (t start : Text) : Bool := start.isPrefixOf t

/-- Ends with the given text. -/
def endsWith (t ending : Text) : Bool := ending.isSuffixOf t

/-- Holds the given text somewhere. -/
def includes (t part : Text) : Bool :=
  match t with
  | [] => part.isEmpty
  | c :: rest => part.isPrefixOf (c :: rest) || includes rest part

/-- The last `width` hexadecimal digits of a number, in lower case. -/
def hexDigits : Nat → Nat → Text
  | 0, _ => []
  | width + 1, n => hexDigits width (n / 16) ++ [CodePoint.hexDigit n]

/-- The number that hexadecimal digits spell, if all of them are. -/
def hexNumber? (digits : Text) : Option Nat :=
  digits.foldlM (fun n c => c.hexValue?.map (16 * n + ·)) 0

/-- A text of the same code point repeated. -/
def repeated (count : Nat) (c : CodePoint) : Text := List.replicate count c

end Text

end NamespaceScan

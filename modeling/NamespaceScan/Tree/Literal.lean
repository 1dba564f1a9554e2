import NamespaceScan.Text.Utf16

/-!
# String literals

`Literal.decode` gives the value that a quoted literal spells; `Literal.quote`
spells a value between single quotes. Code points beyond U+FFFF may be spelt
as two escapes, so decoding ends by joining surrogate pairs.
-/

namespace NamespaceScan

namespace Literal

def backslash : CodePoint := 0x5C
def singleQuote : CodePoint := 0x27
def lineFeed : CodePoint := 0x0A
def carriageReturn : CodePoint := 0x0D

/-- What an escape stands for, and how many code points it takes after its
backslash. -/
structure Escape where
  replacement : Text
  length : Nat
deriving DecidableEq

/-- The code point of a number, kept in range. -/
def codePoint (n : Nat) : CodePoint := Fin.ofNat _ n

/-- `u` and hexadecimal digits in braces. A number that is no code point keeps
its spelling. -/
def bracedEscape? (rest : Text) : Option Escape :=
  match rest with
  | 0x75 :: 0x7B :: more =>
    let digits := more.takeWhile fun c => c.hexValue?.isSome
    match digits, more.drop digits.length with
    | _ :: _, 0x7D :: _ =>
      let length := digits.length + 3
      let n := (Text.hexNumber? digits).getD 0
      if n < 0x110000 then some ⟨[codePoint n], length⟩
      else some ⟨backslash :: rest.take length, length⟩
    | _, _ => none
  | _ => none

/-- `u` and four hexadecimal digits. -/
def shortEscape? : Text → Option Escape
  | 0x75 :: a :: b :: c :: d :: _ =>
    (Text.hexNumber? [a, b, c, d]).map fun n => ⟨[codePoint n], 5⟩
  | _ => none

/-- `x` and two hexadecimal digits. -/
def byteEscape? : Text → Option Escape
  | 0x78 :: a :: b :: _ => (Text.hexNumber? [a, b]).map fun n => ⟨[codePoint n], 3⟩
  | _ => none

/-- At most `limit` octal digits from the front. -/
def octalDigits (limit : Nat) (rest : Text) : List Nat :=
  ((rest.take limit).map CodePoint.octalValue?).takeWhile Option.isSome |>.map (·.getD 0)

/-- One to three octal digits whose number is at most 255. -/
def octalEscape? (rest : Text) : Option Escape :=
  match rest with
  | [] => none
  | c :: _ =>
    if 0x30 ≤ c.val ∧ c.val ≤ 0x37 then
      let digits := octalDigits (if c.val ≤ 0x33 then 3 else 2) rest
      some ⟨[codePoint (digits.foldl (fun n d => 8 * n + d) 0)], digits.length⟩
    else none

/-- The control characters with a letter of their own. -/
def letterEscape? (c : CodePoint) : Option CodePoint :=
  match c with
  | 0x6E => some 0x0A
  | 0x74 => some 0x09
  | 0x72 => some 0x0D
  | 0x62 => some 0x08
  | 0x66 => some 0x0C
  | 0x76 => some 0x0B
  | _ => none

/-- The line terminators, which an escape removes. -/
def isLineTerminator (c : CodePoint) : Bool :=
  c = 0x0A || c = 0x0D || c = 0x2028 || c = 0x2029

/-- Any other single character: a line terminator vanishes (a carriage return
takes a line feed with it), a control letter gives its character, and all
others stand for themselves. -/
def plainEscape : Text → Escape
  | [] => ⟨[backslash], 0⟩
  | 0x0D :: 0x0A :: _ => ⟨[], 2⟩
  | c :: _ => if isLineTerminator c then ⟨[], 1⟩ else ⟨[(letterEscape? c).getD c], 1⟩

/-- The escape that follows a backslash. The spellings with digits are tried
first, from the longest to the shortest. -/
def escape (rest : Text) : Escape :=
  ((bracedEscape? rest).or (shortEscape? rest)).or ((byteEscape? rest).or (octalEscape? rest))
    |>.getD (plainEscape rest)

/-- The text with all escapes replaced. -/
def unescape : Text → Text
  | [] => []
  | c :: rest =>
    if c = backslash then
      (escape rest).replacement ++ unescape (rest.drop (escape rest).length)
    else c :: unescape rest
termination_by t => t.length
decreasing_by
  · simp only [List.length_drop, List.length_cons]; omega
  · simp

/-- The text between the quotes. -/
def body (raw : Text) : Text := raw.drop 1 |>.dropLast

/-- The value of a quoted literal. A body without escapes is its own value. -/
def decode (raw : Text) : Text :=
  let inner := body raw
  if backslash ∈ inner then Utf16.joinPairsOrKeep (unescape inner) else inner

/-- A value with backslashes, single quotes and line feeds escaped. -/
def escaped (value : Text) : Text :=
  value.flatMap fun c =>
    if c = backslash then [backslash, backslash]
    else if c = singleQuote then [backslash, singleQuote]
    else if c = lineFeed then [backslash, 0x6E]
    else [c]

/-- A value as a single-quoted literal. -/
def quote (value : Text) : Text := singleQuote :: escaped value ++ [singleQuote]

end Literal

end NamespaceScan

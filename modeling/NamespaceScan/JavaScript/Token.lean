import NamespaceScan.JavaScript.Character
import NamespaceScan.JavaScript.Cursor

/-!
# Tokens

Tokens are read one at a time, because what a slash or a back quote begins
depends on the grammar. White space and comments in front of a token are
skipped; the token remembers whether a line ended there.
-/

namespace NamespaceScan.JavaScript

/-! ## White space and comments -/

/-- Behind the end of a comment of several lines, and whether a line ended in it. -/
def skipBlock : Nat → Cursor → Bool → Cursor × Bool
  | 0, k, line => (k, line)
  | fuel + 1, k, line =>
    match k.rest with
    | [] => (k, line)
    | 0x2A :: 0x2F :: _ => (k.skip 2, line)
    | c :: _ => skipBlock fuel k.next (line || endsLine c)

/-- Behind white space and comments, and whether a line ended in them. -/
def skipTrivia : Nat → Cursor → Bool → Cursor × Bool
  | 0, k, line => (k, line)
  | fuel + 1, k, line =>
    match k.rest with
    | 0x2F :: 0x2F :: _ => skipTrivia fuel (k.skipWhile fun c => !endsComment c) line
    | 0x2F :: 0x2A :: _ =>
      let (k', line') := skipBlock k.left (k.skip 2) line
      skipTrivia fuel k' line'
    | c :: _ => if isSpace c then skipTrivia fuel k.next (line || endsLine c) else (k, line)
    | [] => (k, line)

/-- Behind the white space and the comments at a cursor. -/
def trivia (k : Cursor) : Cursor × Bool := skipTrivia (k.left + 1) k false

/-- Behind the comment at a cursor that begins like an end of a markup
comment. -/
def markupComment? (k : Cursor) : Option Cursor :=
  if k.startsWith "<!--" || k.startsWith "-->" then
    some (k.skipWhile fun c => !endsLine c)
  else none

/-! ## Names and literals -/

/-- The length of an escape in a name: `\uHHHH` or `\u{H...}`. -/
def nameEscape? : Text → Option Nat
  | 0x5C :: 0x75 :: 0x7B :: more =>
    let digits := more.takeWhile fun c => c.hexValue?.isSome
    match digits, more.drop digits.length with
    | _ :: _, 0x7D :: _ => some (digits.length + 4)
    | _, _ => none
  | 0x5C :: 0x75 :: a :: b :: c :: d :: _ => (Text.hexNumber? [a, b, c, d]).map fun _ => 6
  | _ => none

/-- Behind the rest of a name. -/
def skipName : Nat → Cursor → Cursor
  | 0, k => k
  | fuel + 1, k =>
    match k.rest with
    | [] => k
    | c :: _ =>
      if isNamePart c then skipName fuel k.next
      else
        match nameEscape? k.rest with
        | some length => skipName fuel (k.skip length)
        | none => k

/-- A name begins here. -/
def startsName (k : Cursor) : Bool :=
  match k.rest with
  | [] => false
  | c :: _ => isNameStart c || (nameEscape? k.rest).isSome

/-- Behind the name at a cursor. -/
def nameEnd (k : Cursor) : Cursor := skipName k.left k

/-- Behind digits of one kind. An underscore may stand between two of them. -/
def digitsEnd (p : CodePoint → Bool) : Nat → Cursor → Cursor
  | 0, k => k
  | fuel + 1, k =>
    match k.rest with
    | c :: rest =>
      if p c then digitsEnd p fuel (k.past c rest)
      else
        match rest with
        | d :: _ => if c = 0x5F && p d then digitsEnd p fuel k.next else k
        | [] => k
    | [] => k

/-- Behind the digits at a cursor, if the first character is one. -/
def digits (p : CodePoint → Bool) (k : Cursor) : Cursor :=
  if k.peek?.any p then digitsEnd p k.left k else k

/-- Behind the decimal digits at a cursor. -/
def decimals (k : Cursor) : Cursor := digits CodePoint.isDigit k

/-- Behind an exponent, if there is one. -/
def exponent (k : Cursor) : Cursor :=
  match k.rest with
  | e :: sign :: rest =>
    if e = 0x65 || e = 0x45 then
      if sign.isDigit then decimals k.next
      else if (sign = 0x2B || sign = 0x2D) && rest.head?.any CodePoint.isDigit then
        decimals (k.skip 2)
      else k
    else k
  | _ => k

/-- Behind the mark of a large integer, if there is one. -/
def largeMark (k : Cursor) : Cursor := if k.peek? = some 0x6E then k.next else k

/-- The digits that may follow a leading zero and the given letter. -/
def radixDigit? (letter : CodePoint) : Option (CodePoint → Bool) :=
  if letter = 0x78 || letter = 0x58 then some fun c => c.hexValue?.isSome
  else if letter = 0x6F || letter = 0x4F then some fun c => c.octalValue?.isSome
  else if letter = 0x62 || letter = 0x42 then some fun c => c = 0x30 || c = 0x31
  else none

/-- A whole number may have a fraction or an exponent unless a zero begins it
that only a further zero or an underscore follows. -/
def takesFraction : Text → Bool
  | 0x30 :: c :: _ => !(c = 0x30 || c = 0x5F)
  | _ => true

/-- Behind the decimal number at a cursor. -/
def decimalEnd (k : Cursor) : Cursor :=
  let whole := decimals k
  if whole.peek? = some 0x2E && takesFraction k.rest then exponent (decimals whole.next)
  else
    let scaled := if takesFraction k.rest then exponent whole else whole
    if scaled.left = whole.left then largeMark whole else scaled

/-- Behind the number at a cursor. -/
def numberEnd (k : Cursor) : Cursor :=
  match k.rest with
  | 0x30 :: letter :: digit :: _ =>
    match radixDigit? letter with
    | some p => if p digit then largeMark (digits p (k.skip 2)) else decimalEnd k
    | none => decimalEnd k
  | _ => decimalEnd k

/-- The length of the escape that a backslash begins in a string. A carriage
return or a question mark takes the end of line behind it along. -/
def plainEscape : Text → Nat
  | _ :: c :: d :: _ => if (c = 0x0D || c = 0x3F) && endsLine d then 3 else 2
  | _ => 2

/-- Behind the closing quote of a literal, or nothing if the line ends first. -/
def stringEnd? (quote : CodePoint) : Nat → Cursor → Option Cursor
  | 0, _ => none
  | fuel + 1, k =>
    match k.rest with
    | [] => none
    | 0x5C :: _ => stringEnd? quote fuel (k.skip (plainEscape k.rest))
    | c :: _ =>
      if c = quote then some k.next
      else if c = 0x0A || c = 0x0D then none
      else stringEnd? quote fuel k.next

/-- Behind the closing slash of a regular expression that has begun, or
nothing if the line ends first. A slash inside of brackets does not close. -/
def patternEnd? : Nat → Bool → Cursor → Option Cursor
  | 0, _, _ => none
  | fuel + 1, inClass, k =>
    match k.rest with
    | [] => none
    | 0x5C :: c :: _ => if c = 0x0A then none else patternEnd? fuel inClass (k.skip 2)
    | c :: _ =>
      if c = 0x0A then none
      else if c = 0x5B then patternEnd? fuel true k.next
      else if c = 0x5D then patternEnd? fuel false k.next
      else if c = 0x2F && !inClass then some k.next
      else patternEnd? fuel inClass k.next

/-! ## Reading a token -/

/-- What a token is. -/
inductive Lexeme where
  /-- A name or a reserved word. -/
  | word (name : Text)
  /-- A name with a number sign, private to a class. -/
  | privateName
  | number
  | string
  /-- The back quote that begins a template. -/
  | template
  | mark (symbol : String)
  /-- A character that begins no token. -/
  | stray
  /-- The end of the source. -/
  | ended
deriving DecidableEq

/-- A token with its place. -/
structure Token where
  lexeme : Lexeme
  start : Cursor
  stop : Cursor
  /-- A line ended between the token before and this one. -/
  afterLine : Bool

/-- All marks, longer ones before their beginnings. -/
def marks : List String :=
  [">>>=", "...", "===", "!==", "**=", "<<=", ">>=", ">>>", "&&=", "||=", "??=", "=>", "==", "!=",
    "<=", ">=", "&&", "||", "??", "?.", "++", "--", "+=", "-=", "*=", "/=", "%=", "&=", "|=", "^=",
    "<<", ">>", "**", "\x7b", "\x7d", "(", ")", "[", "]", ";", ",", "<", ">", "+", "-", "*", "/",
    "%", "&", "|", "^", "!", "~", "?", ":", "=", ".", "@"]

/-- The marks as texts. -/
def markTexts : List (String × Text) := marks.map fun mark => (mark, Text.ofString mark)

/-- The longest mark at a cursor. A question mark and a point before a digit
are no optional chain. -/
def mark? (k : Cursor) : Option (String × Nat) :=
  match k.rest with
  | 0x3F :: 0x2E :: c :: _ => if c.isDigit then some ("?", 1) else some ("?.", 2)
  | _ => (markTexts.find? fun mark => k.startsWith mark.2).map fun mark => (mark.1, mark.2.length)

/-- The token that begins at a cursor where no white space is left. -/
def lexemeAt (k : Cursor) : Lexeme × Cursor :=
  match k.rest with
  | [] => (.ended, k)
  | c :: rest =>
    if startsName k then
      let stop := nameEnd k
      (.word (k.rest.take (k.left - stop.left)), stop)
    else if c.isDigit || (c = 0x2E && rest.head?.any CodePoint.isDigit) then (.number, numberEnd k)
    else if c = 0x22 || c = 0x27 then
      match stringEnd? c k.left k.next with
      | some stop => (.string, stop)
      | none => (.stray, k.next)
    else if c = 0x60 then (.template, k.next)
    else if c = 0x23 && startsName k.next then (.privateName, nameEnd k.next)
    else
      match mark? k with
      | some (mark, length) => (.mark mark, k.skip length)
      | none => (.stray, k.next)

/-- The next token from a cursor. -/
def Token.read (k : Cursor) : Token :=
  let (start, afterLine) := trivia k
  let (lexeme, stop) := lexemeAt start
  ⟨lexeme, start, stop, afterLine⟩

namespace Token

/-- The token is the given mark. -/
def isMark (t : Token) (symbol : String) : Bool := t.lexeme = .mark symbol

/-- The token is the given word. -/
def isWord (t : Token) (word : String) : Bool := t.lexeme = .word word

/-- The token is a name or a reserved word. -/
def isAnyWord (t : Token) : Bool :=
  match t.lexeme with
  | .word _ => true
  | _ => false

end Token

end NamespaceScan.JavaScript

import NamespaceScan.Toml.Reader

/-!
# Quoted texts and keys

A basic text stands between quotation marks and may hold escapes; a literal
text stands between apostrophes and holds none. Either can be spread over
lines between three marks. Keys are bare words or texts, joined by dots.
-/

namespace NamespaceScan.Toml

/-- A key: its parts from left to right. -/
abbrev Key := List Text

/-- The error for a backslash that begins no escape. -/
def strayEscape : Text := "Unescaped '\\' in a string"

/-- A code point given by hexadecimal digits. -/
def hexCode (count : Nat) : Reader Text := do
  let digits := (← get).take count
  if digits.length ≠ count then fail "Invalid hex value"
  match Text.hexNumber? digits with
  | none => fail "Invalid hex value"
  | some n =>
    skip count
    match CodePoint.ofNat? n with
    | some c =>
      if c.isSurrogate then fail "Escaped character is not a Unicode scalar value" else return [c]
    | none => fail "Escaped character is not a Unicode scalar value"

/-- The code point that a letter stands for after a backslash. -/
def shortEscape? (c : CodePoint) : Option CodePoint :=
  if c = 0x62 then some 0x08
  else if c = 0x74 then some 0x09
  else if c = 0x6E then some 0x0A
  else if c = 0x66 then some 0x0C
  else if c = 0x72 then some 0x0D
  else if c = 0x65 then some 0x1B
  else if c = quotationMark then some quotationMark
  else if c = escapeMark then some escapeMark
  else none

/-- The end of a line after a backslash, with all blanks around it. -/
def foldedLine (first : CodePoint) : Reader Text := do
  if first ≠ newline then
    skipBlanks
    match ← peek with
    | none => return []
    | some c => if c = newline then skip 1 else fail strayEscape
  modify (List.dropWhile isSpread)
  return []

/-- An escape, backslash included. -/
def escape (multiline : Bool) : Reader Text := do
  let second := (← get).tail.head?
  skip 2
  match second with
  | none => fail strayEscape
  | some c =>
    if multiline && isSpread c then foldedLine c
    else if c = 0x75 then hexCode 4
    else if c = 0x55 then hexCode 8
    else if c = 0x78 then hexCode 2
    else
      match shortEscape? c with
      | some escaped => return [escaped]
      | none => fail strayEscape

/-- The rest of a basic text; what was read is given with the latest first. -/
def basicRest (multiline : Bool) : Nat → Text → Reader Text
  | 0, _ => fail "Unterminated string"
  | fuel + 1, done => do
    let t ← get
    match t with
    | [] => fail "Unterminated string"
    | c :: _ =>
      if c = quotationMark then
        if !multiline then
          skip 1
          return done.reverse
        else if t.startsWith "\"\"\"" then
          skip 3
          return done.reverse
        else
          skip 1
          basicRest multiline fuel (c :: done)
      else if c = escapeMark then
        let piece ← escape multiline
        basicRest multiline fuel (piece.reverse ++ done)
      else if isIllegal c && !(multiline && c = newline) then
        fail ("Illegal character " ++ Text.quoted [c])
      else
        skip 1
        basicRest multiline fuel (c :: done)

/-- The rest of a basic text behind its opening mark. -/
def basicBody (multiline : Bool) : Reader Text := do
  basicRest multiline ((← get).length + 1) []

/-- A literal text in one line. -/
def literal : Reader Text := do
  skip 1
  let body ← takeUntil [apostrophe] isIllegal true
  skip 1
  return body

/-- Up to two more marks belong to a text that ends in three. -/
def extraMarks (mark : CodePoint) (body : Text) : Reader Text := do
  let count := min 2 ((← get).takeWhile (· = mark)).length
  skip count
  return body ++ Text.repeated count mark

/-- A text between three marks. A line end right behind the opening is not part
of it. -/
def multilineText (mark : CodePoint) : Reader Text := do
  skip 3
  if (← peek) = some newline then skip 1
  if mark = apostrophe then
    let body ← takeUntil "'''" (fun c => isIllegal c && c ≠ newline) true
    skip 3
    extraMarks mark body
  else
    let body ← basicBody true
    extraMarks mark body

/-- Code points of bare keys. -/
def isBare (c : CodePoint) : Bool :=
  c.isLatinLetter || c.isDigit || c = 0x2D || c = 0x5F

/-- One part of a key. -/
def keyPart : Reader Text := do
  match ← peek with
  | none => fail "Invalid initial character for a key part"
  | some c =>
    if isBare c then
      let word := (← get).takeWhile isBare
      skip word.length
      return word
    else if c = apostrophe then literal
    else if c = quotationMark then
      skip 1
      basicBody false
    else fail "Invalid initial character for a key part"

/-- The parts that a key may have. -/
def keyPartLimit : Nat := 1000

/-- The parts of a key behind its first one. -/
def keyRest : Nat → Key → Reader Key
  | 0, done => return done
  | fuel + 1, done => do
    skipBlanks
    if (← peek) = some 0x2E then
      skip 1
      skipBlanks
      let part ← keyPart
      if keyPartLimit ≤ done.length then throw (.beyond (.longKey keyPartLimit))
      keyRest fuel (done ++ [part])
    else return done

/-- A key with the blanks behind it. -/
def key : Reader Key := do
  let first ← keyPart
  keyRest ((← get).length + 1) [first]

end NamespaceScan.Toml

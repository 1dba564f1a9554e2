import NamespaceScan.JavaScript.Token

/-!
# Missing semicolons

A statement may end without a semicolon before a closing brace, at the end of
the source, and where a line ends, unless the next line goes on with the
statement. The rule looks at characters and not at tokens. Behind a place where
no operator can follow, a comment with an end of line counts as one.
-/

namespace NamespaceScan.JavaScript

/-- Where white space and comments end. -/
inductive Gap where
  /-- At a slash that begins no comment. -/
  | slash
  /-- Behind a comment on one line. -/
  | sameLine (k : Cursor)
  /-- Behind a comment with an end of line, or before anything else. -/
  | clear (k : Cursor)

/-- The end of the white space and the comments at a cursor. Unless they are
wanted as a whole, the first comment with an end mark is the last one looked
at; a slash right behind it is part of it. -/
def Gap.read (whole : Bool) : Nat → Bool → Cursor → Gap
  | 0, _, k => .clear k
  | fuel + 1, line, k =>
    match k.rest with
    | 0x2F :: 0x2F :: _ => Gap.read whole fuel line (k.skipWhile fun c => !endsLine c)
    | 0x2F :: 0x2A :: _ =>
      let (stop, line) := skipBlock k.left (k.skip 2) line
      if whole || stop.atEnd || stop.peek? = some 0x2F then Gap.read whole fuel line stop
      else if line then .clear stop
      else .sameLine stop
    | 0x2F :: _ => .slash
    | c :: _ => if isBreakable c then Gap.read whole fuel line k.next else .clear k
    | [] => .clear k

/-- The word `in` or `instanceof` begins here, as far as letters tell. -/
def startsComparison (t : Text) : Bool :=
  let letter (c : CodePoint) := c.isLatinLetter || (0x80 ≤ c.val && isNamePart c)
  let ended (rest : Text) := !rest.head?.any letter
  ((Text.ofString "in").isPrefixOf t && ended (t.drop 2)) ||
    ((Text.ofString "instanceof").isPrefixOf t && ended (t.drop 10))

/-- The text at the beginning of a line goes on with the statement before. -/
def continuesStatement (t : Text) : Bool :=
  match t with
  | 0x2E :: rest => !rest.head?.any CodePoint.isDigit
  | 0x2B :: rest => rest.head? ≠ some 0x2B
  | 0x2D :: rest => rest.head? ≠ some 0x2D
  | 0x21 :: rest => rest.head? = some 0x3D
  | c :: _ => (Text.ofString "`,:;*%><=[(?^|&/").elem c || startsComparison t
  | [] => false

/-- A line ends at a cursor and the next one begins a new statement. -/
def newStatement (k : Cursor) : Bool :=
  match Gap.read true (k.left + 1) false k with
  | .slash => false
  | .sameLine k | .clear k => !continuesStatement k.rest

/-- A semicolon is missing before the comments and the white space at a cursor,
as far as this place alone tells. -/
def semicolonBefore (bare : Bool) : Nat → Cursor → Bool
  | 0, _ => false
  | fuel + 1, k =>
    match k.rest with
    | [] => true
    | 0x2F :: _ =>
      match Gap.read false (k.left + 1) false k with
      | .slash => false
      | .sameLine stop => onward fuel stop
      | .clear stop =>
        (bare && !(stop.peek? = some 0x2C || stop.peek? = some 0x3D)) || onward fuel stop
    | _ => onward fuel k
where
  onward (fuel : Nat) (k : Cursor) : Bool :=
    match k.rest with
    | [] => false
    | c :: _ =>
      if c = 0x7D then true
      else if endsLine c then newStatement k.next
      else isBreakable c && semicolonBefore bare fuel k.next

/-- A semicolon is missing at a cursor, looking behind at most `fuel` comments. -/
def semicolonAmong (bare : Bool) : Nat → Cursor → Bool
  | 0, _ => false
  | fuel + 1, k =>
    semicolonBefore bare (k.left + 1) k ||
      let start := k.skipWhile isSpace
      match start.rest with
      | 0x2F :: 0x2F :: _ => semicolonAmong bare fuel (start.skipWhile fun c => !endsComment c)
      | 0x2F :: 0x2A :: _ => semicolonAmong bare fuel (skipBlock start.left (start.skip 2) false).1
      | _ => false

/-- A semicolon is missing at a cursor: before, between or behind the comments
there. `bare` says that no operator could follow the token before. -/
def Cursor.lacksSemicolon (bare : Bool) (k : Cursor) : Bool := semicolonAmong bare (k.left + 1) k

end NamespaceScan.JavaScript

import NamespaceScan.JavaScript.Goal

/-!
# Markup elements

Elements between angle brackets are read by characters; expressions in braces
go back to tokens.
-/

namespace NamespaceScan.JavaScript

open NamespaceScan.JavaScript.Parser

/-- Behind the white space and the comments of every kind at a cursor. -/
def skipSpaceUpTo : Nat → Cursor → Cursor
  | 0, k => k
  | fuel + 1, k =>
    let start := (trivia k).1
    match markupComment? start with
    | some stop => skipSpaceUpTo fuel stop
    | none => start

/-- Behind the white space and the comments at a cursor. -/
def skipSpace (k : Cursor) : Cursor := skipSpaceUpTo (k.left + 1) k

/-- May begin a name with hyphens. -/
def beginsHyphenated (c : CodePoint) : Bool := c.isLatinLetter || c = 0x5F || c = 0x24

/-- May stand in a name with hyphens. -/
def isHyphenated (c : CodePoint) : Bool := beginsHyphenated c || c.isDigit || c = 0x2D

/-- Where a simple markup name begins and ends. It may hold hyphens if all of
it is plain. -/
def markupName? (k : Cursor) : Option (Cursor × Cursor) :=
  let hyphenated := k.skipWhile isHyphenated
  if k.peek?.any beginsHyphenated && (k.rest.take (k.left - hyphenated.left)).elem 0x2D then
    some (k, hyphenated)
  else if startsName k then some (k, nameEnd k)
  else none

/-- The further segments of a dotted markup name. -/
def dottedName : Nat → Concrete → Cursor → Concrete × Cursor
  | 0, target, k => (target, k)
  | fuel + 1, target, k =>
    let point := skipSpace k
    match point.rest with
    | 0x2E :: _ =>
      match markupName? (skipSpace point.next) with
      | none => (target, k)
      | some (start, stop) =>
        let access : Concrete :=
          { type := "member_expression", start := target.start, stop := stop.offset,
            row := target.row
            children :=
              [inField "object" target,
                inField "property" (span "property_identifier" start stop [])] }
        dottedName fuel access stop
    | _ => (target, k)

/-- The name of an element: simple, dotted, or with a colon. -/
def elementName? (k : Cursor) : Option (Concrete × Cursor) := do
  let (start, stop) ← markupName? k
  let name := span "identifier" start stop []
  let colon := skipSpace stop
  match colon.rest with
  | 0x3A :: _ =>
    let (start', stop') ← markupName? (skipSpace colon.next)
    return (span "jsx_namespace_name" start stop' [name, span "identifier" start' stop' []], stop')
  | _ => return dottedName stop.left name stop

/-- An expression in braces, which may be empty or a spread; the cursor is at
the opening brace. -/
def markupExpression (rules : Rules) (start : Cursor) : Parser (Concrete × Cursor) := do
  resume (skipSpace start.next)
  let first ← peek
  let inner ← do
    if first.isMark "\x7d" then pure []
    else if first.isMark "..." then
      let _ ← advance
      let operand ← rules.item
      pure [← finish "spread_element" first.start [operand]]
    else pure [← rules.enclosed]
  let close ← peek
  if close.isMark "\x7d" then return (span "jsx_expression" start close.stop inner, close.stop)
  else failure

/-- Behind the quote that closes an attribute value. An ampersand that begins no
character reference takes the next character along. -/
def markupStringEnd? (quote : CodePoint) : Nat → Cursor → Option Cursor
  | 0, _ => none
  | fuel + 1, k =>
    match k.rest with
    | [] => none
    | 0x26 :: c :: _ =>
      markupStringEnd? quote fuel (k.skip (if c = 0x23 || c.isLatinLetter then 1 else 2))
    | c :: _ => if c = quote then some k.next else markupStringEnd? quote fuel k.next

/-- A quoted attribute value without escapes. -/
def markupString? (k : Cursor) : Option (Concrete × Cursor) :=
  match k.rest with
  | quote :: _ =>
    if quote = 0x22 || quote = 0x27 then
      (markupStringEnd? quote k.left k.next).map fun stop => (span "string" k stop [], stop)
    else none
  | [] => none

/-- An element inside of another one; the cursor is at its opening bracket. -/
def innerElement (rules : Rules) (k : Cursor) : Parser (Concrete × Cursor) := do
  resume k
  let inner ← rules .element
  return (inner, (← get).last)

/-- The value of an attribute. -/
def attributeValue (rules : Rules) (k : Cursor) : Parser (Concrete × Cursor) :=
  match markupString? k, k.rest with
  | some found, _ => pure found
  | none, 0x7B :: _ => markupExpression rules k
  | none, 0x3C :: _ => innerElement rules k
  | none, _ => failure

/-- One more attribute, if there is one. -/
def tagAttribute (rules : Rules) : List Concrete × Cursor → Parser (Option (List Concrete × Cursor))
  | (found, k) => do
    let k := skipSpace k
    match k.rest with
    | 0x7B :: _ =>
      let (part, stop) ← markupExpression rules k
      return some (part :: found, stop)
    | _ =>
      match markupName? k with
      | none => return none
      | some (start, stop) =>
        let simple := span "property_identifier" start stop []
        let colon := skipSpace stop
        let (name, stop) :=
          match colon.rest with
          | 0x3A :: _ =>
            match markupName? (skipSpace colon.next) with
            | some (start', stop') =>
              (span "jsx_namespace_name" start stop'
                [span "identifier" start stop [], span "identifier" start' stop' []], stop')
            | none => (simple, stop)
          | _ => (simple, stop)
        let equals := skipSpace stop
        match equals.rest with
        | 0x3D :: _ =>
          let (value, stop) ← attributeValue rules (skipSpace equals.next)
          return some (span "jsx_attribute" start stop [name, value] :: found, stop)
        | _ => return some (span "jsx_attribute" start stop [name] :: found, stop)

/-- May stand in the text between elements. -/
def isMarkupText (c : CodePoint) : Bool :=
  !(c = 0x3C || c = 0x3E || c = 0x7B || c = 0x7D || c = 0x26)

/-- White space that a line feed begins is layout, all else is text. -/
def isLayout : Bool → Text → Bool
  | _, [] => true
  | afterLine, c :: rest =>
    if c = 0x0A then isLayout true rest
    else if afterLine && isBreakable c then isLayout true rest
    else false

/-- The length of a character reference such as `&amp;`. -/
def reference? (k : Cursor) : Option Cursor :=
  match k.rest with
  | 0x26 :: _ =>
    let stop := k.next.skipWhile fun c => c.isDigit || c.isLatinLetter || c = 0x23
    if stop.peek? = some 0x3B then some stop.next else none
  | _ => none

/-- One more child of an element, unless its closing tag begins here. -/
def markupChild (rules : Rules) : List Concrete × Cursor → Parser (Option (List Concrete × Cursor))
  | (found, k) => do
    let run := k.rest.takeWhile isMarkupText
    let stop := k.skip run.length
    if !isLayout false run then return some (span "jsx_text" k stop [] :: found, stop)
    if let some stop := markupComment? stop then return some (found, stop)
    let k := stop
    match k.rest with
    | 0x3C :: _ =>
      if (skipSpace k.next).peek? = some 0x2F then return none
      let (part, stop) ← innerElement rules k
      return some (part :: found, stop)
    | 0x7B :: _ =>
      let (part, stop) ← markupExpression rules k
      return some (part :: found, stop)
    | _ =>
      match reference? k with
      | some stop => return some (span "html_character_reference" k stop [] :: found, stop)
      | none => failure

/-- The closing tag of an element. -/
def closingTag (k : Cursor) : Option (Concrete × Cursor) := do
  let slash := skipSpace k.next
  guard (slash.peek? = some 0x2F)
  let inner := skipSpace slash.next
  let (name, stop) :=
    match elementName? inner with
    | some (name, stop) => ([name], skipSpace stop)
    | none => ([], inner)
  guard (stop.peek? = some 0x3E)
  return (span "jsx_closing_element" k stop.next name, stop.next)

/-- A markup element; the current token is its opening bracket. -/
def element (rules : Rules) : Parser Concrete := do
  let start := (← peek).start
  let inner := skipSpace start.next
  let (name, k) :=
    match elementName? inner with
    | some (name, stop) => ([name], stop)
    | none => ([], inner)
  let (attributes, k) ← iterate (tagAttribute rules) ([], k)
  let k := skipSpace k
  match k.rest with
  | 0x2F :: 0x3E :: _ =>
    let stop := k.skip 2
    resume stop
    return span "jsx_self_closing_element" start stop (name ++ attributes.reverse)
  | 0x3E :: _ =>
    let opening := span "jsx_opening_element" start k.next (name ++ attributes.reverse)
    let (children, k) ← iterate (markupChild rules) ([], k.next)
    match closingTag (k.skipWhile isSpace) with
    | none => failure
    | some (closing, stop) =>
      resume stop
      return span "jsx_element" start stop (opening :: children.reverse ++ [closing])
  | _ => failure

end NamespaceScan.JavaScript

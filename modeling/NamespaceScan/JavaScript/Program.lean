import NamespaceScan.JavaScript.Statement

/-!
# Programs

A program is a list of statements. What is no statement is skipped token by
token, and tokens skipped one after the other make one error.
-/

namespace NamespaceScan.JavaScript

open NamespaceScan.JavaScript.Parser

/-- What each rule does with the parsers for its parts. -/
def grammar (rules : Rules) : Rules
  | .statement => statement rules
  | .block => block rules
  | .arrowBody scope => arrowBody rules scope
  | .expressions scope => expressions rules scope
  | .assignment scope => assignment rules scope
  | .operation least scope => operation rules least scope
  | .unary scope => unary rules scope
  | .constructed scope => constructed rules scope
  | .element => element rules

/-- The type of an error. -/
def errorType : String := "ERROR"

/-- A skipped token joins the error before it. -/
def addError (token : Token) : List Concrete → List Concrete
  | [] => [{ span errorType token.start token.stop [] with hasError := true }]
  | last :: before =>
    if last.type = errorType then { last with stop := token.stop.offset } :: before
    else { span errorType token.start token.stop [] with hasError := true } :: last :: before

/-- The top-level items from a state on, the latest first. -/
def items (rules : Rules) : Nat → State → List Concrete → List Concrete
  | 0, _, found => found
  | fuel + 1, state, found =>
    match skipMarkupComments.run state with
    | none => found
    | some (_, state) =>
      if state.token.lexeme = .ended then found
      else
        match (rules .statement).run state with
        | some (node, after) => items rules fuel after (node :: found)
        | none =>
          items rules fuel (stateAt state.token.stop) (addError state.token found)

/-- The line with the interpreter that may begin a program, behind comments. -/
def interpreterLine? (k : Cursor) : Option (Concrete × Cursor) :=
  let start := skipSpace k
  if start.startsWith "#!" then
    let stop := start.skipWhile fun c => c ≠ 0x0A
    some (span "hash_bang_line" start stop [], stop)
  else none

/-- The concrete tree of a source text. A program begins at its first token,
comments included. -/
def parseText (source : Text) : Concrete :=
  let beginning := Cursor.ofText source
  let start := beginning.skipWhile isSpace
  let (first, k) :=
    match interpreterLine? beginning with
    | some (line, stop) => ([line], stop)
    | none => ([], beginning)
  let rules := Goal.run grammar (8 * source.length + 16)
  let found := items rules (source.length + 1) (stateAt k) first
  let stop := beginning.skip source.length
  { type := "program", start := start.offset, stop := stop.offset, row := start.row
    hasError := found.any (·.hasError), children := found.reverse }

/-- The concrete tree of a source. -/
def parse (data : ByteArray) : Concrete := parseText (Utf8.decodeLossy data)

end NamespaceScan.JavaScript

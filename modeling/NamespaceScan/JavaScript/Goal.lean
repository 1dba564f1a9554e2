import NamespaceScan.JavaScript.Parser

/-!
# Goals of the grammar

The grammar is written without recursion: each rule is given a parser for
every goal and uses it wherever the language nests. `Goal.run` ties the knot
with a bound on the depth.
-/

namespace NamespaceScan.JavaScript

/-- What surrounds an expression. -/
structure Scope where
  /-- The word `in` is an operator. -/
  allowIn : Bool
  /-- A statement may end behind the expression without a semicolon. -/
  mayEnd : Bool
deriving DecidableEq

/-- An expression in brackets. -/
def Scope.enclosed : Scope := ⟨true, false⟩

/-- An expression at the end of a statement. -/
def Scope.trailing : Scope := ⟨true, true⟩

/-- What a nested part of a source has to be. -/
inductive Goal where
  | statement
  /-- Statements in braces. -/
  | block
  /-- The body of an arrow function. -/
  | arrowBody (scope : Scope)
  /-- An expression that may hold commas. -/
  | expressions (scope : Scope)
  /-- An expression without commas. -/
  | assignment (scope : Scope)
  /-- An expression with operators of at least the given strength. -/
  | operation (strength : Nat) (scope : Scope)
  /-- An operand with the operators before it. -/
  | unary (scope : Scope)
  /-- What follows `new`. -/
  | constructed (scope : Scope)
  /-- A markup element. -/
  | element
deriving DecidableEq

/-- A parser for every goal. -/
abbrev Rules := Goal → Parser Concrete

/-- An expression in brackets that may hold commas. -/
def Rules.enclosed (rules : Rules) : Parser Concrete := rules (.expressions .enclosed)

/-- An expression in brackets without commas. -/
def Rules.item (rules : Rules) : Parser Concrete := rules (.assignment .enclosed)

/-- The parsers that nest at most `depth` deep, given what each rule does with
the parsers for its parts. -/
def Goal.run (grammar : Rules → Rules) : Nat → Rules
  | 0, _ => failure
  | depth + 1, goal => grammar (Goal.run grammar depth) goal

namespace Parser

/-- What follows an expression: the current token, or the end of the source
where a statement ends without a semicolon. -/
def following (scope : Scope) : Parser Lexeme := do
  let state ← get
  if scope.mayEnd && state.token.start.left ≠ state.last.left then
    if ← lacksSemicolon false then return .ended
  return state.token.lexeme

/-- The given mark follows an expression. -/
def followedBy (scope : Scope) (symbol : String) : Parser Bool := do
  return (← following scope) = .mark symbol

end Parser

end NamespaceScan.JavaScript

import NamespaceScan.JavaScript.Semicolon
import NamespaceScan.Tree.Concrete

/-!
# Parsers

A parser works on the current token and fails without a message: which error a
source has is decided by the statement list alone. Repetition is bounded by
what is left of the source, because each round consumes at least one character.
-/

namespace NamespaceScan.JavaScript

/-- The current token and the end of the one before. -/
structure State where
  token : Token
  last : Cursor

/-- A parser that may fail. -/
abbrev Parser := StateT State Option

namespace Parser

/-- The state at a cursor. -/
def stateAt (k : Cursor) : State := ⟨Token.read k, k⟩

/-- The current token. -/
def peek : Parser Token := do return (← get).token

/-- The token behind the current one. -/
def peekNext : Parser Token := do return Token.read (← get).token.stop

/-- Take the current token. -/
def advance : Parser Token := do
  let token := (← get).token
  set (⟨Token.read token.stop, token.stop⟩ : State)
  return token

/-- Go on reading tokens from a cursor. -/
def resume (k : Cursor) : Parser Unit := set (stateAt k)

/-- The current token is the given mark. -/
def atMark (symbol : String) : Parser Bool := do return (← peek).isMark symbol

/-- The current token is the given word. -/
def atWord (word : String) : Parser Bool := do return (← peek).isWord word

/-- Repeat a step until it has nothing to add, at most `fuel` times. -/
def repeatUpTo {α : Type} (step : α → Parser (Option α)) : Nat → α → Parser α
  | 0, a => pure a
  | fuel + 1, a => do
    match ← step a with
    | some b => repeatUpTo step fuel b
    | none => pure a

/-- Repeat a step until it has nothing to add. -/
def iterate {α : Type} (step : α → Parser (Option α)) (a : α) : Parser α := do
  repeatUpTo step ((← get).token.start.left + 1) a

/-- Collect what a step finds until it finds nothing. -/
def collect (step : Parser (Option Concrete)) : Parser (List Concrete) := do
  let found ← iterate (fun items => do return (← step).map (· :: items)) []
  return found.reverse

/-- Behind the comments that begin like the ends of a markup comment. They
reach to the end of their line and may stand where no operator can. -/
def skipMarkupComments : Parser Unit := do
  let _ ← iterate (fun (_ : Unit) => do
    match markupComment? (← peek).start with
    | some stop =>
      resume stop
      return some ()
    | none => return none) ()

/-- Take the given mark. -/
def expect (symbol : String) : Parser Token := do
  skipMarkupComments
  if ← atMark symbol then advance else failure

/-- Take the given word. -/
def expectWord (word : String) : Parser Token := do
  skipMarkupComments
  if ← atWord word then advance else failure

/-- Take the given mark if it is there. -/
def accept (symbol : String) : Parser Bool := do
  if ← atMark symbol then
    let _ ← advance
    return true
  else return false

/-- Take the given word if it is there. -/
def acceptWord (word : String) : Parser Bool := do
  if ← atWord word then
    let _ ← advance
    return true
  else return false

/-- A node between two positions. -/
def span (type : String) (start stop : Cursor) (children : List Concrete) : Concrete :=
  { type, start := start.offset, stop := stop.offset, row := start.row, children }

/-- A node that ends where the last token ended. -/
def finish (type : String) (start : Cursor) (children : List Concrete) : Parser Concrete := do
  return span type start (← get).last children

/-- A node that begins with an earlier one and ends with the last token. -/
def extend (type : String) (first : Concrete) (children : List Concrete) : Parser Concrete := do
  return { type, start := first.start, stop := (← get).last.offset, row := first.row, children }

/-- A node in a field. -/
def inField (field : String) (n : Concrete) : Concrete := { n with field := some field }

/-- The node of a token. -/
def leafOf (type : String) (token : Token) : Concrete := span type token.start token.stop []

/-- Take the current token as a node. -/
def leaf (type : String) : Parser Concrete := do return leafOf type (← advance)

/-- A semicolon is missing before the current token. -/
def lacksSemicolon (bare : Bool) : Parser Bool := do
  return (← get).last.lacksSemicolon bare

/-- Take the end of a statement: a semicolon, or a place where it may be
missing. -/
def endStatement (bare : Bool) : Parser Unit := do
  if ← lacksSemicolon bare then return
  let _ ← expect ";"

end Parser

end NamespaceScan.JavaScript

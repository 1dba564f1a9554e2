import NamespaceScan.JavaScript.Function
import NamespaceScan.JavaScript.Markup

/-!
# Expressions

Operands, the calls and accesses behind them, the operators before and between
them, and assignments. An assignment may stand wherever an operand may: its
value reaches as far as it can.
-/

namespace NamespaceScan.JavaScript

open NamespaceScan.JavaScript.Parser

/-! ## Operands -/

/-- The words that never name a value. -/
def reservedWords : List String :=
  ["break", "case", "catch", "const", "continue", "debugger", "default", "delete", "do", "else",
    "extends", "finally", "for", "if", "in", "instanceof", "return", "switch", "throw", "try",
    "typeof", "var", "void", "while", "with"]

/-- An expression in parentheses, or the parameters of an arrow function. -/
def parenthesized (rules : Rules) (scope : Scope) : Parser Concrete := do
  let start := (← peek).start
  let items ← listBetween rules "(" ")"
  let list ← finish "formal_parameters" start items
  if ← followedBy scope "=>" then return ← arrowRest rules scope start list
  match items with
  | [] => failure
  | [item] => return { list with type := "parenthesized_expression", children := [item] }
  | first :: _ =>
    let last := items.getLast?.getD first
    let sequence : Concrete :=
      { type := "sequence_expression", start := first.start, stop := last.stop, row := first.row,
        children := items }
    return { list with type := "parenthesized_expression", children := [sequence] }

/-- A call whose callee and arguments are read, or the arrow function that they
turn out to begin. -/
def asynchronousCall (rules : Rules) (scope : Scope) (name list : Concrete) (start : Cursor) :
    Parser Concrete := do
  if ← followedBy scope "=>" then
    arrowRest rules scope start { list with type := "formal_parameters", field := none }
  else extend "call_expression" name [inField "function" name, list]

/-- What the word `async` begins: a function, an arrow function, a call where
calls may stand, or just a name. -/
def asynchronous (rules : Rules) (scope : Scope) (mayCall : Bool) : Parser Concrete := do
  let word ← advance
  let name := leafOf "identifier" word
  match ← following scope with
  | .word _ =>
    if ← atWord "function" then functionFrom rules word.start
    else if (← peekNext).isMark "=>" then
      let parameter ← leaf "identifier"
      arrowRest rules scope word.start parameter
    else return name
  | .mark "(" =>
    if !mayCall then return name
    let list ← arguments rules
    asynchronousCall rules scope name list word.start
  | .mark "=>" => arrowRest rules scope word.start name
  | _ => return name

/-- `new` with what it constructs and the arguments, or the target of a
construction. -/
def construction (rules : Rules) (scope : Scope) : Parser Concrete := do
  let word ← advance
  skipMarkupComments
  if ← accept "." then
    let _ ← expectWord "target"
    return ← finish "meta_property" word.start []
  let callee ← rules (.constructed scope)
  let list ← if ← followedBy scope "(" then do pure [← arguments rules] else pure []
  finish "new_expression" word.start (inField "constructor" callee :: list)

/-- The word `import` where it is an operand: it is called, or it has
properties, among them the description of the module. -/
def importOperand : Parser Concrete := do
  let word ← advance
  if (← atMark "(") || (← atMark "?.") then return leafOf "import" word
  if !(← atMark ".") then failure
  if !(← peekNext).isWord "meta" then return leafOf "import" word
  let _ ← advance
  let _ ← advance
  finish "meta_property" word.start []

/-- A name, or the arrow function that has it as its parameter. -/
def nameOperand (rules : Rules) (scope : Scope) : Parser Concrete := do
  let token ← advance
  if ← followedBy scope "=>" then
    arrowRest rules scope token.start (leafOf "identifier" token)
  else return leafOf (if token.isWord "undefined" then "undefined" else "identifier") token

/-- The operand that a word begins. -/
def wordOperand (rules : Rules) (scope : Scope) (token : Token) : Parser Concrete := do
  let plain := ["this", "super", "null", "true", "false"]
  match plain.find? token.isWord with
  | some word => leaf word
  | none =>
    if token.isWord "function" then function rules
    else if token.isWord "async" then asynchronous rules scope true
    else if token.isWord "class" then classDefinition rules
    else if token.isWord "new" then construction rules scope
    else if token.isWord "import" then importOperand
    else if reservedWords.any token.isWord then failure
    else nameOperand rules scope

/-- An operand. -/
def operand (rules : Rules) (scope : Scope) : Parser Concrete := do
  skipMarkupComments
  let token ← peek
  match token.lexeme with
  | .word _ => wordOperand rules scope token
  | .privateName => leaf "private_property_identifier"
  | .number => leaf "number"
  | .string => leaf "string"
  | .template => template rules
  | .mark "(" => parenthesized rules scope
  | .mark "[" => array rules
  | .mark "\x7b" => object rules
  | .mark "/" | .mark "/=" => regex
  | .mark "<" => rules .element
  | .mark "@" => classDefinition rules
  | _ => failure

/-! ## Calls and accesses -/

/-- The property behind a point. -/
def property : Parser Concrete := do
  skipMarkupComments
  match (← peek).lexeme with
  | .word _ => return inField "property" (← leaf "property_identifier")
  | .privateName => return inField "property" (← leaf "private_property_identifier")
  | _ => failure

/-- The index of an access with brackets. -/
def index (rules : Rules) : Parser Concrete := do
  let _ ← expect "["
  let inner ← rules.enclosed
  let _ ← expect "]"
  return inField "index" inner

/-- What may follow `?.`: a call, an index or a property. -/
def optionalRest (rules : Rules) (callee : Concrete) : Parser Concrete := do
  let mark ← leaf "optional_chain"
  match (← peek).lexeme with
  | .mark "(" =>
    let list ← arguments rules
    extend "call_expression" callee [inField "function" callee, mark, list]
  | .mark "[" =>
    let inner ← index rules
    extend "subscript_expression" callee [inField "object" callee, mark, inner]
  | _ =>
    let name ← property
    extend "member_expression" callee [inField "object" callee, mark, name]

/-- A call with a template, an access, or anything behind `?.`. -/
def applied (rules : Rules) (scope : Scope) (callee : Concrete) : Parser (Option Concrete) := do
  match ← following scope with
  | .mark "." =>
    let _ ← advance
    let name ← property
    return some (← extend "member_expression" callee [inField "object" callee, name])
  | .mark "?." => return some (← optionalRest rules callee)
  | .mark "[" =>
    let inner ← index rules
    return some (← extend "subscript_expression" callee [inField "object" callee, inner])
  | .template =>
    let part ← template rules
    return some
      (← extend "call_expression" callee [inField "function" callee, inField "arguments" part])
  | _ => return none

/-- What `new` constructs: an operand with accesses but without calls. The word
`import` is no operand without its call or a property. -/
def constructed (rules : Rules) (scope : Scope) : Parser Concrete := do
  skipMarkupComments
  let first ← if ← atWord "async" then asynchronous rules scope false else operand rules scope
  let callee ← if first.type = "import" && (← atMark "(") then do
      let list ← arguments rules
      extend "call_expression" first [inField "function" first, list]
    else pure first
  iterate (applied rules scope) callee

/-- The marks that count up or down. -/
def counters : List String := ["++", "--"]

/-- One more call, access or counter behind an expression. -/
def link (rules : Rules) (scope : Scope) (callee : Concrete) : Parser (Option Concrete) := do
  match ← following scope with
  | .mark "(" =>
    let list ← arguments rules
    return some (← extend "call_expression" callee [inField "function" callee, list])
  | .mark "++" | .mark "--" =>
    let _ ← advance
    return some (← extend "update_expression" callee [callee])
  | _ => applied rules scope callee

/-! ## Operators before an operand -/

/-- The operators before an operand. -/
def signs : List String := ["!", "~", "+", "-"]

/-- The words before an operand. -/
def signWords : List String := ["typeof", "void", "delete"]

/-- An expression can begin with the token. -/
def beginsOperand : Lexeme → Bool
  | .word name => !(["in", "instanceof", "else", "case", "default"].any fun word => name = word)
  | .mark symbol =>
    signs.contains symbol || counters.contains symbol ||
      ["(", "[", "\x7b", "/", "/=", "<", "@"].contains symbol
  | .stray | .ended => false
  | _ => true

/-- `yield` with its operand, if it has one. -/
def yielding (rules : Rules) (scope : Scope) : Parser Concrete := do
  let word ← advance
  match ← following scope with
  | .mark "*" =>
    let _ ← advance
    let inner ← rules (.assignment scope)
    finish "yield_expression" word.start [inner]
  | next =>
    if beginsOperand next then
      let inner ← rules (.assignment scope)
      finish "yield_expression" word.start [inner]
    else return leafOf "yield_expression" word

/-- The marks that assign. -/
def assigners : List String :=
  ["+=", "-=", "*=", "/=", "%=", "^=", "&=", "|=", ">>=", ">>>=", "<<=", "**=", "&&=", "||=", "??="]

/-- An operand with all that may stand behind it: calls, accesses, counters,
and the value that it is assigned. -/
def operandRest (rules : Rules) (scope : Scope) (first : Concrete) : Parser Concrete := do
  let target ← iterate (link rules scope) first
  match ← following scope with
  | .mark "=" =>
    let _ ← advance
    let value ← rules (.assignment scope)
    extend "assignment_expression" target [target, value]
  | .mark symbol =>
    if assigners.contains symbol then
      let _ ← advance
      let value ← rules (.assignment scope)
      extend "augmented_assignment_expression" target [target, value]
    else return target
  | _ => return target

/-- An operand behind the word `await`, which is an operator then. -/
def awaited (rules : Rules) (scope : Scope) : Parser Concrete := do
  let word ← advance
  match ← following scope with
  | .ended => failure
  | _ =>
    let inner ← rules (.unary scope)
    finish "await_expression" word.start [inner]

/-- The word `await` as a name, with all that stands behind it. -/
def awaitNamed (rules : Rules) (scope : Scope) : Parser Concrete := do
  operandRest rules scope (← nameOperand rules scope)

/-- A call or an access that is the last thing in the source. -/
def lastAccess (rules : Rules) (scope : Scope) : Parser Concrete := do
  let found ← awaitNamed rules scope
  if (← peek).lexeme = .ended &&
      ["call_expression", "member_expression", "subscript_expression"].contains found.type then
    return found
  else failure

/-- The word `await` is an operator where an operand can be read behind it,
and else a name. At the end of the source a name with a call or an access
behind it comes first. -/
def awaiting (rules : Rules) (scope : Scope) : Parser Concrete := do
  let before ← get
  let found ← (some <$> awaited rules scope) <|> pure none
  match found with
  | none =>
    set before
    awaitNamed rules scope
  | some node =>
    if (← peek).lexeme = .ended then
      let after ← get
      set before
      lastAccess rules scope <|> (do
        set after
        return node)
    else return node

/-- An operand with the operators before it and all that stands behind it. -/
def unary (rules : Rules) (scope : Scope) : Parser Concrete := do
  skipMarkupComments
  let token ← peek
  if signs.any token.isMark || signWords.any token.isWord then
    let _ ← advance
    let inner ← rules (.unary scope)
    finish "unary_expression" token.start [inner]
  else if counters.any token.isMark then
    let _ ← advance
    let inner ← rules (.unary scope)
    finish "update_expression" token.start [inner]
  else if token.isWord "yield" then
    operandRest rules scope (← yielding rules scope)
  else if token.isWord "await" then awaiting rules scope
  else operandRest rules scope (← operand rules scope)

/-! ## Operators between operands -/

/-- The operators between operands, from the weakest to the strongest. -/
def operatorLevels : List (List String) :=
  [["??"], ["||"], ["&&"], ["|"], ["^"], ["&"], ["==", "!=", "===", "!=="],
    ["<", ">", "<=", ">="], ["<<", ">>", ">>>"], ["+", "-"], ["*", "/", "%"], ["**"]]

/-- The strength of the words that compare. -/
def comparisonStrength : Nat := 7

/-- The strength of the operator that groups to the right. -/
def powerStrength : Nat := 11

/-- The strength of the operator that a token is. -/
def strength? (allowIn : Bool) : Lexeme → Option Nat
  | .mark symbol => operatorLevels.findIdx? fun level => level.contains symbol
  | .word name =>
    if (name = "in" && allowIn) || name = "instanceof" then some comparisonStrength else none
  | _ => none

/-- One more operator of at least the given strength with its right operand. -/
def operatorStep (rules : Rules) (least : Nat) (scope : Scope) (left : Concrete) :
    Parser (Option Concrete) := do
  match strength? scope.allowIn (← following scope) with
  | none => return none
  | some strength =>
    if strength < least then return none
    let _ ← advance
    let right ← rules
      (.operation (if strength = powerStrength then strength else strength + 1) scope)
    return some (← extend "binary_expression" left [left, right])

/-- Operators of at least the given strength behind an operand. -/
def operationRest (rules : Rules) (least : Nat) (scope : Scope) (first : Concrete) :
    Parser Concrete :=
  iterate (operatorStep rules least scope) first

/-- Operands with operators between them. -/
def operation (rules : Rules) (least : Nat) (scope : Scope) : Parser Concrete := do
  operationRest rules least scope (← unary rules scope)

/-- A choice between two values, if one stands behind a condition. -/
def choiceRest (rules : Rules) (scope : Scope) (test : Concrete) : Parser Concrete := do
  if ← followedBy scope "?" then
    let _ ← advance
    let yes ← rules.item
    let _ ← expect ":"
    let no ← rules (.assignment scope)
    extend "ternary_expression" test [test, yes, no]
  else return test

/-- An expression without commas. -/
def assignment (rules : Rules) (scope : Scope) : Parser Concrete := do
  choiceRest rules scope (← operation rules 0 scope)

/-- The further expressions behind commas. -/
def sequenceRest (rules : Rules) (scope : Scope) (first : Concrete) : Parser Concrete := do
  let more ← collect do
    if ← followedBy scope "," then
      let _ ← advance
      return some (← rules (.assignment scope))
    else return none
  if more.isEmpty then return first
  extend "sequence_expression" first (first :: more)

/-- An expression that may hold commas. -/
def expressions (rules : Rules) (scope : Scope) : Parser Concrete := do
  sequenceRest rules scope (← assignment rules scope)

/-- An expression that may hold commas, from its first operand on. -/
def expressionsFrom (rules : Rules) (scope : Scope) (first : Concrete) : Parser Concrete := do
  let operand ← operandRest rules scope first
  let test ← operationRest rules 0 scope operand
  let whole ← choiceRest rules scope test
  sequenceRest rules scope whole

end NamespaceScan.JavaScript

import NamespaceScan.JavaScript.Literals

/-!
# Functions, members and classes

Parameters and patterns are read as expressions: both have the same parts, and
only what follows a list in parentheses tells whether it holds parameters.
-/

namespace NamespaceScan.JavaScript

open NamespaceScan.JavaScript.Parser

/-! ## Lists -/

/-- A spread or rest element; the current token is `...`. -/
def spread (rules : Rules) : Parser Concrete := do
  let dots ← advance
  let operand ← rules.item
  finish "spread_element" dots.start [operand]

/-- Behind the commas at the current token. -/
def skipCommas : Parser Unit := do
  let _ ← iterate (fun (_ : Unit) => do
    skipMarkupComments
    return if ← accept "," then some () else none) ()

/-- One item of a list, unless the list ends here. Commas may follow each
other. -/
def listItem (rules : Rules) (close : String) : Parser (Option Concrete) := do
  skipCommas
  let token ← peek
  if token.isMark close then return none
  let item ← if token.isMark "..." then spread rules else rules.item
  if (← atMark ",") || (← atMark close) then return some item else failure

/-- The items up to the closing mark; the opening one is the current token. -/
def listBetween (rules : Rules) (opening close : String) : Parser (List Concrete) := do
  let _ ← expect opening
  let items ← collect (listItem rules close)
  let _ ← expect close
  return items

/-- The arguments of a call. -/
def arguments (rules : Rules) : Parser Concrete := do
  let start := (← peek).start
  let items ← listBetween rules "(" ")"
  return inField "arguments" (← finish "arguments" start items)

/-- The parameters of a function. A parameter named `undefined` keeps its own
type. -/
def parameters (rules : Rules) : Parser Concrete := do
  skipMarkupComments
  let start := (← peek).start
  let items ← listBetween rules "(" ")"
  finish "formal_parameters" start items

/-- An array or an array pattern. -/
def array (rules : Rules) : Parser Concrete := do
  let start := (← peek).start
  let items ← listBetween rules "[" "]"
  finish "array" start items

/-! ## Decorators -/

/-- A name that is bound: of a function, a class, or an imported value. -/
def boundName : Parser Concrete := do
  skipMarkupComments
  if (← peek).isAnyWord then leaf "identifier" else failure

/-- The name of a decorator with its properties. -/
def decoratorName : Parser Concrete := do
  let name ← boundName
  iterate (fun target => do
    if ← accept "." then
      let property ← boundName
      let node ← extend "member_expression" target
        [inField "object" target,
          inField "property" { property with type := "property_identifier" }]
      return some node
    else return none) name

/-- A decorator: a dotted name, perhaps called. -/
def decorator (rules : Rules) : Parser Concrete := do
  let at_ ← expect "@"
  let inner ← if ← atMark "(" then do
      let start := (← peek).start
      let items ← listBetween rules "(" ")"
      finish "parenthesized_expression" start items
    else decoratorName
  let applied ← if ← atMark "(" then do
      let list ← arguments rules
      extend "call_expression" inner [inField "function" inner, list]
    else pure inner
  finish "decorator" at_.start [applied]

/-- The decorators at the current token. -/
def decorators (rules : Rules) : Parser (List Concrete) :=
  collect do if ← atMark "@" then return some (← decorator rules) else return none

/-! ## Members -/

/-- The key of a member. Brackets hold one expression, or a pattern. -/
def memberKey (rules : Rules) : Parser Concrete := do
  skipMarkupComments
  let token ← peek
  match token.lexeme with
  | .word _ => leaf "property_identifier"
  | .privateName => leaf "private_property_identifier"
  | .string => leaf "string"
  | .number => leaf "number"
  | .mark "[" =>
    let items ← listBetween rules "[" "]"
    finish "computed_property_name" token.start items
  | _ => failure

/-- The words before the key of a member. -/
def modifierWords : List String := ["static", "async", "get", "set"]

/-- The word at a cursor is a key and no modifier: an end of the member or of
its key follows, or a semicolon is missing. -/
def endsKey (mayEnd : Bool) (word : Token) : Bool :=
  (mayEnd && word.stop.lacksSemicolon true) ||
    ["(", "=", ";", "\x7d", ",", ":"].any (Token.read word.stop).isMark

/-- White space on the keyboard. -/
def isKeyboardSpace (c : CodePoint) : Bool := (0x09 ≤ c.val && c.val ≤ 0x0D) || c = 0x20

/-- The words `static` and `get` stand here with nothing but white space
between them, and the line ends behind them. They never are keys then. -/
def startsStaticGetter (k : Cursor) : Bool :=
  k.startsWith "static" &&
    let between := k.skip 6
    let second := between.skipWhile isKeyboardSpace
    second.left < between.left && second.startsWith "get" &&
      ((second.skip 3).rest.takeWhile isKeyboardSpace).elem 0x0A

/-- Take the modifiers such as `get` or `async`, and the star of a generator.
In a class a modifier at the end of a line is a key, unless it follows
`async`. -/
def memberModifiers (inClass : Bool) : Parser Unit := do
  let getter := startsStaticGetter (← peek).start
  if getter then
    let _ ← advance
    let _ ← advance
  let _ ← iterate (fun (mayEnd : Bool) => do
    let token ← peek
    if modifierWords.any token.isWord && !endsKey mayEnd token then
      let _ ← advance
      return some (mayEnd && !token.isWord "async")
    else return none) (inClass && !getter)
  let _ ← accept "*"

/-- The parameters and the body of a method whose key is read. -/
def methodRest (rules : Rules) (start : Cursor) (before : List Concrete) : Parser Concrete := do
  let list ← parameters rules
  let body ← rules .block
  finish "method_definition" start (before ++ [list, body])

/-- A member of an object or of an object pattern whose key is read. -/
def memberRest (rules : Rules) (start : Cursor) (marks : List Concrete) (keyToken : Token)
    (key : Concrete) : Parser Concrete := do
  skipMarkupComments
  let next ← peek
  match next.lexeme with
  | .mark "(" => methodRest rules start (marks ++ [key])
  | .mark ":" =>
    let _ ← advance
    let value ← rules.item
    finish "pair" start [key, value]
  | .mark "=" =>
    let _ ← advance
    let value ← rules.item
    let target := if keyToken.isAnyWord
      then leafOf "shorthand_property_identifier_pattern" keyToken else key
    finish "object_assignment_pattern" start [target, value]
  | _ =>
    if keyToken.isAnyWord && (next.isMark "," || next.isMark "\x7d") then
      return leafOf "shorthand_property_identifier" keyToken
    else failure

/-- A member of an object or of an object pattern, unless it ends here. -/
def objectMember (rules : Rules) : Parser (Option Concrete) := do
  skipCommas
  let token ← peek
  if token.isMark "\x7d" then return none
  if token.isMark "..." then return some (← spread rules)
  if token.isMark "\x7b" then
    let inner ← rules.item
    return some { inner with type := "object_assignment_pattern" }
  let marks ← decorators rules
  memberModifiers false
  let keyToken ← peek
  let key ← memberKey rules
  return some (← memberRest rules token.start marks keyToken key)

/-- The further members of an object up to its closing brace. -/
def objectRest (rules : Rules) (start : Cursor) (first : List Concrete) : Parser Concrete := do
  let members ← collect do
    let found ← objectMember rules
    if found.isNone || (← atMark ",") || (← atMark "\x7d") then return found else failure
  let _ ← expect "\x7d"
  finish "object" start (first ++ members)

/-- An object or an object pattern. -/
def object (rules : Rules) : Parser Concrete := do
  let start := (← peek).start
  let _ ← expect "\x7b"
  objectRest rules start []

/-! ## Functions -/

/-- A function from its `function` word on; it begins earlier when it is
asynchronous. -/
def functionFrom (rules : Rules) (start : Cursor) : Parser Concrete := do
  let _ ← expectWord "function"
  skipMarkupComments
  let _ ← accept "*"
  skipMarkupComments
  let name ← if (← peek).isAnyWord then do pure [← leaf "identifier"] else pure []
  let list ← parameters rules
  let body ← rules .block
  finish "function_expression" start (name ++ [list, body])

/-- A function with or without `async` before it. -/
def function (rules : Rules) : Parser Concrete := do
  let token ← peek
  let _ ← acceptWord "async"
  functionFrom rules token.start

/-- The body of an arrow function; the current token is the arrow. -/
def arrowRest (rules : Rules) (scope : Scope) (start : Cursor) (parameter : Concrete) :
    Parser Concrete := do
  let _ ← expect "=>"
  let body ← rules (.arrowBody scope)
  finish "arrow_function" start [parameter, body]

/-! ## Classes -/

/-- A field whose key is read. -/
def fieldRest (rules : Rules) (start : Cursor) (before : List Concrete) : Parser Concrete := do
  if (← lacksSemicolon true) || !(← atMark "=") then
    let node ← finish "field_definition" start before
    endStatement true
    return node
  let _ ← advance
  let value ← rules (.assignment .trailing)
  let node ← finish "field_definition" start (before ++ [value])
  endStatement false
  return node

/-- A member of a class, unless the class ends here. -/
def classMember (rules : Rules) : Parser (Option Concrete) := do
  let _ ← iterate (fun (_ : Unit) => do
    skipMarkupComments
    return if ← accept ";" then some () else none) ()
  let token ← peek
  if token.isMark "\x7d" then return none
  let marks ← decorators rules
  if (← atWord "static") && (← peekNext).isMark "\x7b" then
    let _ ← advance
    let body ← rules .block
    return some (← finish "class_static_block" token.start [body])
  memberModifiers true
  let key ← memberKey rules
  if (← atMark "(") && !(← lacksSemicolon true) then
    return some (← methodRest rules token.start (marks ++ [key]))
  return some (← fieldRest rules token.start (marks ++ [key]))

/-- The body of a class. -/
def classBody (rules : Rules) : Parser Concrete := do
  skipMarkupComments
  let start := (← peek).start
  let _ ← expect "\x7b"
  let members ← collect (classMember rules)
  let _ ← expect "\x7d"
  finish "class_body" start members

/-- A class with the decorators before it. -/
def classFrom (rules : Rules) (start : Cursor) (marks : List Concrete) : Parser Concrete := do
  let _ ← expectWord "class"
  skipMarkupComments
  let token ← peek
  let name ← if token.isAnyWord && !token.isWord "extends" then do pure [← leaf "identifier"]
    else pure []
  skipMarkupComments
  let heritage ← if ← atWord "extends" then do
      let word ← advance
      let base ← rules.item
      pure [← finish "class_heritage" word.start [base]]
    else pure []
  let body ← classBody rules
  finish "class" start (marks ++ name ++ heritage ++ [body])

/-- A class. -/
def classDefinition (rules : Rules) : Parser Concrete := do
  let start := (← peek).start
  let marks ← decorators rules
  classFrom rules start marks

end NamespaceScan.JavaScript

import NamespaceScan.JavaScript.Expression

/-!
# Statements
-/

namespace NamespaceScan.JavaScript

open NamespaceScan.JavaScript.Parser

/-- A condition in parentheses. -/
def condition (rules : Rules) : Parser Concrete := do
  skipMarkupComments
  let start := (← peek).start
  let _ ← expect "("
  let inner ← rules.enclosed
  let _ ← expect ")"
  finish "parenthesized_expression" start [inner]

/-- One more statement, unless one of the given tokens ends the list. -/
def listedStatement (rules : Rules) (ends : Token → Bool) : Parser (Option Concrete) := do
  skipMarkupComments
  if ends (← peek) then return none
  return some (← rules .statement)

/-- The further statements of a block up to its closing brace. -/
def blockRest (rules : Rules) (start : Cursor) (first : List Concrete) : Parser Concrete := do
  let statements ← collect (listedStatement rules fun token => token.isMark "\x7d")
  let _ ← expect "\x7d"
  finish "statement_block" start (first ++ statements)

/-- Statements in braces. -/
def block (rules : Rules) : Parser Concrete := do
  skipMarkupComments
  let start := (← peek).start
  let _ ← expect "\x7b"
  blockRest rules start []

/-- An expression as a statement, from its first operand on. -/
def expressionStatementFrom (rules : Rules) (first : Concrete) : Parser Concrete := do
  let inner ← expressionsFrom rules .trailing first
  let node ← extend "expression_statement" inner [inner]
  endStatement false
  return node

/-- An expression as a statement. -/
def expressionStatement (rules : Rules) : Parser Concrete := do
  let start := (← peek).start
  let inner ← rules (.expressions .trailing)
  let node ← finish "expression_statement" start [inner]
  endStatement false
  return node

/-! ## Braces

Braces hold statements or are an object. Where both may stand, what can be read
as an object is one, unless the first name in the braces already is a whole
statement. -/

/-- The words that begin no member where statements may stand as well. -/
def statementWord (token : Token) : Bool :=
  reservedWords.any token.isWord ||
    ["class", "function", "import", "new", "null", "super", "this", "true", "false", "undefined",
      "yield", "using"].any token.isWord

/-- A pattern and no value: somewhere in an object a name has a default. -/
def isPattern (n : Concrete) : Bool :=
  n.type = "object_assignment_pattern" ||
    (["object", "array", "pair", "spread_element"].contains n.type &&
      n.children.attach.any fun child => isPattern child.val)
termination_by sizeOf n
decreasing_by exact Concrete.sizeOf_lt_of_mem_children child.property

/-- The tokens behind an opening brace can begin an object and no statement
that takes the place of its first member. A name before a comma is a value and
no member, and the words `async function` always begin a function. -/
def maybeObject (first : Token) : Bool :=
  let next := Token.read first.stop
  let missing := first.stop.lacksSemicolon false
  match first.lexeme with
  | .word _ =>
    !statementWord first && !missing &&
      (next.isMark ":" ||
        (modifierWords.any first.isWord && !endsKey true first &&
          !(first.isWord "async" && next.isWord "function")))
  | .string | .number => next.isMark ":" || next.isMark "("
  | .privateName => next.isMark ":" || next.isMark "("
  | .mark symbol => ["[", "...", "*", ",", "@"].contains symbol
  | _ => false

/-- What the braces at the current token are, given how an object is read to
its end. A name with a list in parentheses is read once: a body behind it makes
it a method, and else it is a call. Where the call could be a statement of its
own, only an empty list makes a method. -/
def braces (rules : Rules) (whole : Concrete → Parser Concrete) : Parser Concrete := do
  let opening ← peek
  let first := Token.read opening.stop
  if first.isAnyWord && !statementWord first && !first.isWord "await" &&
      (Token.read first.stop).isMark "(" && !first.stop.lacksSemicolon false then
    let _ ← advance
    let name ← advance
    let start := (← peek).start
    let items ← listBetween rules "(" ")"
    let list ← finish "formal_parameters" start items
    if (← atMark "\x7b") && (items.isEmpty || !(← lacksSemicolon false)) then
      let body ← rules .block
      let method ← finish "method_definition" name.start
        [leafOf "property_identifier" name, list, body]
      if !(← atMark ",") && !(← atMark "\x7d") then failure
      whole (← objectRest rules opening.start [method])
    else
      let callee := leafOf "identifier" name
      let list := inField "arguments" { list with type := "arguments" }
      let call ← if name.isWord "async" then
          asynchronousCall rules .trailing callee list name.start
        else extend "call_expression" callee [inField "function" callee, list]
      let statement ← expressionStatementFrom rules call
      blockRest rules opening.start [statement]
  else if maybeObject first then
    (do
      let found ← object rules
      if isPattern found && !(← atMark "=") then failure
      whole found) <|> block rules
  else block rules

/-- The marks and words that go on with an expression and begin no statement. -/
def onlyContinues : Lexeme → Bool
  | .mark symbol =>
    [".", "?.", "*", "**", "%", "&", "&&", "|", "||", "^", "==", "===", "!=", "!==", "<=", "<<",
      ">", ">=", ">>", ">>>", "??", "?", ",", "="].contains symbol
  | .word name => name = "in" || name = "instanceof"
  | _ => false

/-- A statement that may also be the first operand of an expression. It is one
if what follows could not begin a statement, or if it cannot stand alone. -/
def aloneOrOperand (rules : Rules) (alone : Parser Concrete) : Parser Concrete := do
  let before ← get
  let found ← (some <$> alone) <|> pure none
  match found with
  | some node =>
    if onlyContinues (← following .trailing) then
      set before
      expressionStatement rules
    else return node
  | none =>
    set before
    expressionStatement rules

/-- A statement that begins with a brace. -/
def bracedStatement (rules : Rules) : Parser Concrete :=
  aloneOrOperand rules <| braces rules (expressionStatementFrom rules)

/-- The body of an arrow function. -/
def arrowBody (rules : Rules) (scope : Scope) : Parser Concrete := do
  skipMarkupComments
  if ← atMark "\x7b" then
    (braces rules fun object => do
      let operand ← operandRest rules scope object
      choiceRest rules scope (← operationRest rules 0 scope operand)) <|> rules (.assignment scope)
  else rules (.assignment scope)

/-! ## Declarations -/

/-- The target of a declaration: a name or a pattern. -/
def target (rules : Rules) : Parser Concrete := do
  skipMarkupComments
  let token ← peek
  match token.lexeme with
  | .word _ => leaf "identifier"
  | .mark "[" => array rules
  | .mark "\x7b" => object rules
  | _ => failure

/-- A target with its first value, if the statement does not end before it. -/
def declarator (rules : Rules) (scope : Scope) : Parser Concrete := do
  skipMarkupComments
  let start := (← peek).start
  let name ← target rules
  if (← atMark "=") && !(scope.mayEnd && (← lacksSemicolon true)) then
    let _ ← advance
    let value ← rules (.assignment scope)
    finish "variable_declarator" start [name, value]
  else finish "variable_declarator" start [name]

/-- A declarator has no value, so that no operator can follow it. -/
def isBare (declarator : Concrete) : Bool := declarator.children.length < 2

/-- The declarators behind `var`, `let` or `const`. -/
def declarators (rules : Rules) (scope : Scope) : Parser (List Concrete) := do
  let first ← declarator rules scope
  let (found, _) ← iterate (fun ((found, last) : List Concrete × Concrete) => do
    if !(← atMark ",") || (scope.mayEnd && (← lacksSemicolon (isBare last))) then return none
    let _ ← advance
    let next ← declarator rules scope
    return some (next :: found, next)) ([first], first)
  return found.reverse

/-- The end of a declaration with the given declarators. -/
def endDeclaration (found : List Concrete) : Parser Unit :=
  endStatement (found.getLast?.any isBare)

/-- A declaration with its end. -/
def declaration (rules : Rules) : Parser Concrete := do
  let word ← advance
  let _ ← if word.isWord "await" then expectWord "using" else pure word
  let found ← declarators rules .trailing
  let node ← finish "variable_declaration" word.start found
  endDeclaration found
  return node

/-- The word `let` declares when a name or a pattern follows it. -/
def declaresNext (next : Token) : Bool :=
  (next.isAnyWord && !next.isWord "in" && !next.isWord "instanceof") ||
    next.isMark "[" || next.isMark "\x7b"

/-- A declaration begins with the given tokens. The word `let` is a name where
a statement may end behind it. -/
def declares (mayEnd : Bool) (word next : Token) : Bool :=
  word.isWord "var" || word.isWord "const" ||
    (word.isWord "let" && declaresNext next &&
      !(mayEnd && word.stop.lacksSemicolon false))

/-- A declaration of a value that is disposed of begins with the given tokens. -/
def declaresUsing (word next : Token) : Bool :=
  word.isWord "using" ||
    (word.isWord "await" && next.isWord "using" && !word.stop.lacksSemicolon false)

/-! ## Loops -/

/-- The head of a loop over the members of a value, from its word `in` or `of`
on. -/
def memberHead (rules : Rules) (left : List Concrete) : Parser (String × List Concrete) := do
  let _ ← advance
  let right ← rules.enclosed
  let _ ← expect ")"
  return ("for_in_statement", left ++ [right])

/-- A part of a counting loop that may be missing; the semicolon behind it then
stands for it. -/
def loopPart (rules : Rules) : Parser Concrete := do
  skipMarkupComments
  if ← atMark ";" then leaf "empty_statement"
  else
    let inner ← rules.enclosed
    let _ ← expect ";"
    return inner

/-- The head of a counting loop, from its condition on. -/
def countingHead (rules : Rules) (first : Concrete) : Parser (String × List Concrete) := do
  let test ← loopPart rules
  skipMarkupComments
  let step ← if ← atMark ")" then pure [] else do pure [← rules.enclosed]
  let _ ← expect ")"
  return ("for_statement", first :: test :: step)

/-- The words that begin the right side of a loop over members. -/
def atMemberWord : Parser Bool := do
  skipMarkupComments
  return (← atWord "in") || (← atWord "of")

/-- The head of a loop, given how its first part is read and what follows it in
a counting loop. Behind a first part that `in` or `of` follows there may be the
members of a value; if not, the word `in` is an operator in the first part. -/
def loopHead (rules : Rules) (part : Bool → Parser Concrete) (left : Concrete → List Concrete)
    (counting : Concrete → Parser Unit) : Parser (String × List Concrete) := do
  let before ← get
  let first ← part false
  if ← atMemberWord then
    memberHead rules (left first) <|> (do
      set before
      let first ← part true
      counting first
      countingHead rules first)
  else
    counting first
    countingHead rules first

/-- The head of a loop that declares its variable. -/
def declaringHead (rules : Rules) : Parser (String × List Concrete) := do
  let word ← advance
  loopHead rules
    (fun allowIn => do
      let found ← declarators rules ⟨allowIn, true⟩
      finish "variable_declaration" word.start found)
    (fun first => first.children.flatMap (·.children)) (fun first => endDeclaration first.children)

/-- The head of a loop that begins with an expression. -/
def expressionHead (rules : Rules) : Parser (String × List Concrete) :=
  loopHead rules (fun allowIn => rules (.expressions ⟨allowIn, false⟩)) (fun first => [first])
    (fun _ => do let _ ← expect ";")

/-- The head of a loop declares a variable. The word `of` behind `let` is its
name if the word stands there once more or a value follows. -/
def declaresInHead : Parser Bool := do
  let token ← peek
  let next ← peekNext
  let third := Token.read next.stop
  if token.isWord "let" && next.isWord "of" then
    return third.isWord "of" && !(Token.read third.stop).isMark ")" || third.isWord "in" ||
      ["=", ";", ","].any third.isMark
  if token.isWord "using" then
    return next.isAnyWord && !next.isWord "in" && (!next.isWord "of" || third.isWord "of")
  return declares false token next

/-- A `for` loop. -/
def forLoop (rules : Rules) : Parser Concrete := do
  let word ← advance
  skipMarkupComments
  let _ ← acceptWord "await"
  let _ ← expect "("
  skipMarkupComments
  let (type, head) ←
    if ← atMark ";" then do countingHead rules (← leaf "empty_statement")
    else if ← declaresInHead then declaringHead rules
    else expressionHead rules
  let body ← rules .statement
  finish type word.start (head ++ [body])

/-! ## Branches and jumps -/

/-- An `if` statement. -/
def branch (rules : Rules) : Parser Concrete := do
  let word ← advance
  let test ← condition rules
  let yes ← rules .statement
  skipMarkupComments
  let no ← if ← atWord "else" then do
      let otherwise ← advance
      let body ← rules .statement
      pure [← finish "else_clause" otherwise.start [body]]
    else pure []
  finish "if_statement" word.start (test :: yes :: no)

/-- One more case of a `switch`. -/
def switchCase (rules : Rules) : Parser (Option Concrete) := do
  skipMarkupComments
  let token ← peek
  if token.isMark "\x7d" then return none
  let value ← if ← acceptWord "case" then do pure [← rules.enclosed]
    else do
      let _ ← expectWord "default"
      pure []
  let _ ← expect ":"
  let body ← collect (listedStatement rules fun next =>
    next.isMark "\x7d" || next.isWord "case" || next.isWord "default")
  return some (← finish "switch_case" token.start (value ++ body))

/-- A `switch` statement. -/
def switching (rules : Rules) : Parser Concrete := do
  let word ← advance
  let value ← condition rules
  skipMarkupComments
  let start := (← peek).start
  let _ ← expect "\x7b"
  let cases ← collect (switchCase rules)
  let _ ← expect "\x7d"
  let body ← finish "switch_body" start cases
  finish "switch_statement" word.start [value, body]

/-- A `try` statement. -/
def guarded (rules : Rules) : Parser Concrete := do
  let word ← advance
  let body ← rules .block
  let handler ← if ← atWord "catch" then do
      let clause ← advance
      let caught ← if ← accept "(" then do
          let name ← target rules
          let _ ← expect ")"
          pure [name]
        else pure []
      let inner ← rules .block
      pure [← finish "catch_clause" clause.start (caught ++ [inner])]
    else pure []
  let finalizer ← if ← atWord "finally" then do
      let clause ← advance
      let inner ← rules .block
      pure [← finish "finally_clause" clause.start [inner]]
    else pure []
  finish "try_statement" word.start (body :: handler ++ finalizer)

/-- `break` or `continue`, perhaps with a label. -/
def jump (type : String) : Parser Concrete := do
  let word ← advance
  let label ← if (← peek).isAnyWord && !(← lacksSemicolon true) then do
      pure [← leaf "statement_identifier"]
    else pure []
  let node ← finish type word.start label
  endStatement true
  return node

/-- `return` with its value, if it has one. -/
def returning (rules : Rules) : Parser Concrete := do
  let word ← advance
  if (← lacksSemicolon true) || (← atMark ";") then
    let node ← finish "return_statement" word.start []
    endStatement true
    return node
  let value ← rules (.expressions .trailing)
  let node ← finish "return_statement" word.start [value]
  endStatement false
  return node

/-- `throw` with its value. -/
def throwing (rules : Rules) : Parser Concrete := do
  let word ← advance
  let value ← rules (.expressions .trailing)
  let node ← finish "throw_statement" word.start [value]
  endStatement false
  return node

/-- `while` or `with`: a condition and a body. -/
def conditioned (rules : Rules) (type : String) : Parser Concrete := do
  let word ← advance
  let test ← condition rules
  let body ← rules .statement
  finish type word.start [test, body]

/-- A loop with its condition behind the body. -/
def postLoop (rules : Rules) : Parser Concrete := do
  let word ← advance
  let body ← rules .statement
  let _ ← expectWord "while"
  let test ← condition rules
  if !(← lacksSemicolon true) then
    let _ ← accept ";"
  finish "do_statement" word.start [body, test]

/-- A statement with a label. -/
def labelled (rules : Rules) : Parser Concrete := do
  let token ← advance
  let _ ← expect ":"
  let body ← rules .statement
  finish "labeled_statement" token.start [leafOf "statement_identifier" token, body]

/-! ## Modules -/

/-- The module that a clause refers to. -/
def source : Parser Concrete := do
  skipMarkupComments
  if (← peek).lexeme = .string then leaf "string" else failure

/-- The attributes of an imported module. -/
def attributes (rules : Rules) : Parser (List Concrete) := do
  let token ← peek
  if (token.isWord "with" || token.isWord "assert") && !(← lacksSemicolon true) then
    let _ ← advance
    skipMarkupComments
    let table ← object rules
    return [← finish "import_attribute" token.start [table]]
  return []

/-- The name in a specifier. The word `default` is no name of its own. -/
def specifierName : Parser (List Concrete) := do
  skipMarkupComments
  match (← peek).lexeme with
  | .word _ =>
    let isDefault ← atWord "default"
    let name ← leaf "identifier"
    return if isDefault then [] else [name]
  | .string => return [← leaf "string"]
  | _ => failure

/-- One more specifier of the given type. -/
def specifier (type : String) : Parser (Option Concrete) := do
  skipMarkupComments
  let token ← peek
  if token.isMark "\x7d" then return none
  let name ← specifierName
  skipMarkupComments
  let renamed ← if ← acceptWord "as" then specifierName else pure []
  let node ← finish type token.start (name ++ renamed)
  skipMarkupComments
  if ← atMark "\x7d" then return some node
  let _ ← expect ","
  return some node

/-- Specifiers in braces. -/
def specifiers (type inner : String) : Parser Concrete := do
  let start := (← peek).start
  let _ ← expect "\x7b"
  let found ← collect (specifier inner)
  let _ ← expect "\x7d"
  finish type start found

/-- All values of a module under one name; the current token is the star. -/
def wholeModule (type : String) : Parser Concrete := do
  let star ← advance
  let _ ← expectWord "as"
  let name ← specifierName
  finish type star.start name

/-- The values imported from a module in braces or as a whole. -/
def importedNames : Parser Concrete := do
  skipMarkupComments
  if ← atMark "*" then wholeModule "namespace_import"
  else specifiers "named_imports" "import_specifier"

/-- An import. -/
def importing (rules : Rules) : Parser Concrete := do
  let word ← advance
  skipMarkupComments
  let token ← peek
  let clause ← if token.lexeme = .string then pure []
    else do
      let parts ← if token.isAnyWord then do
          let name ← leaf "identifier"
          skipMarkupComments
          let more ← if ← accept "," then do pure [← importedNames] else pure []
          pure (name :: more)
        else do pure [← importedNames]
      let clause ← finish "import_clause" token.start parts
      let _ ← expectWord "from"
      pure [clause]
  let module ← source
  let table ← attributes rules
  let node ← finish "import_statement" word.start (clause ++ module :: table)
  endStatement true
  return node

/-- A function or a class with its name begins with the current token. -/
def definesName : Parser Bool := do
  let token ← peek
  if token.isMark "@" then return true
  let word ← if token.isWord "async" then peekNext else pure token
  let next := Token.read word.stop
  let name := if word.isWord "function" && next.isMark "*" then Token.read next.stop else next
  return name.isAnyWord && !name.isWord "extends"

/-- A function or a class begins with the current token. -/
def beginsDefinition (mayEnd : Bool) : Parser Bool := do
  let token ← peek
  return token.isWord "function" || token.isWord "class" || token.isMark "@" ||
    (token.isWord "async" && (← peekNext).isWord "function" &&
      !(mayEnd && token.stop.lacksSemicolon false))

/-- A function or a class. -/
def definition (rules : Rules) : Parser Concrete := do
  let token ← peek
  if token.isWord "class" || token.isMark "@" then classDefinition rules else function rules

/-- The module behind an export clause, if there is one. -/
def exportSource (rules : Rules) : Parser (List Concrete) := do
  if ← lacksSemicolon true then return []
  if ← acceptWord "from" then
    let module ← source
    let table ← attributes rules
    return module :: table
  return []

/-- The value of a default export. -/
def exportedValue (rules : Rules) : Parser Concrete := do
  let value ← rules (.assignment .trailing)
  endStatement false
  return value

/-- A default export: a declaration, a function or a class with a name, or a
value. -/
def exportedDefault (rules : Rules) : Parser Concrete := do
  skipMarkupComments
  let token ← peek
  let next ← peekNext
  if declares true token next || declaresUsing token next then return ← declaration rules
  if (← beginsDefinition true) && (← definesName) then
    let before ← get
    let found ← definition rules
    if !onlyContinues (← following .trailing) then return found
    set before
  exportedValue rules

/-- All values of a module are exported, or its names in braces. -/
def exportedNames (rules : Rules) : Parser (List Concrete) := do
  let whole ← if ← atMark "*" then
      if (← peekNext).isWord "as" then do pure [← wholeModule "namespace_export"]
      else do
        let _ ← advance
        skipMarkupComments
        pure []
    else do pure [← specifiers "export_clause" "export_specifier"]
  let module ← exportSource rules
  endStatement true
  return whole ++ module

/-- What is exported: names, all names of a module, a value or a declaration. -/
def exported (rules : Rules) : Parser (List Concrete) := do
  skipMarkupComments
  let token ← peek
  let next ← peekNext
  if token.isMark "*" || token.isMark "\x7b" then exportedNames rules
  else if ← acceptWord "default" then return [← exportedDefault rules]
  else if declares false token next || declaresUsing token next then
    return [← declaration rules]
  else if ← beginsDefinition false then return [← definition rules]
  else failure

/-- The word `export` exports something and is no name: what can be exported
follows, and no statement ends behind the word. -/
def exports (word next : Token) : Bool :=
  !word.stop.lacksSemicolon false &&
    (["*", "\x7b", "@"].any next.isMark ||
      ["default", "var", "let", "const", "using", "function", "class", "async", "await"].any
        next.isWord)

/-- An export with the decorators before it. -/
def exporting (rules : Rules) (start : Cursor) (marks : List Concrete) : Parser Concrete := do
  let _ ← expectWord "export"
  let parts ← exported rules
  finish "export_statement" start (marks ++ parts)

/-! ## All statements -/

/-- A class or an export behind decorators. -/
def decorated (rules : Rules) : Parser Concrete := do
  let start := (← peek).start
  let marks ← decorators rules
  skipMarkupComments
  if ← atWord "export" then exporting rules start marks
  else if (← peekNext).isAnyWord && !(← peekNext).isWord "extends" then
    classFrom rules start marks
  else failure

/-- The words that begin a statement of their own, with the parser for it. -/
def statementWords (rules : Rules) : List (String × Parser Concrete) :=
  [("if", branch rules), ("for", forLoop rules), ("while", conditioned rules "while_statement"),
    ("with", conditioned rules "with_statement"), ("do", postLoop rules),
    ("return", returning rules), ("throw", throwing rules), ("break", jump "break_statement"),
    ("continue", jump "continue_statement"), ("debugger", jump "debugger_statement"),
    ("try", guarded rules), ("switch", switching rules)]

/-- A statement that begins with a word. -/
def wordStatement (rules : Rules) (token next : Token) : Parser Concrete := do
  match (statementWords rules).find? fun entry => token.isWord entry.1 with
  | some (_, parse) => parse
  | none =>
    if next.isMark ":" && !reservedWords.any token.isWord then labelled rules
    else if declares true token next || declaresUsing token next then declaration rules
    else if ← beginsDefinition true then
      if ← definesName then aloneOrOperand rules (definition rules)
      else expressionStatement rules
    else if token.isWord "import" && !(["(", ".", "?."].any next.isMark) then importing rules
    else if token.isWord "export" && exports token next then exporting rules token.start []
    else expressionStatement rules

/-- A statement. -/
def statement (rules : Rules) : Parser Concrete := do
  skipMarkupComments
  let token ← peek
  match token.lexeme with
  | .word _ => wordStatement rules token (← peekNext)
  | .mark "\x7b" => bracedStatement rules
  | .mark ";" => leaf "empty_statement"
  | .mark "@" => aloneOrOperand rules (decorated rules)
  | .ended => failure
  | _ => expressionStatement rules

end NamespaceScan.JavaScript

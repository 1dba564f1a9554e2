import NamespaceScan.Text.Utf8
import NamespaceScan.Toml.Scalar
import NamespaceScan.Toml.Table

/-!
# Documents

A document is a sequence of statements, one a line: headers that open a table,
headers that add a table to a list, and definitions of keys.
-/

namespace NamespaceScan.Toml

/-- Give an outcome to the reader; its error stands at the current place. -/
def orFail {α : Type} : Except Text α → Reader α
  | .ok a => return a
  | .error reason => fail reason

/-- An inline table under construction: its entries and its frozen keys. -/
abbrev Inline := Table × List Key

/-- Define a key of an inline table. -/
def Inline.define (t : Inline) (k : Key) (value : Value) : Except Text Inline :=
  if t.2.any (·.isPrefixOf k) then .error ("Cannot mutate immutable namespace " ++ shownKey k)
  else
    match Table.change false some k.dropLast t.1 with
    | none => .error "Cannot overwrite a value"
    | some _ =>
      match Table.change false (Table.define (k.getLast?.getD []) value) k.dropLast t.1 with
      | some entries => .ok (entries, if isComposite value then k :: t.2 else t.2)
      | none => .error ("Duplicate inline table key " ++ Text.quoted (k.getLast?.getD []))

/-- How many values a value may stand in. -/
def nestingLimit : Nat := 400

mutual

/-- A value inside of `depth` others. -/
def value : Nat → Nat → Reader Value
  | 0, _ => fail "Invalid value"
  | fuel + 1, depth => do
    if nestingLimit < depth then throw (.beyond (.deepNesting nestingLimit))
    let t ← get
    match t.head? with
    | none => fail "Invalid value"
    | some c =>
      if c = quotationMark then
        if t.startsWith "\"\"\"" then return .text (← multilineText quotationMark)
        else
          skip 1
          return .text (← basicBody false)
      else if c = apostrophe then
        if t.startsWith "'''" then return .text (← multilineText apostrophe)
        else return .text (← literal)
      else if t.startsWith "true" then
        skip 4
        return .bool true
      else if t.startsWith "false" then
        skip 5
        return .bool false
      else if c = 0x5B then
        skip 1
        skipBetween
        items fuel (depth + 1) []
      else if c = 0x7B then
        skip 1
        skipBetween
        entries fuel (depth + 1) ([], [])
      else scalar

/-- The items of an array from the current place on. -/
def items : Nat → Nat → List Value → Reader Value
  | 0, _, _ => fail "Unclosed array"
  | fuel + 1, depth, done => do
    if (← peek) = some 0x5D then
      skip 1
      return .list done
    let item ← value fuel depth
    skipBetween
    match ← peek with
    | some c =>
      if c = 0x5D then
        skip 1
        return .list (done ++ [item])
      else if c = 0x2C then
        skip 1
        skipBetween
        items fuel depth (done ++ [item])
      else fail "Unclosed array"
    | none => fail "Unclosed array"

/-- The entries of an inline table from the current place on. -/
def entries : Nat → Nat → Inline → Reader Value
  | 0, _, _ => fail "Unclosed inline table"
  | fuel + 1, depth, done => do
    if (← peek) = some 0x7D then
      skip 1
      return .table done.1
    let k ← key
    let v ← definition fuel depth
    let done ← orFail (done.define k v)
    skipBetween
    match ← peek with
    | some c =>
      if c = 0x7D then
        skip 1
        return .table done.1
      else if c = 0x2C then
        skip 1
        skipBetween
        entries fuel depth done
      else fail "Unclosed inline table"
    | none => fail "Unclosed inline table"

/-- The equals sign and the value behind a key. -/
def definition : Nat → Nat → Reader Value
  | 0, _ => fail "Invalid value"
  | fuel + 1, depth => do
    if (← peek) ≠ some 0x3D then fail "Expected '=' after a key in a key/value pair"
    skip 1
    skipBlanks
    value fuel depth

end

/-- The equals sign and the value behind a key that stands in no other value. -/
def anyDefinition : Reader Value := do definition (4 * (← get).length + 4) 0

/-- A header: one bracket opens a table, two add one to a list. -/
def header (d : Draft) : Reader Draft := do
  let d := d.settle
  if (← get).startsWith "[[" then
    skip 2
    skipBlanks
    let k ← key
    let d ← orFail (d.declareItem k)
    if !(← get).startsWith "]]" then fail "Expected ']]' at the end of an array declaration"
    skip 2
    return d
  else
    skip 1
    skipBlanks
    let k ← key
    let d ← orFail (d.declareTable k)
    if (← peek) ≠ some 0x5D then fail "Expected ']' at the end of a table declaration"
    skip 1
    return d

/-- One statement, without the comment behind it. -/
def statement (d : Draft) (first : CodePoint) : Reader Draft := do
  if isBare first || first = quotationMark || first = apostrophe then
    let k ← key
    let v ← anyDefinition
    let d ← orFail (d.define k v)
    skipBlanks
    return d
  else if first = 0x5B then
    let d ← header d
    skipBlanks
    return d
  else if first = hash then return d
  else fail "Invalid statement"

/-- All statements from the beginning of a line on. -/
def statements : Nat → Draft → Reader Draft
  | 0, d => return d
  | fuel + 1, d => do
    skipBlanks
    match ← peek with
    | none => return d
    | some c =>
      if c = newline then
        skip 1
        statements fuel d
      else
        let d ← statement d c
        skipComment
        match ← peek with
        | none => return d
        | some c =>
          if c ≠ newline then fail "Expected newline or end of document after a statement"
          skip 1
          statements fuel d

/-- A text in which a carriage return before a line feed is dropped. -/
def unifyEndings : Text → Text
  | 0x0D :: 0x0A :: rest => 0x0A :: unifyEndings rest
  | c :: rest => c :: unifyEndings rest
  | [] => []

/-- The table that a text spells. -/
def parse (t : Text) : Except Refused Table :=
  let document := unifyEndings t
  match (statements (document.length + 1) {}).run document with
  | .ok (d, _) => .ok d.root
  | .error (.malformed reason rest) =>
    .error (.malformed (Text.concat [reason, " (at ", place document rest, ")"]))
  | .error (.beyond fault) => .error (.beyond fault)

/-- Read the table that octets hold. -/
def load : TableReader := fun octets =>
  match Utf8.decode octets with
  | .error error => .error (.beyond (.undecodable error))
  | .ok text => parse text

theorem load_of_decode {octets : ByteArray} {text : Text}
    (decoded : Utf8.decode octets = .ok text) : load octets = parse text := by
  rw [load, decoded]

end NamespaceScan.Toml

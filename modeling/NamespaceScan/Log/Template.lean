import NamespaceScan.Log.Layout
import NamespaceScan.Text.Numeral
import NamespaceScan.Value

/-!
# Templates of log lines

A template is a text with directives. A directive is a percent sign, the name of
a field in parentheses, how the field is laid out, and a letter for the form of
its value; two percent signs stand for one. Directives are filled in from left
to right, and the first one that cannot be filled in is the error.
-/

namespace NamespaceScan.Log.Template

/-- Why a template cannot be filled in. -/
inductive Error where
  /-- No directive with a field is in the template. -/
  | withoutField (template : Text)
  | unknownField (name : Text)
  | openName
  | unfinished
  | wideWidth
  | widePrecision
  | unknownForm (c : CodePoint) (position : Nat)
  | nothingLeft
  | widthNotNumber
  /-- A form for numbers, and the type of a value that is none. -/
  | notNumber (form : CodePoint) (typeWord : Text)
  | notWhole (form : CodePoint) (typeWord : Text)
  | notReal (typeWord : Text)
  | notCharacter
  | noSuchCharacter

/-- The wording of an error. -/
def Error.message : Error → Text
  | .withoutField template => Text.concat ["Invalid format '", template, "' for '%' style"]
  | .unknownField name => "Formatting field not found in record: " ++ name.quoted
  | .openName => "incomplete format key"
  | .unfinished => "incomplete format"
  | .wideWidth => "width too big"
  | .widePrecision => "precision too big"
  | .unknownForm c position =>
    let shown : CodePoint := if 31 ≤ c.val ∧ c.val ≤ 126 then c else 0x3F
    Text.concat
      ["unsupported format character '", [shown], "' (0x", Numeral.inBase 16 c.val, ") at index ",
        Text.ofNat position]
  | .nothingLeft => "not enough arguments for format string"
  | .widthNotNumber => "* wants int"
  | .notNumber form typeWord =>
    Text.concat ["%", [form], " format: a real number is required, not ", typeWord]
  | .notWhole form typeWord =>
    Text.concat ["%", [form], " format: an integer is required, not ", typeWord]
  | .notReal typeWord => "must be real number, not " ++ typeWord
  | .notCharacter => "%c requires int or char"
  | .noSuchCharacter => "%c arg not in range(0x110000)"

def percent : CodePoint := 0x25
def star : CodePoint := 0x2A
def point : CodePoint := 0x2E

/-- The marks that may stand before a width. -/
def isMark (c : CodePoint) : Bool := [0x23, 0x30, 0x2B, 0x20, 0x2D].contains c

/-- The code points of names. -/
def ofName (c : CodePoint) : Bool :=
  c.isLatinLetter || c.isDigit || c = 0x5F || (0x80 ≤ c.val && c.isPrintable)

/-- The letters of the forms, in either case. -/
def isForm (c : CodePoint) : Bool :=
  ("diouxefgcrsaDIOUXEFGCRSA%" : Text).contains c

/-- What follows a width or a precision, if one is there. -/
def afterAmount? : Text → Option Text
  | c :: rest =>
    if c = star then some rest
    else if c.isDigit then some (rest.dropWhile CodePoint.isDigit)
    else none
  | [] => none

/-- A whole directive with a field stands behind a percent sign. -/
def hasField (t : Text) : Bool :=
  match t with
  | bracket :: rest =>
    let name := rest.takeWhile ofName
    match rest.dropWhile ofName with
    | closing :: marked =>
      let sized := marked.dropWhile isMark
      let pointed := (afterAmount? sized).getD sized
      let formed :=
        match pointed with
        | c :: precise => if c = point then (afterAmount? precise).getD pointed else pointed
        | [] => []
      bracket = 0x28 && name ≠ [] && closing = 0x29 && formed.head?.any isForm
    | [] => false
  | [] => false

/-- Some directive of a template has a field. -/
def isUsable : Text → Bool
  | [] => false
  | c :: rest => (c = percent && hasField rest) || isUsable rest

/-- How a value is laid out. -/
structure Shape where
  left : Bool := false
  plus : Bool := false
  blank : Bool := false
  alternate : Bool := false
  zeros : Bool := false
  width : Nat := 0
  precision : Option Nat := none

namespace Shape

/-- The shape that marks ask for. -/
def ofMarks (marks : Text) : Shape where
  left := marks.contains 0x2D
  plus := marks.contains 0x2B
  blank := marks.contains 0x20
  alternate := marks.contains 0x23
  zeros := marks.contains 0x30

/-- Spaces up to the width. -/
def spaced (shape : Shape) (t : Text) : Text :=
  let spaces := Text.repeated (shape.width - t.length) 0x20
  if shape.left then t ++ spaces else spaces ++ t

/-- A text, cut at the precision. -/
def text (shape : Shape) (t : Text) : Text :=
  shape.spaced (match shape.precision with | some count => t.take count | none => t)

/-- A number: its sign, what shows its base, and its digits. Zeros that fill the
width stand behind the sign. -/
def number (shape : Shape) (negative : Bool) (base digits : Text) : Text :=
  let sign : Text :=
    if negative then "-" else if shape.plus then "+" else if shape.blank then " " else ""
  if shape.zeros ∧ !shape.left then
    let taken := sign.length + base.length
    Text.concat [sign, base, Numeral.atLeast (shape.width - taken) digits]
  else shape.spaced (Text.concat [sign, base, digits])

end Shape

/-- Characters outside of the basic ones as escapes with their numbers. -/
def ascii (t : Text) : Text := t.flatMap fun c => if c.val < 0x80 then [c] else Quoted.numbered c

/-- The digits behind the point that are written if no precision is given. -/
def usualPrecision : Nat := 6

/-- A whole number in a form. -/
def Shape.whole (shape : Shape) (form : CodePoint) (n : Int) : Text :=
  let digits (base : Nat) := Numeral.atLeast (shape.precision.getD 0) (Numeral.inBase base n.natAbs)
  let mark (t : Text) : Text := if shape.alternate then t else []
  let written (base digits : Text) := shape.number (n < 0) base digits
  if form = 0x6F then written (mark "0o") (digits 8)
  else if form = 0x78 then written (mark "0x") (digits 16)
  else if form = 0x58 then written (mark "0X") (Numeral.capital (digits 16))
  else written [] (digits 10)

/-- A number with a point or a power of ten in a form. -/
def Shape.real (shape : Shape) (form : CodePoint) (n : Int) : Text :=
  let places := shape.precision.getD usualPrecision
  let digits :=
    if form = 0x66 ∨ form = 0x46 then Numeral.fixed shape.alternate places n.natAbs
    else if form = 0x65 ∨ form = 0x45 then Numeral.scientific shape.alternate places n.natAbs
    else Numeral.general shape.alternate places n.natAbs
  shape.number (n < 0) [] (if form.val < 0x61 then Numeral.capital digits else digits)

/-- The character that a value stands for. -/
def character : Value → Except Error CodePoint
  | .text [c] => .ok c
  | .int n =>
    match if 0 ≤ n then CodePoint.ofNat? n.toNat else none with
    | some c => .ok c
    | none => .error .noSuchCharacter
  | _ => .error .notCharacter

/-- A value in the form of a letter that stands at a position. -/
def Shape.apply (shape : Shape) (form : CodePoint) (position : Nat) (value : Value) :
    Except Error Text :=
  if form = 0x73 then .ok (shape.text value.shown)
  else if form = 0x72 then .ok (shape.text value.quoted)
  else if form = 0x61 then .ok (shape.text (ascii value.quoted))
  else if form = 0x63 then (character value).map fun c => shape.spaced [c]
  else if [0x64, 0x69, 0x75].contains form then
    match value with
    | .int n => .ok (shape.whole form n)
    | _ => .error (.notNumber form value.typeWord)
  else if [0x6F, 0x78, 0x58].contains form then
    match value with
    | .int n => .ok (shape.whole form n)
    | _ => .error (.notWhole form value.typeWord)
  else if [0x65, 0x45, 0x66, 0x46, 0x67, 0x47].contains form then
    match value with
    | .int n => .ok (shape.real form n)
    | _ => .error (.notReal value.typeWord)
  else .error (.unknownForm form position)

/-- The name up to the closing parenthesis, and what follows; parentheses in the
name are balanced. -/
def name? (depth : Nat) : Text → Option (Text × Text)
  | [] => none
  | c :: rest =>
    if c = 0x29 then
      if depth = 0 then some ([], rest)
      else (name? (depth - 1) rest).map fun (name, after) => (c :: name, after)
    else
      (name? (if c = 0x28 then depth + 1 else depth) rest).map fun (name, after) =>
        (c :: name, after)

/-- The value that the next directive may use: that of its field, or one that
was not used yet. -/
abbrev Pending := Option Value

/-- The largest width. -/
def widthLimit : Nat := 0x7FFFFFFFFFFFFFFF

/-- The largest precision. -/
def precisionLimit : Nat := 0x7FFFFFFF

/-- A width or a precision at the beginning of a text: a number, or a star for
the value itself. Without one it is nothing. -/
def amount (limit : Nat) (excess : Error) (pending : Pending) (t : Text) :
    Except Error (Option Int × Pending × Text) :=
  match t with
  | c :: rest =>
    if c = star then
      match pending with
      | some (.int n) => .ok (some n, none, rest)
      | some _ => .error .widthNotNumber
      | none => .error .nothingLeft
    else if c.isDigit then
      let n := (t.takeWhile CodePoint.isDigit).foldl (fun n c => 10 * n + (c.val - 0x30)) 0
      if limit < n then .error excess else .ok (some n, pending, t.dropWhile CodePoint.isDigit)
    else .ok (none, pending, t)
  | [] => .ok (none, pending, [])

/-- A shape with a width; a negative one asks for the left side. -/
def Shape.withWidth (shape : Shape) : Option Int → Shape
  | some n => { shape with width := n.natAbs, left := shape.left || n < 0 }
  | none => shape

/-- The shape at the beginning of a text. -/
def shape (pending : Pending) (t : Text) : Except Error (Shape × Pending × Text) := do
  let marked := Shape.ofMarks (t.takeWhile isMark)
  let (width, pending, t) ← amount widthLimit .wideWidth pending (t.dropWhile isMark)
  let sized := marked.withWidth width
  match t with
  | c :: rest =>
    if c = point then
      let (precision, pending, t) ← amount precisionLimit .widePrecision pending rest
      return ({ sized with precision := some (precision.getD 0).toNat }, pending, t)
    else return (sized, pending, t)
  | [] => return (sized, pending, [])

/-- A letter for a size, which has no meaning, is skipped. -/
def skipSize : Text → Text
  | c :: rest => if [0x68, 0x6C, 0x4C].contains c then rest else c :: rest
  | [] => []

/-- The directive at the beginning of a text of the given whole size: what it
says, and what follows. -/
def directive (size : Nat) (pending : Pending) (t : Text) : Except Error (Text × Text) := do
  let (shape, pending, t) ← shape pending t
  match skipSize t with
  | [] => throw .unfinished
  | form :: rest =>
    match pending with
    | none => throw .nothingLeft
    | some value => return (← shape.apply form (size - (rest.length + 1)) value, rest)

/-- Fill in a template of the given whole size from a place on. -/
def fillFrom (size : Nat) (find? : Text → Option Value) : Nat → Pending → Text → Except Error Text
  | 0, _, _ => .ok []
  | _ + 1, _, [] => .ok []
  | fuel + 1, pending, c :: rest =>
    if c ≠ percent then (fillFrom size find? fuel pending rest).map (c :: ·)
    else
      match rest with
      | [] => .error .unfinished
      | d :: after =>
        if d = percent then (fillFrom size find? fuel pending after).map (d :: ·)
        else if d = 0x28 then
          match name? 0 after with
          | none => .error .openName
          | some (name, after) =>
            match find? name with
            | none => .error (.unknownField name)
            | some value => do
              let (said, after) ← directive size (some value) after
              return said ++ (← fillFrom size find? fuel none after)
        else do
          let (said, after) ← directive size pending (d :: after)
          return said ++ (← fillFrom size find? fuel none after)

/-- The template that stands for an empty one. -/
def messageOnly : Text := "%(message)s"

/-- Fill in a template with fields. A directive without a field can use all of
them at once, as long as none was used before it. -/
def fill (fields : List (Text × Value)) (template : Text) : Except Error Text :=
  let template := if template = [] then messageOnly else template
  if isUsable template then
    fillFrom template.length (Value.find? fields) (template.length + 1) (some (.table fields))
      template
  else .error (.withoutField template)

end NamespaceScan.Log.Template

namespace NamespaceScan.Log

/-- The fields of a record by name. -/
def Record.fields (r : Record) (colored : Bool) (around : Surroundings) : List (Text × Value) :=
  let own : List (Text × Value) :=
    [("name", .text r.logger), ("msg", .text r.message),
     ("levelname", .text (r.level.label colored)), ("levelno", .int r.level.rank),
     ("message", .text r.message), ("asctime", .text around.time)]
  own ++ around.place

/-- A record in the form of a template. -/
def Record.inTemplate (r : Record) (template : Text) (colored : Bool) (around : Surroundings) :
    Except Template.Error Text :=
  Template.fill (r.fields colored around) template

end NamespaceScan.Log

import NamespaceScan.Text.Decimal
import NamespaceScan.Text.Quoted

/-!
# Values

The values that a configuration file can hold and that an error can carry as
details.
-/

namespace NamespaceScan

/-- A value of a data file. -/
inductive Value where
  | null
  | bool (b : Bool)
  | int (n : Int)
  | real (r : Decimal)
  | text (t : Text)
  | list (items : List Value)
  | table (entries : List (Text × Value))
  | date
  | time
  | moment

namespace Value

instance : Inhabited Value := ⟨.null⟩

/-- The word for the type of a value. -/
def typeWord : Value → Text
  | .null => "NoneType"
  | .bool _ => "bool"
  | .int _ => "int"
  | .real _ => "float"
  | .text _ => "str"
  | .list _ => "list"
  | .table _ => "dict"
  | .date => "date"
  | .time => "time"
  | .moment => "datetime"

/-- The word for the type of a value where the message is about what values of
the type can do. -/
def longTypeWord (value : Value) : Text :=
  match value with
  | .date | .time | .moment => Text.concat ["datetime.", value.typeWord]
  | _ => value.typeWord

/-- A value that counts as absent: nothing, false, zero, or without content. -/
def isVoid : Value → Bool
  | .null => true
  | .bool b => !b
  | .int n => n = 0
  | .real r => r.isZero
  | .text t => t.isEmpty
  | .list items => items.isEmpty
  | .table entries => entries.isEmpty
  | .date | .time | .moment => false

/-- The value of a key. -/
def find? (entries : List (Text × Value)) (key : Text) : Option Value :=
  (entries.find? fun entry => entry.1 = key).map (·.2)

mutual

/-- A value as it stands inside of another one. -/
def quoted : Value → Text
  | .null => "None"
  | .bool b => if b then "True" else "False"
  | .int n => Text.ofInt n
  | .real r => r.shown
  | .text t => t.quoted
  | .list items => "[" ++ Text.joinWith ", " (quotedItems items) ++ "]"
  | .table entries => "\x7b" ++ Text.joinWith ", " (quotedEntries entries) ++ "\x7d"
  | .date => "date"
  | .time => "time"
  | .moment => "datetime"

/-- The items of a list, each as it stands inside. -/
def quotedItems : List Value → List Text
  | [] => []
  | item :: rest => item.quoted :: quotedItems rest

/-- The entries of a table, each as `key: value`. -/
def quotedEntries : List (Text × Value) → List Text
  | [] => []
  | (key, value) :: rest => (key.quoted ++ ": " ++ value.quoted) :: quotedEntries rest

end

/-- A value on its own: a text without quotes. -/
def shown : Value → Text
  | .text t => t
  | value => value.quoted

/-- Several values in parentheses. -/
def tupled (items : List Value) : Text :=
  match items with
  | [item] => "(" ++ item.quoted ++ ",)"
  | _ => "(" ++ Text.joinWith ", " (quotedItems items) ++ ")"

end Value

end NamespaceScan

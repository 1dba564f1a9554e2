import NamespaceScan.Text.Utf16

/-!
# Documents

Structured data as it is written to a data file: texts, numbers, lists and
tables. Each item of a list and each entry of a table stands on a line of its
own, two columns further in than what encloses it. Everything but plain ASCII
is escaped by its UTF-16 code units, so the text can always be encoded.
-/

namespace NamespaceScan

/-- Structured data. -/
inductive Document where
  | number (n : Nat)
  | text (t : Text)
  | list (items : List Document)
  | table (entries : List (Text × Document))

namespace Document

/-- A code unit as an escape. -/
def unitEscape (unit : Nat) : Text := "\\u" ++ Text.hexDigits 4 unit

/-- One code point inside of quotes. -/
def escaped (c : CodePoint) : Text :=
  if c = 0x22 then "\\\""
  else if c = 0x5C then "\\\\"
  else if c = 0x0A then "\\n"
  else if c = 0x0D then "\\r"
  else if c = 0x09 then "\\t"
  else if c = 0x08 then "\\b"
  else if c = 0x0C then "\\f"
  else if 0x20 ≤ c.val ∧ c.val < 0x7F then [c]
  else (Utf16.unitsOf c).flatMap unitEscape

/-- A text between quotes. -/
def quoted (t : Text) : Text := 0x22 :: t.flatMap escaped ++ [0x22]

/-- A new line at a depth. -/
def newLine (depth : Nat) : Text := 0x0A :: Text.repeated (2 * depth) 0x20

/-- Items between brackets, each on its own line; nothing stands between the
brackets when there are no items. -/
def bracketed (opening closing : CodePoint) (depth : Nat) (items : List Text) : Text :=
  if items.isEmpty then [opening, closing]
  else
    Text.concat
      [[opening], newLine (depth + 1), Text.joinWith (0x2C :: newLine (depth + 1)) items,
        newLine depth, [closing]]

mutual

/-- The text of a document that stands at a depth. -/
def textAt (depth : Nat) : Document → Text
  | .number n => Text.ofNat n
  | .text t => quoted t
  | .list items => bracketed 0x5B 0x5D depth (itemTexts (depth + 1) items)
  | .table entries => bracketed 0x7B 0x7D depth (entryTexts (depth + 1) entries)

/-- The texts of the items of a list. -/
def itemTexts (depth : Nat) : List Document → List Text
  | [] => []
  | item :: rest => textAt depth item :: itemTexts depth rest

/-- The texts of the entries of a table. -/
def entryTexts (depth : Nat) : List (Text × Document) → List Text
  | [] => []
  | (key, value) :: rest => (quoted key ++ ": " ++ textAt depth value) :: entryTexts depth rest

end

/-- The text of a document. -/
def toText (d : Document) : Text := textAt 0 d

end Document

end NamespaceScan

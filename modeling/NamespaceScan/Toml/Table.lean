import NamespaceScan.Toml.Quoted

/-!
# Tables under construction

A document fills nested tables from its statements. A key leads from table to
table and creates those that are missing; where it meets a list, it goes on in
the last item. Keys can be closed to later statements: a key that was declared
cannot be declared again, and what was written as one value cannot be changed.
-/

namespace NamespaceScan.Toml

/-- A table: keys and values in the order of their definition. -/
abbrev Table := List (Text × Value)

/-- Why octets hold no table. -/
inductive Refused where
  /-- They spell no document, for a reason in words. -/
  | malformed (message : Text)
  /-- Another error: the octets are no text, or the document goes beyond a limit. -/
  | beyond (fault : Fault)

/-- Reads the table that octets hold. -/
abbrev TableReader := ByteArray → Except Refused Table

/-- Put a value under a key of a table. -/
def Table.put (name : Text) (value : Value) : Table → Table
  | [] => [(name, value)]
  | entry :: rest =>
    if entry.1 = name then (name, value) :: rest else entry :: Table.put name value rest

/-- Change the table that a key leads to. There is no answer where something
else than a table is in the way. -/
def Table.change (throughLists : Bool) (f : Table → Option Table) : Key → Table → Option Table
  | [], t => f t
  | name :: rest, t =>
    match Value.find? t name with
    | none => (Table.change throughLists f rest []).map fun inner => t.put name (.table inner)
    | some (.table inner) =>
      (Table.change throughLists f rest inner).map fun inner => t.put name (.table inner)
    | some (.list items) =>
      match throughLists, items.getLast? with
      | true, some (.table inner) =>
        (Table.change throughLists f rest inner).map fun inner =>
          t.put name (.list (items.dropLast ++ [.table inner]))
      | _, _ => none
    | some _ => none

/-- Define a key of a table that has none of that name. -/
def Table.define (name : Text) (value : Value) (t : Table) : Option Table :=
  if (Value.find? t name).isSome then none else some (t.put name value)

/-- Add an empty table to the list under a key. -/
def Table.extend (name : Text) (t : Table) : Option Table :=
  match Value.find? t name with
  | none => some (t.put name (.list [.table []]))
  | some (.list items) => some (t.put name (.list (items ++ [.table []])))
  | some _ => none

/-- Values that close their key: lists and tables. -/
def isComposite : Value → Bool
  | .list _ | .table _ => true
  | _ => false

/-- A key in an error message. -/
def shownKey (k : Key) : Text := Value.tupled (k.map .text)

/-- A document under construction. -/
structure Draft where
  root : Table := []
  /-- The table to which statements belong. -/
  header : Key := []
  /-- Keys of values that cannot be changed, nor anything below them. -/
  frozen : List Key := []
  /-- Keys of tables that cannot be declared again. -/
  declared : List Key := []
  /-- Keys that count as declared from the next header on. -/
  pending : List Key := []

namespace Draft

/-- The key, or one that it begins with, is frozen. -/
def isFrozen (d : Draft) (k : Key) : Bool := d.frozen.any (·.isPrefixOf k)

/-- The key was declared. -/
def isDeclared (d : Draft) (k : Key) : Bool := d.declared.contains k

/-- At a new header, the pending keys count as declared. -/
def settle (d : Draft) : Draft := { d with declared := d.pending ++ d.declared, pending := [] }

/-- Forget what is known about a key and all that begin with it. -/
def release (d : Draft) (k : Key) : Draft :=
  { d with
    frozen := d.frozen.filter fun other => !k.isPrefixOf other
    declared := d.declared.filter fun other => !k.isPrefixOf other }

/-- Declare a table. -/
def declareTable (d : Draft) (k : Key) : Except Text Draft :=
  if d.isDeclared k || d.isFrozen k then
    .error (Text.concat ["Cannot declare ", shownKey k, " twice"])
  else
    match Table.change true some k d.root with
    | some root => .ok { d with root, header := k, declared := k :: d.declared }
    | none => .error "Cannot overwrite a value"

/-- Declare a further table of a list. -/
def declareItem (d : Draft) (k : Key) : Except Text Draft :=
  if d.isFrozen k then .error ("Cannot mutate immutable namespace " ++ shownKey k)
  else
    match Table.change true (Table.extend (k.getLast?.getD [])) k.dropLast d.root with
    | some root =>
      let d := d.release k
      .ok { d with root, header := k, declared := k :: d.declared }
    | none => .error "Cannot overwrite a value"

/-- The tables that a dotted key goes through. -/
def inner (d : Draft) (k : Key) : List Key :=
  (List.range (k.length - 1)).map fun i => d.header ++ k.take (i + 1)

/-- Define a key of the current table. -/
def define (d : Draft) (k : Key) (value : Value) : Except Text Draft :=
  let parent := d.header ++ k.dropLast
  match (d.inner k).find? d.isDeclared with
  | some taken => .error ("Cannot redefine namespace " ++ shownKey taken)
  | none =>
    if d.isFrozen parent then .error ("Cannot mutate immutable namespace " ++ shownKey parent)
    else
      match Table.change true (Table.define (k.getLast?.getD []) value) parent d.root with
      | some root =>
        .ok { d with
          root
          pending := d.inner k ++ d.pending
          frozen := if isComposite value then (d.header ++ k) :: d.frozen else d.frozen }
      | none => .error "Cannot overwrite a value"

end Draft

end NamespaceScan.Toml

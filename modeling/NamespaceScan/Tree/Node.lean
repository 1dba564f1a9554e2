import NamespaceScan.Text.Quoted

/-!
# Syntax nodes

The small tree that the extraction works on: calls, names, property accesses,
string literals and everything else. A call's first child is its callee and
the other children are its arguments in source order.

`Node.walk` lists a tree with an explicit stack, so that depth costs nothing;
`Node.preorder` is the recursive order that it lists.
-/

namespace NamespaceScan

/-- What a node stands for. -/
inductive Kind where
  | script
  | call
  | name
  | this
  | getprop
  | getelem
  | string
  | template
  | number
  | other
deriving DecidableEq

namespace Kind

/-- All kinds. -/
def all : List Kind :=
  [.script, .call, .name, .this, .getprop, .getelem, .string, .template, .number, .other]

/-- The word for a kind. -/
def word : Kind → String
  | .script => "script"
  | .call => "call"
  | .name => "name"
  | .this => "this"
  | .getprop => "getprop"
  | .getelem => "getelem"
  | .string => "string"
  | .template => "template"
  | .number => "number"
  | .other => "other"

/-- The kind that a word names. -/
def ofWord? (word : Text) : Option Kind := all.find? fun kind => (kind.word : Text) = word

end Kind

/-- A node with its name (identifiers and property accesses), its value (string
literals), its line (counted from one, zero when unknown) and its children. -/
structure Node where
  kind : Kind
  name : Option Text := none
  value : Option Text := none
  line : Nat := 0
  children : List Node := []

instance : Inhabited Node := ⟨{ kind := .other }⟩

namespace Node

/-! ## Building -/

/-- An identifier. -/
def ofName (name : Text) (line : Nat := 0) : Node := { kind := .name, name := some name, line }

/-- An access to a property of a target. -/
def ofProperty (target : Node) (property : Text) (line : Nat := 0) : Node :=
  { kind := .getprop, name := some property, line, children := [target] }

/-- A string literal. -/
def ofValue (value : Text) (line : Nat := 0) : Node :=
  { kind := .string, value := some value, line }

/-- A call of a callee with arguments. -/
def ofCall (callee : Node) (arguments : List Node) (line : Nat := 0) : Node :=
  { kind := .call, line, children := callee :: arguments }

/-- The full stop that joins the segments of a dotted name. -/
def dot : CodePoint := 0x2E

/-- The chain of a name and property accesses that a dotted text spells. -/
def ofDotted (dotted : Text) (line : Nat := 0) : Node :=
  match dotted.splitOn dot with
  | [] => ofName [] line
  | head :: properties =>
    properties.foldl (fun target property => ofProperty target property line) (ofName head line)

/-- The node wrapped `count` times in a node with one child. -/
def wrapped (kind : Kind) (name : Option Text) : Nat → Node → Node
  | 0, node => node
  | count + 1, node => wrapped kind name count { kind, name, children := [node] }

/-! ## Moving around -/

/-- The child after the one at a position. -/
def nextSibling? (n : Node) (index : Nat) : Option Node := n.children[index + 1]?

theorem sizeOf_lt_of_mem_children {n c : Node} (h : c ∈ n.children) : sizeOf c < sizeOf n := by
  cases n with
  | mk kind name value line children =>
    have smaller := List.sizeOf_lt_of_mem h
    simp at smaller ⊢
    omega

/-- The node, then the trees below its children from left to right. -/
def preorder (n : Node) : List Node :=
  n :: (n.children.attach.map fun child => child.val.preorder).flatten
termination_by n
decreasing_by exact sizeOf_lt_of_mem_children child.property

/-- How many nodes a tree has. -/
def count (n : Node) : Nat :=
  1 + (n.children.attach.map fun child => child.val.count).sum
termination_by n
decreasing_by exact sizeOf_lt_of_mem_children child.property

theorem count_eq (n : Node) : n.count = 1 + (n.children.map count).sum := by
  rw [count]
  congr 2
  exact List.attach_map_val

/-- Visit the trees of a stack from its top, collecting the visited nodes with
the latest first. -/
def walkFrom (stack : List Node) (visited : List Node) : List Node :=
  match stack with
  | [] => visited
  | n :: rest => walkFrom (n.children ++ rest) (n :: visited)
termination_by (stack.map count).sum
decreasing_by
  simp only [List.map_append, List.sum_append, List.map_cons, List.sum_cons, count_eq n]
  omega

/-- All nodes of a tree, parents before children and earlier siblings' trees
before later ones. -/
def walk (n : Node) : List Node := (walkFrom [n] []).reverse

/-! ## Names -/

/-- The segments of a dotted name, added in front of those already found.
A property access needs a name and a target, and the chain ends in a name or
in `this`. -/
def segments? (found : List Text) : Node → Option (List Text)
  | ⟨.getprop, some (c :: name), _, _, target :: _⟩ => segments? ((c :: name) :: found) target
  | ⟨.name, some (c :: name), _, _, _⟩ => some ((c :: name) :: found)
  | ⟨.this, _, _, _, _⟩ => some ("this" :: found)
  | _ => none

/-- The dotted name of a plain chain such as `a.b.c`. -/
def qualifiedName? (n : Node) : Option Text := (n.segments? []).map (Text.joinWith [dot])

/-- A string literal with a value. -/
def isString (n : Node) : Bool := n.kind = .string && n.value.isSome

/-- A one-line description: the kind, the name or else the value, and the number
of children. -/
def describe (n : Node) : Text :=
  let label : Text :=
    match n.name, n.value with
    | some name, _ => " " ++ name.quoted
    | none, some value => " " ++ value.quoted
    | none, none => ""
  Text.concat
    ["<SyntaxNode ", n.kind.word, label, " children=", Text.ofNat n.children.length, ">"]

end Node

end NamespaceScan

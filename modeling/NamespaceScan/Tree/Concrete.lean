import NamespaceScan.OrderedSet

/-!
# Concrete trees

A concrete tree records everything that the grammar recognised: each node has
a type, a range of the source octets, the row where it starts, and flags for
tokens, missing tokens and errors. Children may stand in a field.

`Concrete.errorLines` lists the lines of the errors that are not inside other
errors.
-/

namespace NamespaceScan

/-- A node of a concrete tree. -/
structure Concrete where
  /-- The grammar's name for the construct. -/
  type : String
  /-- The first octet. -/
  start : Nat := 0
  /-- The octet behind the last one. -/
  stop : Nat := 0
  /-- The row of the first octet, counted from zero. -/
  row : Nat := 0
  /-- Not a mere token such as a comma. -/
  named : Bool := true
  /-- Inserted by the grammar, not found in the source. -/
  missing : Bool := false
  /-- An error stands here or below. -/
  hasError : Bool := false
  /-- The role of the node in its parent. -/
  field : Option String := none
  children : List Concrete := []
deriving Inhabited

namespace Concrete

/-- The line of a node, counted from one. -/
def line (n : Concrete) : Nat := n.row + 1

/-- The children that are not mere tokens. -/
def namedChildren (n : Concrete) : List Concrete := n.children.filter (·.named)

/-- The first child in a field. -/
def childByField? (n : Concrete) (field : String) : Option Concrete :=
  n.children.find? fun child => child.field = some field

/-- Comments are never converted. -/
def isComment (n : Concrete) : Bool := n.type = "comment" || n.type = "html_comment"

/-- The node is an error, or stands for a missing token. -/
def isFault (n : Concrete) : Bool := n.type = "ERROR" || n.missing

theorem sizeOf_lt_of_mem_children {n c : Concrete} (h : c ∈ n.children) :
    sizeOf c < sizeOf n := by
  cases n with
  | mk type start stop row named missing hasError field children =>
    have smaller := List.sizeOf_lt_of_mem h
    simp at smaller ⊢
    omega

/-- How many nodes a tree has. -/
def count (n : Concrete) : Nat :=
  1 + (n.children.attach.map fun child => child.val.count).sum
termination_by n
decreasing_by exact sizeOf_lt_of_mem_children child.property

theorem count_eq (n : Concrete) : n.count = 1 + (n.children.map count).sum := by
  rw [count]
  congr 2
  exact List.attach_map_val

/-- The lines of the faults below the nodes of a stack. Nothing below a fault
is searched, nor below a node without errors. -/
def faultLines (stack : List Concrete) (lines : OrderedSet Nat) : OrderedSet Nat :=
  match stack with
  | [] => lines
  | n :: rest =>
    if n.isFault then faultLines rest (lines.insert n.line)
    else if n.hasError then faultLines (n.children ++ rest) lines
    else faultLines rest lines
termination_by (stack.map count).sum
decreasing_by
  all_goals
    simp only [List.map_append, List.sum_append, List.map_cons, List.sum_cons, count_eq n]
    omega

/-- The lines of a tree's errors and missing tokens, in increasing order. -/
def errorLines (root : Concrete) : List Nat :=
  if root.hasError then (faultLines [root] ∅).toList else []

end Concrete

end NamespaceScan

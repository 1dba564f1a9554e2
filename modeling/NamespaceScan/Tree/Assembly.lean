import NamespaceScan.Tree.Convert

/-!
# Assembling a syntax tree

The conversion with a single stack for the whole tree. A concrete node waits on
the stack together with the address of its parent, which is a node of the tree
already. When its turn comes, its own conversion becomes the last child of that
parent, and the concrete nodes below it go on top of the stack.

A node is reached by its address each time that a child is added to it, so deep
and wide trees are better left to `Concrete.convert`, which gives the same tree.
-/

namespace NamespaceScan

/-- Where a node stands in a tree: the positions among the children from the
root down. -/
abbrev Address := List Nat

namespace Node

/-- The node at an address. -/
def at? (n : Node) : Address → Option Node
  | [] => some n
  | i :: rest => n.children[i]?.bind fun child => child.at? rest

/-- Add children behind those of the node at an address. -/
def attach (added : List Node) : Address → Node → Node
  | [], n => { n with children := n.children ++ added }
  | i :: rest, n => { n with children := n.children.modify i (attach added rest) }

/-- How many children the node at an address has. -/
def width (n : Node) (address : Address) : Nat :=
  ((n.at? address).map fun parent => parent.children.length).getD 0

end Node

namespace Concrete

/-- A concrete node that waits to be converted. -/
structure Task where
  node : Concrete
  /-- The address of the node whose child it becomes. -/
  parent : Address

/-- The tasks of the concrete nodes below a node, for the address of its
conversion. -/
def tasks (n : Concrete) (address : Address) : List Task :=
  n.pending.map fun child => ⟨child, address⟩

/-- The work that a stack of tasks stands for. -/
def work (stack : List Task) : Nat := (stack.map fun task => task.node.count).sum

theorem work_tasks_lt (n : Concrete) (address : Address) : work (n.tasks address) < n.count := by
  have fewer := sum_count_pending_lt n
  simpa [work, tasks, Function.comp_def] using fewer

/-- Do the tasks of a stack from its top, adding to a tree. -/
def assembleFrom (data : ByteArray) (tree : Node) (stack : List Task) : Node :=
  match stack with
  | [] => tree
  | task :: rest =>
    if task.node.isComment then assembleFrom data tree rest
    else
      let n := task.node.unwrap
      let address := task.parent ++ [tree.width task.parent]
      assembleFrom data (tree.attach [n.head data] task.parent) (n.tasks address ++ rest)
termination_by work stack
decreasing_by
  · have := count_pos task.node
    simp only [work, List.map_cons, List.sum_cons]
    omega
  · have below := work_tasks_lt task.node.unwrap (task.parent ++ [tree.width task.parent])
    have unwrapped := count_unwrap_le task.node
    simp only [work, List.map_append, List.map_cons, List.sum_append, List.sum_cons] at below ⊢
    omega

/-- The syntax tree of a concrete tree, put together node by node. The root is
neither skipped nor unwrapped. -/
def assemble (data : ByteArray) (root : Concrete) : Node :=
  assembleFrom data (root.head data) (root.tasks [])

end Concrete

end NamespaceScan

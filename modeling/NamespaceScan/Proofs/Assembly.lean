import NamespaceScan.Proofs.Conversion
import NamespaceScan.Tree.Assembly

/-!
# The stack of the whole tree and the recursion

All tasks of the conversion stand on one stack, those of different parents behind each
other, and a parent is in the tree long before its last child. What the stack will make
of the tree is nevertheless determined at every moment: each task adds its whole
subtree, converted by recursion, behind the children that its parent has by then. Doing
one task keeps this result, so a run ends with it.
-/

namespace NamespaceScan

/-! ## Adding children at an address -/

namespace Node

theorem attach_nil (address : Address) (n : Node) : n.attach [] address = n := by
  induction address generalizing n with
  | nil =>
      cases n
      simp [attach]
  | cons i rest ih =>
      have unchanged : attach [] rest = id := funext ih
      cases n
      simp [attach, unchanged]

/-- Children that are added later stand behind those that were added before. -/
theorem attach_attach (early late : List Node) (address : Address) (n : Node) :
    (n.attach early address).attach late address = n.attach (early ++ late) address := by
  induction address generalizing n with
  | nil => simp [attach]
  | cons i rest ih =>
      have combined : attach late rest ∘ attach early rest = attach (early ++ late) rest :=
        funext ih
      simp only [attach, List.modify_modify_eq, combined]

/-- A node that was just added stands behind the children that its parent had. -/
theorem attach_to_added (child : Node) (added : List Node) (address : Address) (n : Node) :
    (n.attach [child] address).attach added (address ++ [n.width address]) =
      n.attach [{ child with children := child.children ++ added }] address := by
  induction address generalizing n with
  | nil => simp [attach, width, at?, List.modify_eq_take_drop]
  | cons i rest ih =>
      simp only [attach, List.cons_append, List.modify_modify_eq]
      congr 1
      by_cases inside : i < n.children.length
      · have sameWidth : n.width (i :: rest) = n.children[i].width rest := by
          simp [width, at?, inside]
        rw [List.modify_eq_take_cons_drop inside, List.modify_eq_take_cons_drop inside, sameWidth]
        exact congrArg (fun c => _ ++ c :: _) (ih n.children[i])
      · have outside := Nat.le_of_not_lt inside
        rw [List.modify_eq_self outside, List.modify_eq_self outside]

end Node

namespace Concrete

/-! ## What a stack stands for -/

/-- Do a task by recursion: the whole subtree is added at once. -/
def Task.finish (data : ByteArray) (tree : Node) (task : Task) : Node :=
  if task.node.isComment then tree
  else tree.attach [task.node.unwrap.reduce data] task.parent

/-- What the tasks of a stack make of a tree. -/
def finish (data : ByteArray) (tree : Node) (stack : List Task) : Node :=
  stack.foldl (Task.finish data) tree

/-- Tasks with one parent add their subtrees in order, comments apart. -/
theorem finish_siblings (data : ByteArray) (tree : Node) (children : List Concrete)
    (address : Address) :
    finish data tree (children.map fun child => ⟨child, address⟩) =
      tree.attach
        (((children.filter fun child => !child.isComment).map unwrap).map (reduce data))
        address := by
  induction children generalizing tree with
  | nil => exact (Node.attach_nil address tree).symm
  | cons child rest ih =>
      have step : finish data tree ((child :: rest).map fun child => ⟨child, address⟩) =
          finish data (Task.finish data tree ⟨child, address⟩)
            (rest.map fun child => ⟨child, address⟩) := rfl
      rw [step, ih, Task.finish]
      by_cases comment : child.isComment
      · simp [comment]
      · simp [comment, Node.attach_attach]

/-- Adding a node without children and then what its tasks stand for is adding its
conversion. -/
theorem finish_tasks (data : ByteArray) (tree : Node) (n : Concrete) (parent : Address) :
    finish data (tree.attach [n.head data] parent) (n.tasks (parent ++ [tree.width parent])) =
      tree.attach [n.reduce data] parent := by
  rw [tasks, finish_siblings, Node.attach_to_added, children_head, List.nil_append, reduce_eq,
    successors]

theorem finish_append (data : ByteArray) (tree : Node) (first rest : List Task) :
    finish data tree (first ++ rest) = finish data (finish data tree first) rest :=
  List.foldl_append

/-- Doing the task on top of the stack keeps what the stack stands for. -/
theorem finish_cons (data : ByteArray) (tree : Node) (task : Task) (rest : List Task) :
    finish data tree (task :: rest) =
      if task.node.isComment then finish data tree rest
      else
        finish data (tree.attach [task.node.unwrap.head data] task.parent)
          (task.node.unwrap.tasks (task.parent ++ [tree.width task.parent]) ++ rest) := by
  have top : finish data tree (task :: rest) = finish data (task.finish data tree) rest := rfl
  rw [top, Task.finish, finish_append, finish_tasks]
  split <;> rfl

theorem assembleFrom_eq_finish (data : ByteArray) (tree : Node) (stack : List Task) :
    assembleFrom data tree stack = finish data tree stack := by
  induction tree, stack using assembleFrom.induct data with
  | case1 tree =>
      rw [assembleFrom]
      rfl
  | case2 tree task rest comment ih =>
      rw [assembleFrom, finish_cons, if_pos comment, if_pos comment]
      exact ih
  | case3 tree task rest plain n address ih =>
      rw [assembleFrom, finish_cons, if_neg plain, if_neg plain]
      exact ih

theorem assemble_eq_reduce (data : ByteArray) (root : Concrete) :
    root.assemble data = root.reduce data := by
  rw [assemble, assembleFrom_eq_finish, tasks, finish_siblings, reduce_eq, Node.attach,
    children_head, List.nil_append, successors]

/-- The recursive definition: a node keeps what it is by itself, and its children are the
conversions of its waiting nodes in order, comments apart, each taken out of its
parentheses. The stack of the whole tree gives this tree, and so does the stack of
unfinished nodes. -/
theorem assemble_eq_recursion (data : ByteArray) :
    (∀ n : Concrete, n.reduce data =
      { n.head data with
        children := (n.pending.filter fun child => !child.isComment).map fun child =>
          child.unwrap.reduce data }) ∧
      ∀ root : Concrete,
        root.assemble data = root.reduce data ∧ root.convert data = root.reduce data := by
  constructor
  · intro n
    rw [reduce_eq, successors, List.map_map]
    rfl
  · intro root
    exact ⟨assemble_eq_reduce data root, convert_eq_reduce data root⟩

end Concrete

end NamespaceScan

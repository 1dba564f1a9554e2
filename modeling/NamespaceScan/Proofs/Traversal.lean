import Mathlib.Logic.Relation
import NamespaceScan.Tree.Node

/-!
# The nodes of a syntax tree

A node stands in a tree when it is the root or stands below one of the root's
children. The walk with an explicit stack lists the recursive preorder, and that
order holds exactly the nodes that stand in the tree.
-/

namespace NamespaceScan.Node

/-- The tree contains the node: as its root, or at any depth below it. -/
def Contains (root : Node) : Node → Prop :=
  Relation.ReflTransGen (fun parent child => child ∈ parent.children) root

theorem contains_self (root : Node) : root.Contains root :=
  Relation.ReflTransGen.refl

theorem contains_iff {root n : Node} :
    root.Contains n ↔ n = root ∨ ∃ child ∈ root.children, child.Contains n := by
  rw [Contains, Relation.ReflTransGen.cases_head_iff, eq_comm]
  rfl

/-- A property of all trees follows from the trees below the root. -/
@[elab_as_elim]
theorem childrenInduction {motive : Node → Prop}
    (step : ∀ n, (∀ child ∈ n.children, motive child) → motive n) (n : Node) : motive n :=
  step n fun child _ => childrenInduction step child
termination_by n
decreasing_by exact sizeOf_lt_of_mem_children ‹child ∈ n.children›

theorem preorder_eq (n : Node) : n.preorder = n :: n.children.flatMap preorder := by
  rw [preorder, List.flatMap_def]
  congr 2
  exact List.attach_map_val

/-- The walk visits the trees of the stack one after the other. -/
theorem walkFrom_eq (stack visited : List Node) :
    walkFrom stack visited = (stack.flatMap preorder).reverse ++ visited := by
  induction stack, visited using walkFrom.induct with
  | case1 visited => simp [walkFrom]
  | case2 visited n rest ih =>
      rw [walkFrom, ih, List.flatMap_append, List.flatMap_cons, preorder_eq n]
      simp

theorem walk_eq_preorder (n : Node) : n.walk = n.preorder := by
  simp [walk, walkFrom_eq]

theorem mem_preorder_iff {root n : Node} : n ∈ root.preorder ↔ root.Contains n := by
  induction root using childrenInduction with
  | step root ih =>
      rw [preorder_eq, List.mem_cons, List.mem_flatMap, contains_iff]
      constructor
      · rintro (here | ⟨child, member, below⟩)
        · exact Or.inl here
        · exact Or.inr ⟨child, member, (ih child member).mp below⟩
      · rintro (here | ⟨child, member, below⟩)
        · exact Or.inl here
        · exact Or.inr ⟨child, member, (ih child member).mpr below⟩

/-- The walk visits exactly the nodes that stand in the tree. -/
theorem mem_walk_iff {root n : Node} : n ∈ root.walk ↔ root.Contains n := by
  rw [walk_eq_preorder, mem_preorder_iff]

end NamespaceScan.Node

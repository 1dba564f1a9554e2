import Mathlib.Data.List.Basic
import NamespaceScan.Proofs.Traversal
import NamespaceScan.Tree.Assembly

/-!
# The order of the walk

Equal nodes may stand at several places of a tree, and only their addresses tell them apart.
`Node.addresses` lists the address of every node. It is a complete list in strict order: a
parent precedes what stands below it, and everything below a node precedes its later siblings.
The walk visits the nodes at exactly these addresses, one after the other.
-/

namespace NamespaceScan

/-! ## The order of addresses -/

namespace Address

/-- The first address comes before the second one. Either it belongs to a node above the other,
or the two ways part and the first one goes on to an earlier sibling. -/
inductive Precedes : Address → Address → Prop where
  | above (a : Address) (i : Nat) (rest : Address) : Precedes a (a ++ i :: rest)
  | earlier (common : Address) {i j : Nat} (less : i < j) (a b : Address) :
      Precedes (common ++ i :: a) (common ++ j :: b)

theorem Precedes.cons {a b : Address} (i : Nat) (precedes : Precedes a b) :
    Precedes (i :: a) (i :: b) := by
  cases precedes with
  | above _ j rest => exact Precedes.above (i :: a) j rest
  | earlier common less a b => exact Precedes.earlier (i :: common) less a b

theorem Precedes.ne {a b : Address} (precedes : Precedes a b) : a ≠ b := by
  cases precedes with
  | above _ i rest => simp
  | earlier common less a b =>
      intro same
      have sameStep := List.head_eq_of_cons_eq (List.append_cancel_left same)
      exact absurd sameStep (Nat.ne_of_lt less)

/-- The members of a list stand at increasing positions. -/
theorem pairwise_positions {α : Type} (members : List α) :
    members.zipIdx.Pairwise fun first second => first.2 < second.2 := by
  apply List.pairwise_map.mp
  rw [List.zipIdx_map_snd]
  exact List.pairwise_lt_range'

end Address

namespace Node

/-! ## The addresses of a tree -/

/-- The addresses of all nodes: the root first, then those below each of its children, from left
to right. -/
def addresses (n : Node) : List Address :=
  [] :: n.children.attach.zipIdx.flatMap fun (child, i) => child.val.addresses.map (i :: ·)
termination_by n
decreasing_by exact sizeOf_lt_of_mem_children child.property

theorem addresses_eq (n : Node) :
    n.addresses =
      [] :: n.children.zipIdx.flatMap fun (child, i) => child.addresses.map (i :: ·) := by
  have unattached : n.children.attach.zipIdx.map (Prod.map Subtype.val id) = n.children.zipIdx := by
    rw [List.map_zipIdx, List.attach_map_subtype_val]
  rw [addresses, ← unattached, List.flatMap_map]
  rfl

theorem cons_mem_addresses_iff {n : Node} {i : Nat} {rest : Address} :
    i :: rest ∈ n.addresses ↔ ∃ child, n.children[i]? = some child ∧ rest ∈ child.addresses := by
  rw [addresses_eq, List.mem_cons, List.mem_flatMap]
  constructor
  · rintro (root | ⟨⟨child, j⟩, member, below⟩)
    · cases root
    · rcases List.mem_map.mp below with ⟨address, inside, same⟩
      cases same
      exact ⟨child, List.mem_zipIdx_iff_getElem?.mp member, inside⟩
  · rintro ⟨child, position, inside⟩
    exact Or.inr ⟨(child, i), List.mem_zipIdx_iff_getElem?.mpr position,
      List.mem_map_of_mem inside⟩

/-- The addresses of a tree are those at which a node stands. -/
theorem mem_addresses_iff {n : Node} {a : Address} : a ∈ n.addresses ↔ (n.at? a).isSome := by
  induction a generalizing n with
  | nil =>
      rw [addresses_eq]
      simp [at?]
  | cons i rest ih =>
      rw [cons_mem_addresses_iff, at?]
      cases n.children[i]? with
      | none => simp
      | some child => simpa using ih

theorem pairwise_precedes_addresses (n : Node) : n.addresses.Pairwise Address.Precedes := by
  induction n using childrenInduction with
  | step n ih =>
      rw [addresses_eq, List.pairwise_cons, List.pairwise_flatMap]
      constructor
      · intro below member
        rcases List.mem_flatMap.mp member with ⟨⟨child, i⟩, -, inside⟩
        rcases List.mem_map.mp inside with ⟨rest, -, rfl⟩
        exact Address.Precedes.above [] i rest
      constructor
      · rintro ⟨child, i⟩ member
        apply List.pairwise_map.mpr
        exact (ih child (List.fst_mem_of_mem_zipIdx member)).imp (Address.Precedes.cons i)
      · apply (Address.pairwise_positions n.children).imp
        rintro ⟨first, i⟩ ⟨second, j⟩ less a inFirst b inSecond
        rcases List.mem_map.mp inFirst with ⟨a, -, rfl⟩
        rcases List.mem_map.mp inSecond with ⟨b, -, rfl⟩
        exact Address.Precedes.earlier [] less a b

theorem map_at?_cons {n child : Node} {i : Nat} (position : n.children[i]? = some child)
    (below : List Address) : (below.map (i :: ·)).map n.at? = below.map child.at? := by
  rw [List.map_map]
  apply List.map_congr_left
  intro rest _
  rw [Function.comp_apply, at?, position, Option.bind_some]

/-- At the addresses of a tree, in their order, stand the nodes of its preorder. -/
theorem map_at?_addresses (n : Node) : n.addresses.map n.at? = n.preorder.map some := by
  induction n using childrenInduction with
  | step n ih =>
      have children : ∀ placed ∈ n.children.zipIdx,
          (placed.1.addresses.map (placed.2 :: ·)).map n.at? = placed.1.preorder.map some := by
        rintro ⟨child, i⟩ member
        rw [map_at?_cons (List.mem_zipIdx_iff_getElem?.mp member)]
        exact ih child (List.fst_mem_of_mem_zipIdx member)
      calc n.addresses.map n.at?
          = some n :: n.children.zipIdx.flatMap fun placed =>
              (placed.1.addresses.map (placed.2 :: ·)).map n.at? := by
            rw [addresses_eq, List.map_cons, List.map_flatMap, at?]
        _ = some n :: n.children.zipIdx.flatMap fun placed => placed.1.preorder.map some := by
            rw [List.flatMap_congr children]
        _ = some n :: (n.children.zipIdx.map Prod.fst).flatMap fun child =>
              child.preorder.map some := by
            rw [List.flatMap_map]
        _ = n.preorder.map some := by
            rw [List.zipIdx_map_fst, preorder_eq, List.map_cons, List.map_flatMap]

/-! ## The walk -/

/-- The walk is the recursive preorder: the node, and then the walks of its children from left to
right. It visits the node of every address once, in the strict order of the addresses. -/
theorem walk_in_order (n : Node) :
    n.walk = n.preorder ∧ n.preorder = n :: n.children.flatMap preorder ∧
      n.addresses.Nodup ∧ n.addresses.Pairwise Address.Precedes ∧
      (∀ a, a ∈ n.addresses ↔ (n.at? a).isSome) ∧
      n.walk.map some = n.addresses.map n.at? := by
  have ordered := pairwise_precedes_addresses n
  have once : n.addresses.Nodup := ordered.imp Address.Precedes.ne
  refine ⟨walk_eq_preorder n, preorder_eq n, once, ordered, fun _ => mem_addresses_iff, ?_⟩
  rw [walk_eq_preorder, map_at?_addresses]

end Node

end NamespaceScan

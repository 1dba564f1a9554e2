import NamespaceScan.Extraction
import NamespaceScan.Proofs.OrderedSet
import NamespaceScan.Proofs.Traversal

/-!
# What an extraction finds

One node adds at most one namespace to one of the two sets, and visiting nodes
adds what each of them contributes. The extraction of a tree therefore holds
exactly the first arguments of the recognised calls that stand in the tree,
whatever the extractor held before.
-/

namespace NamespaceScan

theorem Role.ofCallee?_eq_some_iff {name : Text} {role : Role} :
    Role.ofCallee? name = some role ↔ name = role.callee := by
  constructor
  · intro found
    rw [ofCallee?] at found
    split at found
    · rename_i isProvide
      cases found
      exact isProvide
    · split at found
      · rename_i isRequire
        cases found
        exact isRequire
      · cases found
  · rintro rfl
    cases role <;> decide

namespace Node

/-- The node is a call. Its callee has the given dotted name, and its first
argument is a string literal with the given value. -/
def Calls (n : Node) (name value : Text) : Prop :=
  n.kind = .call ∧ ∃ callee argument rest, n.children = callee :: argument :: rest ∧
    callee.qualifiedName? = some name ∧ argument.kind = .string ∧ argument.value = some value

theorem literalCall?_eq_some_iff {n : Node} {name value : Text} :
    n.literalCall? = some (name, value) ↔ n.Calls name value := by
  constructor
  · intro found
    unfold literalCall? at found
    split at found
    · rename_i callee argument isCall first second
      obtain ⟨rest, children⟩ := List.head?_eq_some_iff.mp first
      obtain ⟨more, rfl⟩ : ∃ more, rest = argument :: more := by
        rw [nextSibling?, children] at second
        exact List.head?_eq_some_iff.mp (List.head?_eq_getElem? ▸ second)
      obtain ⟨known, named, afterName⟩ := Option.bind_eq_some_iff.mp found
      split at afterName
      · rename_i isString
        obtain ⟨literal, valued, pair⟩ := Option.map_eq_some_iff.mp afterName
        cases pair
        have kind : argument.kind = .string :=
          of_decide_eq_true (Bool.and_eq_true_iff.mp isString).1
        exact ⟨isCall, callee, argument, more, children, named, kind, valued⟩
      · cases afterName
    · cases found
  · rintro ⟨isCall, callee, argument, rest, children, named, isString, literal⟩
    simp [literalCall?, nextSibling?, Node.isString, isCall, children, named, isString, literal]

/-- A node contributes exactly when it is a recognised call. -/
theorem contribution?_eq_some_iff {n : Node} {role : Role} {value : Text} :
    n.contribution? = some (role, value) ↔ n.Calls role.callee value := by
  rw [← literalCall?_eq_some_iff, contribution?, Option.bind_eq_some_iff]
  simp only [Option.map_eq_some_iff, Role.ofCallee?_eq_some_iff, Prod.mk.injEq, Prod.exists]
  constructor
  · rintro ⟨name, _, called, known, rfl, rfl, rfl⟩
    exact called
  · intro called
    exact ⟨_, _, called, _, rfl, rfl, rfl⟩

end Node

namespace Extraction

/-- The namespaces that were found in a role. -/
def names (e : Extraction) : Role → Names
  | .provide => e.provides
  | .require => e.requires

@[simp]
theorem not_mem_names_empty (role : Role) (s : Text) : s ∉ (∅ : Extraction).names role := by
  cases role <;> exact OrderedSet.not_mem_empty s

theorem mem_names_record_iff {e : Extraction} {found : Role × Text} {role : Role} {s : Text} :
    s ∈ (e.record found).names role ↔ found = (role, s) ∨ s ∈ e.names role := by
  rcases found with ⟨actual, name⟩
  cases actual <;> cases role <;> simp [record, names, eq_comm]

/-- One visit adds what the node contributes, and nothing else. -/
theorem mem_names_visit_iff {e : Extraction} {n : Node} {role : Role} {s : Text} :
    s ∈ (e.visit n).names role ↔ n.Calls role.callee s ∨ s ∈ e.names role := by
  rw [← Node.contribution?_eq_some_iff, visit]
  cases contribution : n.contribution? with
  | none => simp
  | some found => simp [mem_names_record_iff]

/-- A sequence of visits adds what its nodes contribute, and nothing else. -/
theorem mem_names_foldl_visit_iff {e : Extraction} {nodes : List Node} {role : Role}
    {s : Text} :
    s ∈ (nodes.foldl visit e).names role ↔
      (∃ n ∈ nodes, n.Calls role.callee s) ∨ s ∈ e.names role := by
  induction nodes generalizing e with
  | nil => simp
  | cons n rest ih =>
      rw [List.foldl_cons, ih, mem_names_visit_iff]
      simp only [List.mem_cons, exists_eq_or_imp]
      exact or_left_comm.trans or_assoc.symm

/-- The extraction of a tree finds the recognised calls that stand in it. -/
theorem mem_names_ofTree_iff (root : Node) (role : Role) (s : Text) :
    s ∈ (ofTree root).names role ↔ ∃ n, root.Contains n ∧ n.Calls role.callee s := by
  rw [ofTree, mem_names_foldl_visit_iff, or_iff_left (not_mem_names_empty role s)]
  simp only [Node.mem_walk_iff]

/-- Extracting a tree forgets what was found before. The provided namespaces are
then the first arguments of the calls of `goog.provide` in the tree, and the
required ones those of `goog.require`. -/
theorem mem_extract_iff (e : Extraction) (root : Node) (s : Text) :
    (s ∈ (e.apply (.extract root)).provides ↔
        ∃ n, root.Contains n ∧ n.Calls "goog.provide" s) ∧
      (s ∈ (e.apply (.extract root)).requires ↔
        ∃ n, root.Contains n ∧ n.Calls "goog.require" s) :=
  ⟨mem_names_ofTree_iff root .provide s, mem_names_ofTree_iff root .require s⟩

end Extraction

end NamespaceScan

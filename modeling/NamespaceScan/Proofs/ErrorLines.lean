import Mathlib.Logic.Relation
import NamespaceScan.Proofs.OrderedSet
import NamespaceScan.Tree.Concrete

/-!
# The lines of errors

The search for errors stops at each fault that it meets, and it leaves out all nodes that
are not flagged. What it finds in any tree are lines of faults, in increasing order. Where
the flags tell the truth nothing is missed: the lines are those of the faults that stand
inside no other fault, and there are none only if the tree has no fault at all.
-/

namespace NamespaceScan.Concrete

/-- The tree contains the node: as its root, or at any depth below it. -/
def Contains (root : Concrete) : Concrete → Prop :=
  Relation.ReflTransGen (fun parent child => child ∈ parent.children) root

/-- The tree contains the node, and no fault stands above it. -/
def Exposes (root : Concrete) : Concrete → Prop :=
  Relation.ReflTransGen (fun parent child => parent.isFault = false ∧ child ∈ parent.children) root

/-- Every node is flagged exactly when it is a fault or a fault stands below it. -/
def Consistent (root : Concrete) : Prop :=
  ∀ n, root.Contains n → (n.hasError = true ↔ ∃ fault, n.Contains fault ∧ fault.isFault = true)

/-- The search comes to the node: above it there are no faults and only flagged nodes. -/
def Searches (root : Concrete) : Concrete → Prop :=
  Relation.ReflTransGen
    (fun parent child => (parent.isFault = false ∧ parent.hasError = true) ∧
      child ∈ parent.children) root

/-! ## What the search comes to -/

theorem Searches.contains {root n : Concrete} (searched : root.Searches n) : root.Contains n :=
  Relation.ReflTransGen.mono (fun _ _ step => step.2) _ _ searched

theorem Exposes.contains {root n : Concrete} (exposed : root.Exposes n) : root.Contains n :=
  Relation.ReflTransGen.mono (fun _ _ step => step.2) _ _ exposed

theorem Searches.exposes {root n : Concrete} (searched : root.Searches n) : root.Exposes n :=
  Relation.ReflTransGen.mono (fun _ _ step => ⟨step.1.1, step.2⟩) _ _ searched

theorem contains_iff {root n : Concrete} :
    root.Contains n ↔ n = root ∨ ∃ child ∈ root.children, child.Contains n := by
  rw [Contains, Relation.ReflTransGen.cases_head_iff, eq_comm]
  rfl

/-- Below a fault and below a node without a flag the search comes to nothing. -/
theorem searches_iff {root n : Concrete} :
    root.Searches n ↔
      n = root ∨ (root.isFault = false ∧ root.hasError = true) ∧
        ∃ child ∈ root.children, child.Searches n := by
  rw [Searches, Relation.ReflTransGen.cases_head_iff, eq_comm]
  constructor
  · rintro (here | ⟨child, ⟨passed, member⟩, later⟩)
    · exact Or.inl here
    · exact Or.inr ⟨passed, child, member, later⟩
  · rintro (here | ⟨passed, child, member, later⟩)
    · exact Or.inl here
    · exact Or.inr ⟨child, ⟨passed, member⟩, later⟩

theorem searches_iff_of_stop {root n : Concrete}
    (stop : ¬(root.isFault = false ∧ root.hasError = true)) : root.Searches n ↔ n = root := by
  rw [searches_iff]
  exact or_iff_left fun passed => stop passed.1

/-- The search below the nodes of a stack finds the faults that it comes to. -/
theorem mem_faultLines_iff {stack : List Concrete} {lines : OrderedSet Nat} {line : Nat} :
    line ∈ faultLines stack lines ↔
      line ∈ lines ∨
        ∃ top ∈ stack, ∃ n, top.Searches n ∧ n.isFault = true ∧ line = n.line := by
  induction stack, lines using faultLines.induct with
  | case1 lines => simp [faultLines]
  | case2 lines top rest isFault ih =>
      have alone : ∀ n, top.Searches n ↔ n = top := fun n =>
        searches_iff_of_stop (by simp [isFault])
      rw [faultLines, if_pos isFault, ih, OrderedSet.mem_insert_iff, List.exists_mem_cons_iff]
      simp only [alone, exists_eq_left, isFault, true_and]
      exact or_assoc.trans or_left_comm
  | case3 lines top rest noFault flagged ih =>
      rw [Bool.not_eq_true] at noFault
      have below : ∀ n, top.Searches n ∧ n.isFault = true ↔
          ∃ child ∈ top.children, child.Searches n ∧ n.isFault = true := by
        intro n
        rw [searches_iff]
        constructor
        · rintro ⟨rfl | ⟨-, child, member, later⟩, isFault⟩
          · rw [noFault] at isFault
            cases isFault
          · exact ⟨child, member, later, isFault⟩
        · rintro ⟨child, member, later, isFault⟩
          exact ⟨Or.inr ⟨⟨noFault, flagged⟩, child, member, later⟩, isFault⟩
      rw [faultLines, if_neg (by simp [noFault]), if_pos flagged, ih]
      apply or_congr_right
      simp only [List.mem_append, or_and_right, exists_or, List.exists_mem_cons_iff]
      apply or_congr_left
      constructor
      · rintro ⟨child, member, n, searched, isFault, same⟩
        obtain ⟨searched, isFault⟩ := (below n).mpr ⟨child, member, searched, isFault⟩
        exact ⟨n, searched, isFault, same⟩
      · rintro ⟨n, searched, isFault, same⟩
        obtain ⟨child, member, searched, isFault⟩ := (below n).mp ⟨searched, isFault⟩
        exact ⟨child, member, n, searched, isFault, same⟩
  | case4 lines top rest noFault unflagged ih =>
      rw [Bool.not_eq_true] at noFault
      have alone : ∀ n, top.Searches n ↔ n = top := fun n =>
        searches_iff_of_stop (by simp [unflagged])
      rw [faultLines, if_neg (by simp [noFault]), if_neg unflagged, ih,
        List.exists_mem_cons_iff]
      simp [alone, noFault]

theorem mem_errorLines_iff {root : Concrete} {line : Nat} :
    line ∈ root.errorLines ↔
      root.hasError = true ∧ ∃ n, root.Searches n ∧ n.isFault = true ∧ line = n.line := by
  rw [errorLines]
  split
  · rename_i flagged
    rw [OrderedSet.mem_toList, mem_faultLines_iff]
    simp [flagged]
  · rename_i unflagged
    simp [unflagged]

theorem increasing_errorLines (root : Concrete) : root.errorLines.Pairwise (· < ·) := by
  rw [errorLines]
  split
  · exact OrderedSet.increasing _
  · exact List.Pairwise.nil

/-! ## Flags that tell the truth -/

theorem Consistent.of_mem_children {root child : Concrete} (consistent : root.Consistent)
    (member : child ∈ root.children) : child.Consistent :=
  fun n contained => consistent n (contains_iff.mpr (Or.inr ⟨child, member, contained⟩))

/-- Flags that are passed on from the children to the parent tell the truth. -/
theorem Consistent.of_children {root : Concrete}
    (children : ∀ child ∈ root.children, child.Consistent)
    (passed : root.hasError = true ↔
      root.isFault = true ∨ ∃ child ∈ root.children, child.hasError = true) :
    root.Consistent := by
  intro n contained
  rcases contains_iff.mp contained with rfl | ⟨child, member, below⟩
  · rw [passed]
    constructor
    · rintro (isFault | ⟨child, member, flagged⟩)
      · exact ⟨n, Relation.ReflTransGen.refl, isFault⟩
      · obtain ⟨fault, below, isFault⟩ :=
          (children child member child Relation.ReflTransGen.refl).mp flagged
        exact ⟨fault, contains_iff.mpr (Or.inr ⟨child, member, below⟩), isFault⟩
    · rintro ⟨fault, inside, isFault⟩
      rcases contains_iff.mp inside with rfl | ⟨child, member, below⟩
      · exact Or.inl isFault
      · have flagged := (children child member child Relation.ReflTransGen.refl).mpr
          ⟨fault, below, isFault⟩
        exact Or.inr ⟨child, member, flagged⟩
  · exact children child member n below

/-- On the way to a fault all nodes are flagged. -/
theorem Exposes.searches {root fault : Concrete} (exposed : root.Exposes fault)
    (isFault : fault.isFault = true) (consistent : root.Consistent) : root.Searches fault := by
  induction exposed using Relation.ReflTransGen.head_induction_on with
  | refl => exact Relation.ReflTransGen.refl
  | @head parent child step later ih =>
      have contained : parent.Contains fault :=
        contains_iff.mpr (Or.inr ⟨child, step.2, Exposes.contains later⟩)
      have flagged : parent.hasError = true :=
        (consistent parent Relation.ReflTransGen.refl).mpr ⟨fault, contained, isFault⟩
      exact Relation.ReflTransGen.head ⟨⟨step.1, flagged⟩, step.2⟩
        (ih (consistent.of_mem_children step.2))

/-- The first fault on the way to a fault is exposed. -/
theorem exists_exposed_of_contains {root fault : Concrete} (contained : root.Contains fault)
    (isFault : fault.isFault = true) : ∃ n, root.Exposes n ∧ n.isFault = true := by
  induction contained using Relation.ReflTransGen.head_induction_on with
  | refl => exact ⟨fault, Relation.ReflTransGen.refl, isFault⟩
  | @head parent child step _ ih =>
      obtain ⟨n, exposed, nIsFault⟩ := ih
      by_cases parentIsFault : parent.isFault = true
      · exact ⟨parent, Relation.ReflTransGen.refl, parentIsFault⟩
      · rw [Bool.not_eq_true] at parentIsFault
        exact ⟨n, Relation.ReflTransGen.head ⟨parentIsFault, step⟩ exposed, nIsFault⟩

theorem mem_errorLines_iff_of_consistent {root : Concrete} (consistent : root.Consistent)
    {line : Nat} :
    line ∈ root.errorLines ↔ ∃ n, root.Exposes n ∧ n.isFault = true ∧ line = n.line := by
  rw [mem_errorLines_iff]
  constructor
  · rintro ⟨-, n, searched, isFault, same⟩
    exact ⟨n, searched.exposes, isFault, same⟩
  · rintro ⟨n, exposed, isFault, same⟩
    constructor
    · exact (consistent root Relation.ReflTransGen.refl).mpr ⟨n, exposed.contains, isFault⟩
    · exact ⟨n, exposed.searches isFault consistent, isFault, same⟩

theorem errorLines_eq_nil_iff_of_consistent {root : Concrete} (consistent : root.Consistent) :
    root.errorLines = [] ↔ ∀ n, root.Contains n → n.isFault = false := by
  rw [List.eq_nil_iff_forall_not_mem]
  constructor
  · intro noLine n contained
    by_contra isFault
    rw [Bool.not_eq_false] at isFault
    obtain ⟨first, exposed, firstIsFault⟩ := exists_exposed_of_contains contained isFault
    exact noLine first.line
      ((mem_errorLines_iff_of_consistent consistent).mpr ⟨first, exposed, firstIsFault, rfl⟩)
  · intro noFault line member
    obtain ⟨n, exposed, isFault, -⟩ := (mem_errorLines_iff_of_consistent consistent).mp member
    rw [noFault n exposed.contains] at isFault
    cases isFault

/-- The lines of a tree's errors are increasing lines of faults. In a tree whose flags tell the
truth they are the lines of all faults that stand inside no other one, and there are none
exactly if there is no fault. -/
theorem errorLines_exposed (root : Concrete) :
    root.errorLines.Pairwise (· < ·) ∧
      (∀ line ∈ root.errorLines, ∃ n, root.Contains n ∧ n.isFault = true ∧ line = n.row + 1) ∧
      (root.Consistent →
        (∀ line, line ∈ root.errorLines ↔
          ∃ n, root.Exposes n ∧ n.isFault = true ∧ line = n.row + 1) ∧
        (root.errorLines = [] ↔ ∀ n, root.Contains n → n.isFault = false)) := by
  refine ⟨increasing_errorLines root, ?_, ?_⟩
  · intro line member
    obtain ⟨-, n, searched, isFault, same⟩ := mem_errorLines_iff.mp member
    exact ⟨n, searched.contains, isFault, same⟩
  · intro consistent
    constructor
    · exact fun line => mem_errorLines_iff_of_consistent consistent
    · exact errorLines_eq_nil_iff_of_consistent consistent

/-- An error with a missing token inside, and a missing token in a statement before it. -/
def faultyProgram : Concrete where
  type := "program"
  hasError := true
  children :=
    [{ type := "comment" },
     { type := "expression_statement", hasError := true
       children := [{ type := "identifier" }, { type := ";", missing := true, hasError := true }] },
     { type := "ERROR", row := 2, hasError := true
       children := [{ type := ")", row := 4, missing := true, hasError := true }] }]

theorem consistent_faultyProgram : faultyProgram.Consistent := by
  have leaf : ∀ n : Concrete, n.children = [] → n.hasError = n.isFault → n.Consistent := by
    intro n bare flag
    apply Consistent.of_children
    · simp [bare]
    · simp [bare, flag]
  apply Consistent.of_children
  · simp only [faultyProgram, List.forall_mem_cons]
    refine ⟨leaf _ rfl rfl, ?_, ?_, List.forall_mem_nil _⟩
    · apply Consistent.of_children
      · simp only [List.forall_mem_cons]
        exact ⟨leaf _ rfl rfl, leaf _ rfl rfl, List.forall_mem_nil _⟩
      · decide
    · apply Consistent.of_children
      · simp only [List.forall_mem_cons]
        exact ⟨leaf _ rfl rfl, List.forall_mem_nil _⟩
      · decide
  · decide

/-- The token that is missing inside the error has no line of its own. -/
theorem errorLines_exposed_faultyProgram :
    faultyProgram.Consistent ∧ faultyProgram.errorLines = [1, 3] ∧
      (∀ line, line ∈ faultyProgram.errorLines ↔
        ∃ n, faultyProgram.Exposes n ∧ n.isFault = true ∧ line = n.row + 1) ∧
      (faultyProgram.errorLines = [] ↔ ∀ n, faultyProgram.Contains n → n.isFault = false) := by
  have searched : faultLines [faultyProgram] ∅ = ((∅ : OrderedSet Nat).insert 1).insert 3 := by
    simp [faultyProgram, faultLines, isFault, line]
  have found : faultyProgram.errorLines = [1, 3] := by
    have flagged : faultyProgram.hasError = true := rfl
    rw [errorLines, if_pos flagged, searched]
    rfl
  exact ⟨consistent_faultyProgram, found,
    (errorLines_exposed faultyProgram).2.2 consistent_faultyProgram⟩

end NamespaceScan.Concrete

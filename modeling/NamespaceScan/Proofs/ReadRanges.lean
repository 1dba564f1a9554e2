import NamespaceScan.Proofs.Parentheses
import NamespaceScan.Proofs.Recognition

/-!
# What is read of the source

The conversion reads the source in three places only: the text of an identifier, that of a string
literal, and that of the property that an access names. Two sources that agree on the ranges of
these nodes give the same tree. They may differ everywhere else, also in their length, and nothing
is asked of the ranges: they may be empty, overlap, or end before they begin or behind the source.
-/

namespace NamespaceScan.Concrete

variable {first second : ByteArray} {n : Concrete}

/-- The sources agree on the range of the node: at each position of it they have the same octet, or
both have ended. -/
def AgreeOn (first second : ByteArray) (n : Concrete) : Prop :=
  ∀ i < n.stop, n.start ≤ i → first[i]? = second[i]?

instance agreeOn_decidable (first second : ByteArray) (n : Concrete) :
    Decidable (AgreeOn first second n) :=
  inferInstanceAs (Decidable (∀ i < n.stop, n.start ≤ i → first[i]? = second[i]?))

theorem getElem?_extract (data : ByteArray) (start stop i : Nat) :
    (data.extract start stop)[i]? = if start + i < stop then data[start + i]? else none := by
  have slice : (data.extract start stop)[i]? = (data.data.extract start stop)[i]? := by
    rw [← ByteArray.data_extract]
    rfl
  rw [slice, Array.getElem?_extract]
  by_cases within : start + i < stop
  · rw [if_pos within]
    by_cases inside : start + i < data.data.size
    · rw [if_pos (by omega)]
      rfl
    · rw [if_neg (by omega)]
      exact (getElem?_neg data.data (start + i) inside).symm
  · rw [if_neg within, if_neg (by omega)]

theorem text_eq_of_agreeOn (agree : AgreeOn first second n) : n.text first = n.text second := by
  have slices : first.extract n.start n.stop = second.extract n.start n.stop := by
    apply ByteArray.ext
    apply Array.ext_getElem?
    intro i
    have same : (first.extract n.start n.stop)[i]? = (second.extract n.start n.stop)[i]? := by
      rw [getElem?_extract, getElem?_extract]
      split
      · rename_i within
        exact agree (n.start + i) within (Nat.le_add_right _ _)
      · rfl
    exact same
  rw [text, text, slices]

/-- The sources agree on all that is read of a tree: its identifiers, its string literals and the
properties of its property accesses. -/
structure AgreeOnRead (first second : ByteArray) (root : Concrete) : Prop where
  identifiers : ∀ n, root.Holds n → n.type = "identifier" → AgreeOn first second n
  literals : ∀ n, root.Holds n → n.type = "string" → AgreeOn first second n
  properties : ∀ n, root.Holds n → n.type = "member_expression" →
    ∀ p ∈ n.children, p.field = some "property" → AgreeOn first second p

theorem AgreeOnRead.of_holds {root : Concrete} (agree : AgreeOnRead first second root)
    (held : root.Holds n) : AgreeOnRead first second n where
  identifiers m below := agree.identifiers m (held.trans below)
  literals m below := agree.literals m (held.trans below)
  properties m below := agree.properties m (held.trans below)

theorem AgreeOnRead.of_children
    (identifier : n.type = "identifier" → AgreeOn first second n)
    (literal : n.type = "string" → AgreeOn first second n)
    (property : n.type = "member_expression" →
      ∀ p ∈ n.children, p.field = some "property" → AgreeOn first second p)
    (below : ∀ c ∈ n.children, AgreeOnRead first second c) : AgreeOnRead first second n where
  identifiers := forall_holds identifier fun c member => (below c member).identifiers
  literals := forall_holds literal fun c member => (below c member).literals
  properties := forall_holds property fun c member => (below c member).properties

/-- What a node is by itself depends on no other text. -/
theorem head_eq_of_agreeOnRead (agree : AgreeOnRead first second n) :
    n.head first = n.head second := by
  have here : n.Holds n := Relation.ReflTransGen.refl
  rw [head, head]
  split
  · rfl
  · rw [text_eq_of_agreeOn (agree.identifiers n here ‹_›)]
  · rfl
  · rw [text_eq_of_agreeOn (agree.literals n here ‹_›)]
  · rename_i isAccess
    cases found : n.property? with
    | none => rfl
    | some p =>
        have role := (property?_eq_some_iff.mp found).1
        have agreed := agree.properties n here isAccess p (mem_children_of_childByField? role)
          (field_of_childByField? role)
        simp only [text_eq_of_agreeOn agreed]
  all_goals rfl

theorem reduce_eq_of_agreeOnRead (agree : AgreeOnRead first second n) :
    n.reduce first = n.reduce second := by
  induction n using reduce.induct first with
  | case1 n ih =>
      have children : n.successors.map (reduce first) = n.successors.map (reduce second) := by
        apply List.map_congr_left
        intro c member
        exact ih ⟨c, member⟩ (agree.of_holds (mem_successors_iff.mp member).holds)
      rw [reduce_eq first n, reduce_eq, head_eq_of_agreeOnRead agree, children]

/-- Sources that agree on the identifiers, the string literals and the properties of a tree are
converted to the identical syntax tree, and the same namespaces are found in them. -/
theorem convert_of_agreement {root : Concrete} (agree : AgreeOnRead first second root) :
    root.convert first = root.convert second ∧
      Extraction.ofTree (root.convert first) = Extraction.ofTree (root.convert second) := by
  have same : root.convert first = root.convert second := by
    rw [convert_eq_reduce, convert_eq_reduce, reduce_eq_of_agreeOnRead agree]
  exact ⟨same, congrArg Extraction.ofTree same⟩

/-! ## Other tokens and another comment -/

/-- A call with a comment behind it. -/
def remarkedScript : Concrete where
  type := "program"
  stop := 22
  children := [bareCall, { type := "comment", start := 18, stop := 22 }]

/-- A source of the script. -/
def remarkedSource : ByteArray := "goog.provide('a') // b".toUTF8

/-- A source with other octets for the tokens. It ends before the comment. -/
def otherTokens : ByteArray := "goog#provide<'a'>".toUTF8

theorem agreeOnRead_remarkedScript : AgreeOnRead remarkedSource otherTokens remarkedScript := by
  have leaf : ∀ n : Concrete, n.children = [] →
      (n.type = "identifier" → AgreeOn remarkedSource otherTokens n) →
      (n.type = "string" → AgreeOn remarkedSource otherTokens n) →
      AgreeOnRead remarkedSource otherTokens n := by
    intro n bare identifier literal
    apply AgreeOnRead.of_children identifier literal
    · simp [bare]
    · simp [bare]
  have callee : AgreeOnRead remarkedSource otherTokens bareCallee := by
    apply AgreeOnRead.of_children (by decide) (by decide) (by decide)
    simp only [bareCallee, List.forall_mem_cons]
    refine ⟨leaf _ rfl ?_ ?_, leaf _ rfl ?_ ?_, leaf _ rfl ?_ ?_, List.forall_mem_nil _⟩ <;> decide
  have argument : AgreeOnRead remarkedSource otherTokens bareArgument :=
    leaf _ rfl (by decide) (by decide)
  have arguments : AgreeOnRead remarkedSource otherTokens bareArguments := by
    apply AgreeOnRead.of_children (by decide) (by decide) (by decide)
    exact List.forall_mem_singleton.mpr argument
  have call : AgreeOnRead remarkedSource otherTokens bareCall := by
    apply AgreeOnRead.of_children (by decide) (by decide) (by decide)
    exact List.forall_mem_cons.mpr ⟨callee, List.forall_mem_singleton.mpr arguments⟩
  apply AgreeOnRead.of_children (by decide) (by decide) (by decide)
  exact List.forall_mem_cons.mpr
    ⟨call, List.forall_mem_singleton.mpr (leaf _ rfl (by decide) (by decide))⟩

theorem convert_of_agreement_remarkedScript :
    AgreeOnRead remarkedSource otherTokens remarkedScript ∧
      remarkedScript.convert remarkedSource = remarkedScript.convert otherTokens :=
  ⟨agreeOnRead_remarkedScript, (convert_of_agreement agreeOnRead_remarkedScript).1⟩

end NamespaceScan.Concrete

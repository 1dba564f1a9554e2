import NamespaceScan.Proofs.Conversion

/-!
# Changes that the conversion does not see

What a concrete node adds to the conversion of its parent depends on its type and on its own
conversion: a comment adds nothing, any other node adds what stands in its parentheses.
`Concrete.Agrees` collects what the conversion of a node sees of its children in this way. It
depends on the type of the node which children that are.

A change of the children of one node, made at the root or at any depth, is a `Changed` tree.
When the change leaves the conversion of that node as it is, it leaves the conversion of the
whole tree as it is, and so does any number of such changes.
-/

namespace NamespaceScan.Concrete

variable {data : ByteArray} {n c d : Concrete} {before after children : List Concrete}

/-! ## What a child adds -/

/-- What a node is converted to as a child of another one. -/
def child? (data : ByteArray) (c : Concrete) : Option Node :=
  if c.isComment then none else some (c.unwrap.reduce data)

/-- What a node is converted to as the arguments of a call. -/
def argumentNodes (data : ByteArray) (c : Concrete) : List Node :=
  if c.type = "arguments" then (c.reduce data).children else (c.child? data).toList

/-- Children that are comments add nothing, all others add what stands in their parentheses. -/
theorem filterMap_child? (data : ByteArray) (children : List Concrete) :
    children.filterMap (child? data) =
      (children.filter fun c => !c.isComment).map fun c => c.unwrap.reduce data := by
  induction children with
  | nil => rfl
  | cons c rest ih => by_cases comment : c.isComment <;> simp [child?, comment, ih]

theorem filterMap_toList_child? (data : ByteArray) (found : Option Concrete) :
    found.toList.filterMap (child? data) = (found.map (child? data)).join.toList := by
  cases found with
  | none => rfl
  | some c => cases added : c.child? data <;> simp [added]

theorem children_reduce_eq_filterMap (data : ByteArray) (n : Concrete) :
    (n.reduce data).children = n.pending.filterMap (child? data) := by
  rw [children_reduce, successors, filterMap_child?, List.map_map]
  rfl

theorem children_reduce_ordinary (ordinary : n.type ∉ specialTypes) :
    (n.reduce data).children = n.namedChildren.filterMap (child? data) := by
  rw [children_reduce_eq_filterMap, pending_ordinary ordinary]

theorem children_reduce_call (isCall : n.type = "call_expression") :
    (n.reduce data).children =
      ((n.childByField? "function").map (child? data)).join.toList ++
        ((n.childByField? "arguments").map (argumentNodes data)).getD [] := by
  rw [children_reduce_eq_filterMap, pending_call isCall, callChildren, List.filterMap_append,
    filterMap_toList_child?]
  congr 1
  cases n.childByField? "arguments" with
  | none => rfl
  | some c =>
      by_cases isList : c.type = "arguments"
      · have ordinary : c.type ∉ specialTypes := by simp [specialTypes, isList]
        simp [argumentNodes, isList, children_reduce_ordinary ordinary]
      · simpa [argumentNodes, isList] using filterMap_toList_child? data (some c)

theorem children_reduce_access (isAccess : n.type = "member_expression") :
    (n.reduce data).children = ((n.childByField? "object").map (child? data)).join.toList := by
  rw [children_reduce_eq_filterMap, pending_access isAccess, filterMap_toList_child?]

/-- Parentheses can as well be taken away after the conversion. -/
theorem reduce_unwrap (data : ByteArray) (n : Concrete) :
    n.unwrap.reduce data =
      if n.type = "parenthesized_expression" then
        match (n.reduce data).children with
        | [only] => only
        | _ => n.reduce data
      else n.reduce data := by
  by_cases isParen : n.type = "parenthesized_expression"
  · have ordinary : n.type ∉ specialTypes := by simp [specialTypes, isParen]
    have children : (n.reduce data).children = n.inner.map fun c => c.unwrap.reduce data := by
      rw [children_reduce_ordinary ordinary, filterMap_child?, inner]
    rw [if_pos isParen, children, unwrap, if_pos isParen]
    split
    · rename_i c single
      rw [single]
      rfl
    · rename_i several
      split
      · rename_i only same
        obtain ⟨c, single, -⟩ := List.map_eq_singleton_iff.mp same
        exact absurd single (several c)
      · rfl
  · rw [if_neg isParen, unwrap, if_neg isParen]

/-- Nodes of the same type with the same conversion add the same. -/
theorem child?_congr (sameType : d.type = c.type) (same : d.reduce data = c.reduce data) :
    d.child? data = c.child? data := by
  simp only [child?, isComment, reduce_unwrap, sameType, same]

theorem argumentNodes_congr (sameType : d.type = c.type) (same : d.reduce data = c.reduce data) :
    d.argumentNodes data = c.argumentNodes data := by
  simp only [argumentNodes, sameType, same, child?_congr sameType same]

/-! ## What the conversion sees of the children -/

/-- The node with other children. -/
def withChildren (n : Concrete) (children : List Concrete) : Concrete := { n with children }

@[simp]
theorem type_withChildren : (n.withChildren children).type = n.type :=
  rfl

@[simp]
theorem children_withChildren : (n.withChildren children).children = children :=
  rfl

/-- With other children a node looks the same to the conversion. -/
structure Agrees (data : ByteArray) (n : Concrete) (children : List Concrete) : Prop where
  members : n.type ∉ specialTypes →
    (n.withChildren children).namedChildren.filterMap (child? data) =
      n.namedChildren.filterMap (child? data)
  callee : n.type = "call_expression" →
    ((n.withChildren children).childByField? "function").map (child? data) =
      (n.childByField? "function").map (child? data)
  arguments : n.type = "call_expression" →
    ((n.withChildren children).childByField? "arguments").map (argumentNodes data) =
      (n.childByField? "arguments").map (argumentNodes data)
  target : n.type = "member_expression" →
    ((n.withChildren children).childByField? "object").map (child? data) =
      (n.childByField? "object").map (child? data)
  property : n.type = "member_expression" →
    (n.withChildren children).property?.map (text data) = n.property?.map (text data)

/-- Of the property that an access names only the text is converted. -/
theorem head_access (isAccess : n.type = "member_expression") :
    n.head data =
      match n.property?.map (text data) with
      | some name => { kind := .getprop, name := some name, line := n.line }
      | none => { kind := .other, line := n.line } := by
  simp only [head, isAccess]
  cases n.property? <;> rfl

theorem Agrees.head_eq (agrees : n.Agrees data children) :
    (n.withChildren children).head data = n.head data := by
  by_cases isAccess : n.type = "member_expression"
  · rw [head_access isAccess, head_access (n := n.withChildren children) isAccess,
      agrees.property isAccess]
    rfl
  · simp only [head, type_withChildren]
    split
    case h_5 isMember => exact absurd isMember isAccess
    all_goals rfl

theorem Agrees.reduce_eq (agrees : n.Agrees data children) :
    (n.withChildren children).reduce data = n.reduce data := by
  have sameChildren : ((n.withChildren children).reduce data).children =
      (n.reduce data).children := by
    by_cases isCall : n.type = "call_expression"
    · rw [children_reduce_call isCall, children_reduce_call (n := n.withChildren children) isCall,
        agrees.callee isCall, agrees.arguments isCall]
    by_cases isAccess : n.type = "member_expression"
    · rw [children_reduce_access isAccess,
        children_reduce_access (n := n.withChildren children) isAccess, agrees.target isAccess]
    by_cases ordinary : n.type ∉ specialTypes
    · rw [children_reduce_ordinary ordinary,
        children_reduce_ordinary (n := n.withChildren children) ordinary, agrees.members ordinary]
    · have isLeaf : n.type = "identifier" ∨ n.type = "this" ∨ n.type = "string" := by
        simpa [specialTypes, isCall, isAccess, Decidable.or_iff_not_imp_left] using ordinary
      rw [children_reduce_eq_filterMap, children_reduce_eq_filterMap, pending_leaf isLeaf,
        pending_leaf (n := n.withChildren children) isLeaf]
  rw [children_reduce, children_reduce] at sameChildren
  rw [Concrete.reduce_eq data n, Concrete.reduce_eq, agrees.head_eq, sameChildren]

/-! ## Another child in the place of one -/

/-- The child marks a property access as one that may be skipped. -/
def isOptionalMark (c : Concrete) : Bool := c.type = "optional_chain" || c.type = "?."

theorem isOptionalAccess_eq_any (n : Concrete) :
    n.isOptionalAccess = n.children.any isOptionalMark :=
  rfl

/-- Among the children of a node, one child can stand for another. -/
structure StandsFor (data : ByteArray) (n c d : Concrete) : Prop where
  field : d.field = c.field
  added : d.child? data = c.child? data
  named : n.type ∉ specialTypes → d.named = c.named
  arguments : n.type = "call_expression" → c.field = some "arguments" →
    d.argumentNodes data = c.argumentNodes data
  mark : n.type = "member_expression" → d.isOptionalMark = c.isOptionalMark
  property : n.type = "member_expression" → c.field = some "property" →
    d.text data = c.text data

/-- A field leads to the same child as before, or to the child that has taken the place. -/
theorem childByField?_replace (old : n.children = before ++ c :: after)
    (sameField : d.field = c.field) (field : String) :
    (n.withChildren (before ++ d :: after)).childByField? field = n.childByField? field ∨
      c.field = some field ∧ n.childByField? field = some c ∧
        (n.withChildren (before ++ d :: after)).childByField? field = some d := by
  simp only [childByField?, old, children_withChildren, List.find?_append]
  cases before.find? fun child => child.field = some field with
  | some first => exact Or.inl rfl
  | none =>
      by_cases hasField : c.field = some field
      · refine Or.inr ⟨hasField, ?_, ?_⟩ <;> simp [sameField, hasField]
      · simp [sameField, hasField]

/-- What a field adds is the same as before when the new child adds the same there. -/
theorem field_replace {α : Type} (old : n.children = before ++ c :: after)
    (sameField : d.field = c.field) {field : String} (see : Concrete → α)
    (same : c.field = some field → see d = see c) :
    ((n.withChildren (before ++ d :: after)).childByField? field).map see =
      (n.childByField? field).map see := by
  rcases childByField?_replace old sameField field with unchanged | ⟨hasField, first, second⟩
  · rw [unchanged]
  · rw [first, second, Option.map_some, Option.map_some, same hasField]

theorem StandsFor.agrees (stands : StandsFor data n c d)
    (old : n.children = before ++ c :: after) : n.Agrees data (before ++ d :: after) where
  members ordinary := by
    simp only [namedChildren, old, children_withChildren, List.filter_append,
      List.filter_cons, stands.named ordinary, List.filterMap_append]
    split <;> simp [List.filterMap_cons, stands.added]
  callee _ := field_replace old stands.field (child? data) fun _ => stands.added
  arguments isCall :=
    field_replace old stands.field (argumentNodes data) (stands.arguments isCall)
  target _ := field_replace old stands.field (child? data) fun _ => stands.added
  property isAccess := by
    have sameMarks : (n.withChildren (before ++ d :: after)).isOptionalAccess =
        n.isOptionalAccess := by
      simp [isOptionalAccess_eq_any, old, stands.mark isAccess]
    rw [property?, property?, sameMarks]
    split
    · rfl
    · exact field_replace old stands.field (text data) (stands.property isAccess)

/-! ## Changes at any depth -/

/-- A change was made to the children of one node of a tree: of the root, or of a node at any
depth below it. -/
inductive Changed (change : Concrete → List Concrete → Prop) : Concrete → Concrete → Prop where
  | here {n : Concrete} {children : List Concrete} (made : change n children) :
      Changed change n (n.withChildren children)
  | deeper {n c d : Concrete} (before after : List Concrete)
      (old : n.children = before ++ c :: after) (inside : Changed change c d) :
      Changed change n (n.withChildren (before ++ d :: after))

variable {change : Concrete → List Concrete → Prop}

theorem Changed.exists_withChildren {n m : Concrete} (changed : Changed change n m) :
    ∃ children, m = n.withChildren children := by
  cases changed with
  | here => exact ⟨_, rfl⟩
  | deeper => exact ⟨_, rfl⟩

/-- A child with the same conversion that differs in its children only can stand for the old
one. -/
theorem StandsFor.of_reduce_eq (same : (c.withChildren children).reduce data = c.reduce data) :
    StandsFor data n c (c.withChildren children) where
  field := rfl
  added := child?_congr rfl same
  named _ := rfl
  arguments _ _ := argumentNodes_congr rfl same
  mark _ := rfl
  property _ _ := rfl

/-- What one change leaves as it is in the node where it is made, it leaves as it is in the
whole tree. -/
theorem Changed.reduce_eq
    (unseen : ∀ n children, change n children → n.Agrees data children) {n m : Concrete}
    (changed : Changed change n m) : m.reduce data = n.reduce data := by
  induction changed with
  | here made => exact (unseen _ _ made).reduce_eq
  | deeper before after old inside ih =>
      obtain ⟨_, rfl⟩ := inside.exists_withChildren
      exact ((StandsFor.of_reduce_eq ih).agrees old).reduce_eq

/-- Any number of changes that the conversion does not see leave the converted tree as it
is. -/
theorem convert_eq_of_changes
    (unseen : ∀ n children, change n children → n.Agrees data children) {n m : Concrete}
    (changes : Relation.ReflTransGen (Changed change) n m) : m.convert data = n.convert data := by
  rw [convert_eq_reduce, convert_eq_reduce]
  induction changes with
  | refl => rfl
  | tail _ last ih => exact (last.reduce_eq unseen).trans ih

end NamespaceScan.Concrete

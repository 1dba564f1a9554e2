import Mathlib.Data.List.Basic
import NamespaceScan.Proofs.Conversion
import NamespaceScan.Proofs.DottedName
import NamespaceScan.Proofs.Extraction

/-!
# Recognised calls of a concrete tree

`Concrete.Declares` describes a recognised call by the concrete tree alone. The
extraction of a converted tree finds the values of exactly those recognised calls
that the conversion reaches, provided that every call has a callee and that no
identifier holds a dot: an identifier with a dot could pass for a property access.
-/

namespace NamespaceScan

/-- The property of `goog` that is called in a role. -/
def Role.property : Role → Text
  | .provide => "provide"
  | .require => "require"

theorem Role.callee_eq (role : Role) : role.callee = "goog" ++ Node.dot :: role.property := by
  cases role <;> rfl

theorem Role.dot_not_mem_property (role : Role) : Node.dot ∉ role.property := by
  cases role <;> decide

namespace Concrete

/-! ## Recognised calls -/

/-- The first argument of a call: the first named node of the argument list,
comments apart, or the template that takes the place of the list. -/
inductive FirstArgument (n : Concrete) : Concrete → Prop where
  | listed {list a : Concrete} (found : n.childByField? "arguments" = some list)
      (isList : list.type = "arguments") (first : list.inner.head? = some a) : FirstArgument n a
  | template {a : Concrete} (found : n.childByField? "arguments" = some a)
      (noList : a.type ≠ "arguments") : FirstArgument n a

/-- A plain access to a property of the identifier `goog`. -/
structure GoogAccess (data : ByteArray) (property : Text) (n : Concrete) : Prop where
  isAccess : n.type = "member_expression"
  named : ∃ p, n.childByField? "property" = some p ∧ p.text data = property
  plain : ∀ c ∈ n.children, c.type ≠ "optional_chain" ∧ c.type ≠ "?."
  onGoog : ∃ target name, n.childByField? "object" = some target ∧ target.Unwraps name ∧
    name.type = "identifier" ∧ name.text data = "goog"

/-- A call of a property of `goog` whose first argument is a string literal with
the given value. -/
structure Declares (data : ByteArray) (property value : Text) (n : Concrete) : Prop where
  isCall : n.type = "call_expression"
  callee : ∃ c access, n.childByField? "function" = some c ∧ c.Unwraps access ∧
    access.GoogAccess data property
  argument : ∃ a literal, n.FirstArgument a ∧ a.Unwraps literal ∧ literal.type = "string" ∧
    Literal.decode (literal.text data) = value

/-- Every call of the tree has a callee that is no comment, and no identifier
holds a dot. -/
structure Regular (data : ByteArray) (root : Concrete) : Prop where
  callees : ∀ n, root.Holds n → n.type = "call_expression" →
    ∃ c, n.childByField? "function" = some c ∧ ¬c.isComment
  identifiers : ∀ n, root.Holds n → n.type = "identifier" → Node.dot ∉ n.text data

/-! ## Callees -/

theorem property?_eq_some_iff {n p : Concrete} :
    n.property? = some p ↔ n.childByField? "property" = some p ∧
      ∀ c ∈ n.children, c.type ≠ "optional_chain" ∧ c.type ≠ "?." := by
  have optional : n.isOptionalAccess = false ↔
      ∀ c ∈ n.children, c.type ≠ "optional_chain" ∧ c.type ≠ "?." := by
    simp [isOptionalAccess]
  rw [property?, ← optional]
  cases n.isOptionalAccess <;> simp

theorem childByField?_of_takes {n c : Concrete} (isAccess : n.type = "member_expression")
    (taken : n.Takes c) : n.childByField? "object" = some c := by
  cases taken with
  | object _ found => exact found
  | child ordinary => simp [specialTypes, isAccess] at ordinary
  | callee isCall => simp [isAccess] at isCall
  | argument isCall => simp [isAccess] at isCall
  | template isCall => simp [isAccess] at isCall

theorem not_isComment_of_unwraps {n d : Concrete} (opened : n.Unwraps d) (plain : ¬d.isComment) :
    ¬n.isComment := by
  intro comment
  cases opened with
  | bare => exact plain comment
  | wrapped isParen => simp [isComment, isParen] at comment

theorem successors_access {n target : Concrete} (isAccess : n.type = "member_expression")
    (found : n.childByField? "object" = some target) (plain : ¬target.isComment) :
    n.successors = [target.unwrap] := by
  simp [successors, pending_access isAccess, found, plain]

/-- Only an identifier spells a name without dots other than `this`. -/
theorem spells_name_iff {data : ByteArray} {n : Concrete} {t : Text} (nonempty : t ≠ [])
    (noDot : Node.dot ∉ t) (noThis : t ≠ "this") :
    (n.reduce data).Spells t ↔ n.type = "identifier" ∧ n.text data = t := by
  constructor
  · intro spelt
    cases spelt with
    | name kindEq named => exact head_name_iff.mp ⟨by simpa using kindEq, by simpa using named⟩
    | this => exact absurd rfl noThis
    | property => simp at noDot
  · intro isName
    obtain ⟨kindEq, named⟩ := head_name_iff.mpr isName
    exact Node.Spells.name (by simpa using kindEq) (by simpa using named) nonempty

/-- A converted node has the dotted name of a role exactly when the concrete node
is an access to that property of `goog`. -/
theorem spells_callee_iff {data : ByteArray} {n : Concrete} {role : Role}
    (noDot : n.type = "identifier" → Node.dot ∉ n.text data) :
    (n.reduce data).Spells role.callee ↔ n.GoogAccess data role.property := by
  constructor
  · intro spelt
    rw [Role.callee_eq] at spelt
    generalize calleeEq : "goog" ++ Node.dot :: role.property = t at spelt
    cases spelt with
    | name kindEq named =>
        obtain ⟨isName, textEq⟩ :=
          head_name_iff.mp ⟨by simpa using kindEq, by simpa using named⟩
        have dotted := noDot isName
        rw [textEq, ← calleeEq] at dotted
        simp at dotted
    | this => cases role <;> exact absurd calleeEq (by decide)
    | @property _ target rest p q kindEq named _ onTarget spelt =>
        -- There is only one dot in the name, so it is the one before the property.
        obtain ⟨rfl, -, rfl⟩ := (List.append_cons_inj_of_notMem (by decide)
          role.dot_not_mem_property).mp calleeEq
        obtain ⟨isAccess, property, found, textEq⟩ :=
          head_access_iff.mp ⟨by simpa using kindEq, by simpa using named⟩
        obtain ⟨named, plain⟩ := property?_eq_some_iff.mp found
        have successor : target ∈ n.successors.map (reduce data) := by
          rw [← children_reduce, onTarget]
          exact List.mem_cons_self
        obtain ⟨name, member, rfl⟩ := List.mem_map.mp successor
        obtain ⟨object, taken, -, opened⟩ := mem_successors_iff.mp member
        refine ⟨isAccess, ⟨property, named, textEq⟩, plain, object, name, ?_, opened, ?_⟩
        · exact childByField?_of_takes isAccess taken
        · exact (spells_name_iff (by decide) (by decide) (by decide)).mp spelt
  · rintro ⟨isAccess, ⟨property, named, textEq⟩, plain, target, name, found, opened, isName, goog⟩
    have notComment := not_isComment_of_unwraps opened (by simp [isComment, isName])
    have onTarget : (n.reduce data).children = [name.reduce data] := by
      rw [children_reduce, successors_access isAccess found notComment, unwraps_iff.mp opened]
      rfl
    obtain ⟨kindEq, nameEq⟩ := head_access_iff.mpr
      ⟨isAccess, property, property?_eq_some_iff.mpr ⟨named, plain⟩, textEq⟩
    rw [Role.callee_eq]
    refine Node.Spells.property (by simpa using kindEq) (by simpa using nameEq) ?_ onTarget ?_
    · cases role <;> decide
    · exact (spells_name_iff (by decide) (by decide) (by decide)).mpr ⟨isName, goog⟩

/-! ## Calls -/

/-- The arguments of a call, comments apart. -/
def arguments (n : Concrete) : List Concrete :=
  match n.childByField? "arguments" with
  | none => []
  | some list => if list.type = "arguments" then list.inner else [list].filter (!·.isComment)

/-- The successors of a call are its callee, unless that is a comment, and its arguments. -/
theorem successors_of_isCall {n : Concrete} (isCall : n.type = "call_expression") :
    n.successors =
      ((n.childByField? "function").toList.filter (!·.isComment) ++ n.arguments).map unwrap := by
  rw [successors, pending_call isCall, callChildren, List.filter_append, arguments]
  cases n.childByField? "arguments" with
  | none => rfl
  | some list => by_cases isList : list.type = "arguments" <;> simp [isList, inner]

theorem successors_call {n c : Concrete} (isCall : n.type = "call_expression")
    (found : n.childByField? "function" = some c) (plain : ¬c.isComment) :
    n.successors = c.unwrap :: n.arguments.map unwrap := by
  simp [successors_of_isCall isCall, found, plain]

theorem head?_arguments_iff {n a : Concrete} :
    n.arguments.head? = some a ↔ n.FirstArgument a ∧ ¬a.isComment := by
  constructor
  · intro first
    rw [arguments] at first
    split at first
    · cases first
    · rename_i list found
      split at first
      · rename_i isList
        have kept := (List.mem_filter.mp (List.mem_of_mem_head? first)).2
        exact ⟨FirstArgument.listed found isList first, by simpa using kept⟩
      · rename_i noList
        obtain ⟨member, kept⟩ := List.mem_filter.mp (List.mem_of_mem_head? first)
        cases List.mem_singleton.mp member
        exact ⟨FirstArgument.template found noList, by simpa using kept⟩
  · rintro ⟨isFirst, plain⟩
    cases isFirst with
    | listed found isList first => simpa [arguments, found, isList] using first
    | template found noList => simp [arguments, found, noList, plain]

/-- A converted node is a recognised call exactly when the concrete node is a call, its first
successor has the dotted name and its second one is a string literal. -/
theorem calls_reduce_iff_successors {data : ByteArray} {n : Concrete} {name value : Text} :
    (n.reduce data).Calls name value ↔
      n.type = "call_expression" ∧ ∃ access literal rest,
        n.successors = access :: literal :: rest ∧
        (access.reduce data).qualifiedName? = some name ∧
        literal.type = "string" ∧ Literal.decode (literal.text data) = value := by
  constructor
  · rintro ⟨kindEq, callee, argument, others, children, named, isString, valued⟩
    rw [children_reduce] at children
    obtain ⟨access, later, given, rfl, second⟩ := List.map_eq_cons_iff.mp children
    obtain ⟨literal, rest, rfl, rfl, -⟩ := List.map_eq_cons_iff.mp second
    exact ⟨kind_head_eq_call_iff.mp (by simpa using kindEq), access, literal, rest, given, named,
      head_string_iff.mp ⟨by simpa using isString, by simpa using valued⟩⟩
  · rintro ⟨isCall, access, literal, rest, given, named, isString⟩
    obtain ⟨kindEq, valued⟩ := head_string_iff.mpr isString
    refine ⟨by simpa using kind_head_eq_call_iff.mpr isCall, access.reduce data,
      literal.reduce data, rest.map (reduce data), ?_, named, by simpa using kindEq,
      by simpa using valued⟩
    rw [children_reduce, given]
    rfl

/-- A converted node is a recognised call exactly when the concrete node is. -/
theorem calls_reduce_iff {data : ByteArray} {root n : Concrete} {role : Role} {value : Text}
    (regular : root.Regular data) (reached : root.Reaches n) :
    (n.reduce data).Calls role.callee value ↔ n.Declares data role.property value := by
  have calleeHasNoDot : ∀ {c access : Concrete}, n.type = "call_expression" →
      n.childByField? "function" = some c → c.Unwraps access →
      access.type = "identifier" → Node.dot ∉ access.text data := by
    intro c access isCall found opened
    exact regular.identifiers access
      ((reached.holds.trans (Takes.callee isCall found).holds).trans opened.holds)
  rw [calls_reduce_iff_successors]
  constructor
  · rintro ⟨isCall, access, literal, rest, successors, named, isString⟩
    obtain ⟨c, found, plain⟩ := regular.callees n reached.holds isCall
    rw [successors_call isCall found plain, List.cons.injEq] at successors
    obtain ⟨rfl, arguments⟩ := successors
    obtain ⟨a, more, given, rfl, -⟩ := List.map_eq_cons_iff.mp arguments
    have isFirst := head?_arguments_iff.mp (congrArg List.head? given)
    refine ⟨isCall, ⟨c, c.unwrap, found, c.unwraps_unwrap, ?_⟩,
      ⟨a, a.unwrap, isFirst.1, a.unwraps_unwrap, isString⟩⟩
    exact (spells_callee_iff (calleeHasNoDot isCall found c.unwraps_unwrap)).mp
      (Node.qualifiedName?_eq_some_iff.mp named)
  · rintro ⟨isCall, ⟨c, access, found, opened, isGoog⟩, ⟨a, literal, isFirst, inside, isString⟩⟩
    have calleePlain := not_isComment_of_unwraps opened (by simp [isComment, isGoog.isAccess])
    have argumentPlain := not_isComment_of_unwraps inside (by simp [isComment, isString.1])
    obtain ⟨more, given⟩ :=
      List.head?_eq_some_iff.mp (head?_arguments_iff.mpr ⟨isFirst, argumentPlain⟩)
    refine ⟨isCall, access, literal, more.map unwrap, ?_, ?_, isString⟩
    · rw [successors_call isCall found calleePlain, given, List.map_cons, unwraps_iff.mp opened,
        unwraps_iff.mp inside]
    · exact Node.qualifiedName?_eq_some_iff.mpr
        ((spells_callee_iff (calleeHasNoDot isCall found opened)).mpr isGoog)

/-- The extraction of a converted tree finds what the recognised calls declare
that the conversion reaches. -/
theorem mem_names_ofTree_convert_iff {data : ByteArray} {root : Concrete}
    (regular : root.Regular data) (role : Role) (s : Text) :
    s ∈ (Extraction.ofTree (root.convert data)).names role ↔
      ∃ n, root.Reaches n ∧ n.Declares data role.property s := by
  rw [Extraction.mem_names_ofTree_iff, convert_eq_reduce]
  constructor
  · rintro ⟨m, contained, calls⟩
    obtain ⟨n, reached, rfl⟩ := contains_reduce_iff.mp contained
    exact ⟨n, reached, (calls_reduce_iff regular reached).mp calls⟩
  · rintro ⟨n, reached, declares⟩
    exact ⟨n.reduce data, contains_reduce_iff.mpr ⟨n, reached, rfl⟩,
      (calls_reduce_iff regular reached).mpr declares⟩

/-- End to end: a fresh extractor finds a namespace in a converted tree exactly when
a call that the conversion reaches declares it by `goog.provide` or `goog.require`
respectively. -/
theorem mem_extract_convert_iff (data : ByteArray) (root : Concrete)
    (regular : root.Regular data) (s : Text) :
    (s ∈ ((∅ : Extraction).apply (.extract (root.convert data))).provides ↔
        ∃ n, root.Reaches n ∧ n.Declares data "provide" s) ∧
      (s ∈ ((∅ : Extraction).apply (.extract (root.convert data))).requires ↔
        ∃ n, root.Reaches n ∧ n.Declares data "require" s) :=
  ⟨mem_names_ofTree_convert_iff regular .provide s,
    mem_names_ofTree_convert_iff regular .require s⟩

/-! ## A call in parentheses -/

theorem Regular.of_children {data : ByteArray} {n : Concrete}
    (callee : n.type = "call_expression" →
      ∃ c, n.childByField? "function" = some c ∧ ¬c.isComment)
    (identifier : n.type = "identifier" → Node.dot ∉ n.text data)
    (below : ∀ c ∈ n.children, c.Regular data) : n.Regular data where
  callees := forall_holds callee fun c member => (below c member).callees
  identifiers := forall_holds identifier fun c member => (below c member).identifiers

/-- A call whose callee stands in parentheses and whose argument follows a comment. -/
def wrappedSource : ByteArray := "(goog.provide)(/* a */ 'b')".toUTF8

/-- The callee of the call. -/
def wrappedAccess : Concrete where
  type := "member_expression"
  start := 1
  stop := 13
  children :=
    [{ type := "identifier", start := 1, stop := 5, field := some "object" },
      { type := ".", start := 5, stop := 6, named := false },
      { type := "property_identifier", start := 6, stop := 13, field := some "property" }]

/-- The tree of the call. -/
def wrappedCall : Concrete where
  type := "call_expression"
  stop := 27
  children :=
    [{ type := "parenthesized_expression", stop := 14, field := some "function",
        children := [wrappedAccess] },
      { type := "arguments", start := 14, stop := 27, field := some "arguments",
        children :=
          [{ type := "comment", start := 15, stop := 22 },
            { type := "string", start := 23, stop := 26 }] }]

theorem regular_wrappedCall : wrappedCall.Regular wrappedSource := by
  refine Regular.of_children (fun _ => ⟨_, rfl, by decide⟩) (by decide) ?_
  intro c member
  simp only [wrappedCall, List.mem_cons, List.not_mem_nil, or_false] at member
  rcases member with rfl | rfl
  · refine Regular.of_children (by decide) (by decide) ?_
    simp only [List.mem_singleton, forall_eq]
    refine Regular.of_children (by decide) (by decide) ?_
    simp only [wrappedAccess, List.mem_cons, List.not_mem_nil, or_false, forall_eq_or_imp,
      forall_eq]
    refine ⟨?_, ?_, ?_⟩ <;> exact Regular.of_children (by decide) (by decide) (by simp)
  · refine Regular.of_children (by decide) (by decide) ?_
    simp only [List.mem_cons, List.not_mem_nil, or_false, forall_eq_or_imp, forall_eq]
    refine ⟨?_, ?_⟩ <;> exact Regular.of_children (by decide) (by decide) (by simp)

theorem declares_wrappedCall : wrappedCall.Declares wrappedSource "provide" "b" where
  isCall := rfl
  callee := by
    refine ⟨_, wrappedAccess, rfl, ?_, rfl, ⟨_, rfl, by decide⟩, by decide, ?_⟩
    · exact Unwraps.wrapped rfl rfl (Unwraps.of_type (by decide))
    · exact ⟨_, _, rfl, Unwraps.of_type (by decide), rfl, by decide⟩
  argument :=
    ⟨_, _, FirstArgument.listed rfl rfl rfl, Unwraps.of_type (by decide), rfl, by decide⟩

theorem mem_extract_convert_wrappedCall :
    wrappedCall.Regular wrappedSource ∧
      ("b" : Text) ∈
        ((∅ : Extraction).apply (.extract (wrappedCall.convert wrappedSource))).provides :=
  ⟨regular_wrappedCall,
    (mem_extract_convert_iff wrappedSource wrappedCall regular_wrappedCall "b").1.mpr
      ⟨wrappedCall, Relation.ReflTransGen.refl, declares_wrappedCall⟩⟩

end Concrete

end NamespaceScan

import NamespaceScan.Proofs.Changes

/-!
# Parentheses are transparent

Wherever the conversion takes a node as a child, the node may as well stand in parentheses: as a
member of an ordinary node or of an argument list, as the callee of a call, as a template that is
called, or as the target of a property access. Tokens and comments may stand beside it, and the
parentheses may begin and end anywhere. The converted tree is identical, with all its lines.

The type of the node counts in two places. A comment in parentheses would no longer be skipped,
and the mark of an optional access must stay among the children of the access.
-/

namespace NamespaceScan.Concrete

variable {data : ByteArray} {n p c : Concrete} {children : List Concrete}

/-- The child stands where the conversion of the node takes a child. -/
inductive HasOperand (n c : Concrete) : Prop where
  | member (ordinary : n.type ∉ specialTypes) (named : c.named)
  | callee (isCall : n.type = "call_expression") (role : c.field = some "function")
  | template (isCall : n.type = "call_expression") (role : c.field = some "arguments")
      (noList : c.type ≠ "arguments")
  | target (isAccess : n.type = "member_expression") (role : c.field = some "object")

/-- Parentheses that take the place of a node. The node stands in them without a field, and
there are tokens and comments beside it at most. -/
structure Encloses (p c : Concrete) : Prop where
  isParen : p.type = "parenthesized_expression"
  named : p.named
  field : p.field = c.field
  content : ∃ before after,
    p.children = before ++ { c with named := true, field := none } :: after ∧
      ∀ d ∈ before ++ after, ¬d.named ∨ d.isComment

/-- The children are those of the node, but one of them stands in parentheses. -/
inductive AddsParentheses (n : Concrete) : List Concrete → Prop where
  | intro (before after : List Concrete) {p c : Concrete} (old : n.children = before ++ c :: after)
      (operand : n.HasOperand c) (plain : ¬c.isComment) (noMark : ¬c.isOptionalMark)
      (encloses : p.Encloses c) : AddsParentheses n (before ++ p :: after)

/-- The other tree has parentheses added at any number of places, side by side or nested. -/
def Parenthesized (n : Concrete) : Concrete → Prop :=
  Relation.ReflTransGen (Changed AddsParentheses) n

theorem Encloses.inner_eq (encloses : p.Encloses c) (plain : ¬c.isComment) :
    p.inner = [{ c with named := true, field := none }] := by
  obtain ⟨before, after, children, others⟩ := encloses.content
  have ignored : ∀ part : List Concrete, part ⊆ before ++ after →
      (part.filter (·.named)).filter (fun d => !d.isComment) = [] := by
    intro part inside
    rw [List.filter_filter, List.filter_eq_nil_iff]
    intro d member
    rcases others d (inside member) with unnamed | comment
    · simp [unnamed]
    · simp [comment]
  have plainInside : Concrete.isComment { c with named := true, field := none } = false := by
    simpa [isComment] using plain
  rw [inner, namedChildren, children, List.filter_append, List.filter_append,
    ignored before (List.subset_append_left _ _), List.filter_cons_of_pos rfl,
    List.filter_cons, plainInside, ignored after (List.subset_append_right _ _)]
  rfl

/-- The role of a node is no part of its conversion. -/
theorem reduce_with_role (data : ByteArray) (c : Concrete) (named : Bool)
    (field : Option String) : reduce data { c with named, field } = c.reduce data := by
  rw [reduce_eq data c, reduce_eq]
  rfl

theorem Encloses.child?_eq (encloses : p.Encloses c) (plain : ¬c.isComment) :
    p.child? data = c.child? data := by
  have noComment : ¬p.isComment := by simp [isComment, encloses.isParen]
  have opened : p.unwrap = unwrap { c with named := true, field := none } :=
    unwraps_iff.mp
      (Unwraps.wrapped encloses.isParen (encloses.inner_eq plain) (unwraps_unwrap _))
  calc p.child? data
      = some (p.unwrap.reduce data) := if_neg noComment
    _ = child? data { c with named := true, field := none } := by
      rw [opened, child?, if_neg (by simpa [isComment] using plain)]
    _ = c.child? data := child?_congr rfl (reduce_with_role data c true none)

/-- Parentheses can stand for the node in them. -/
theorem Encloses.standsFor (encloses : p.Encloses c) (operand : n.HasOperand c)
    (plain : ¬c.isComment) (noMark : ¬c.isOptionalMark) : StandsFor data n c p where
  field := encloses.field
  added := encloses.child?_eq plain
  named ordinary := by
    cases operand with
    | member _ named => rw [named, encloses.named]
    | callee isCall | template isCall => simp [specialTypes, isCall] at ordinary
    | target isAccess => simp [specialTypes, isAccess] at ordinary
  arguments isCall isArguments := by
    cases operand with
    | template _ _ noList =>
        have noListEither : p.type ≠ "arguments" := by simp [encloses.isParen]
        rw [argumentNodes, argumentNodes, if_neg noList, if_neg noListEither,
          encloses.child?_eq plain]
    | member ordinary => simp [specialTypes, isCall] at ordinary
    | callee _ role => simp [role] at isArguments
    | target isAccess => simp [isAccess] at isCall
  mark _ := by
    have noMarkEither : p.isOptionalMark = false := by simp [isOptionalMark, encloses.isParen]
    rw [noMarkEither, eq_false_of_ne_true noMark]
  property isAccess isProperty := by
    cases operand with
    | member ordinary => simp [specialTypes, isAccess] at ordinary
    | callee isCall | template isCall => simp [isCall] at isAccess
    | target _ role => simp [role] at isProperty

theorem AddsParentheses.agrees (adds : n.AddsParentheses children) : n.Agrees data children := by
  obtain ⟨before, after, old, operand, plain, noMark, encloses⟩ := adds
  exact (encloses.standsFor operand plain noMark).agrees old

/-- Wherever parentheses are put around nodes that the conversion takes as children, the tree is
converted to the identical syntax tree. -/
theorem convert_of_parenthesized (data : ByteArray) {n m : Concrete}
    (parenthesized : n.Parenthesized m) : m.convert data = n.convert data :=
  convert_eq_of_changes (fun _ _ adds => adds.agrees) parenthesized

/-! ## Parentheses around a callee and an argument -/

/-- A call of a property. -/
def bareSource : ByteArray := "goog.provide('a')".toUTF8

/-- The callee of the call. -/
def bareCallee : Concrete where
  type := "member_expression"
  stop := 12
  field := some "function"
  children :=
    [{ type := "identifier", stop := 4, field := some "object" },
      { type := ".", start := 4, stop := 5, named := false },
      { type := "property_identifier", start := 5, stop := 12, field := some "property" }]

/-- The argument of the call. -/
def bareArgument : Concrete where
  type := "string"
  start := 13
  stop := 16

/-- Its argument list. -/
def bareArguments : Concrete where
  type := "arguments"
  start := 12
  stop := 17
  field := some "arguments"
  children := [bareArgument]

/-- The tree of the call. -/
def bareCall : Concrete where
  type := "call_expression"
  stop := 17
  children := [bareCallee, bareArguments]

/-- Some parentheses around a node, with a comment beside it. -/
def grouped (c : Concrete) : Concrete where
  type := "parenthesized_expression"
  row := 7
  field := c.field
  children :=
    [{ type := "(", named := false }, { type := "comment" },
      { c with named := true, field := none }, { type := ")", named := false }]

theorem encloses_grouped (c : Concrete) : (grouped c).Encloses c where
  isParen := rfl
  named := rfl
  field := rfl
  content :=
    ⟨[{ type := "(", named := false }, { type := "comment" }], [{ type := ")", named := false }],
      rfl, by decide⟩

/-- The call with its callee in parentheses twice and its argument once. -/
def groupedCall : Concrete :=
  bareCall.withChildren
    [grouped (grouped bareCallee), bareArguments.withChildren [grouped bareArgument]]

theorem convert_of_parenthesized_groupedCall :
    bareCall.Parenthesized groupedCall ∧
      groupedCall.convert bareSource = bareCall.convert bareSource := by
  let list : Concrete := bareArguments.withChildren [grouped bareArgument]
  have argument : Changed AddsParentheses bareCall (bareCall.withChildren [bareCallee, list]) :=
    .deeper [bareCallee] [] rfl
      (.here (.intro [] [] rfl (.member (by decide) rfl) (by decide) (by decide)
        (encloses_grouped bareArgument)))
  have callee : Changed AddsParentheses (bareCall.withChildren [bareCallee, list])
      (bareCall.withChildren [grouped bareCallee, list]) :=
    .here (.intro [] [list] rfl (.callee rfl rfl) (by decide) (by decide)
      (encloses_grouped bareCallee))
  have again : Changed AddsParentheses (bareCall.withChildren [grouped bareCallee, list])
      groupedCall :=
    .here (.intro [] [list] rfl (.callee rfl rfl) (by decide) (by decide)
      (encloses_grouped (grouped bareCallee)))
  have parenthesized : bareCall.Parenthesized groupedCall :=
    ((Relation.ReflTransGen.single argument).tail callee).tail again
  exact ⟨parenthesized, convert_of_parenthesized bareSource parenthesized⟩

end NamespaceScan.Concrete

import NamespaceScan.Proofs.Changes
import NamespaceScan.Proofs.Recognition

/-!
# Comments never matter

A comment may stand among the children of any node, and it may be named or not: between the
arguments of a call, beside its callee, in parentheses, around the dot of a property access. As
long as it has no field, the conversion gives the identical tree, so it finds the same
namespaces.
-/

namespace NamespaceScan.Concrete

variable {data : ByteArray} {n comment : Concrete} {before after children : List Concrete}

/-- The children are those of the node and a comment between them that has no field. -/
inductive AddsComment (n : Concrete) : List Concrete → Prop where
  | intro (before after : List Concrete) {comment : Concrete}
      (old : n.children = before ++ after) (isComment : comment.isComment)
      (noField : comment.field = none) : AddsComment n (before ++ comment :: after)

/-- The other tree has comments added at any number of places, also inside of comments. -/
def Commented (n : Concrete) : Concrete → Prop :=
  Relation.ReflTransGen (Changed AddsComment) n

theorem child?_of_isComment (isComment : comment.isComment) : comment.child? data = none :=
  if_pos isComment

/-- Fields lead past a node that has none. -/
theorem childByField?_insert (old : n.children = before ++ after) (noField : comment.field = none)
    (field : String) :
    (n.withChildren (before ++ comment :: after)).childByField? field = n.childByField? field := by
  simp [childByField?, old, List.find?_append, noField]

theorem not_isOptionalMark_of_isComment (isComment : comment.isComment) :
    comment.isOptionalMark = false := by
  simp only [Concrete.isComment, Bool.or_eq_true, decide_eq_true_eq] at isComment
  rcases isComment with isLine | isHtml
  · simp [isOptionalMark, isLine]
  · simp [isOptionalMark, isHtml]

theorem isOptionalAccess_insert (old : n.children = before ++ after)
    (isComment : comment.isComment) :
    (n.withChildren (before ++ comment :: after)).isOptionalAccess = n.isOptionalAccess := by
  simp [isOptionalAccess_eq_any, old, not_isOptionalMark_of_isComment isComment]

theorem AddsComment.agrees (adds : n.AddsComment children) : n.Agrees data children := by
  obtain ⟨before, after, old, isComment, noField⟩ := adds
  have sameField := childByField?_insert old noField
  exact {
    members := fun _ => by
      simp only [namedChildren, old, children_withChildren, List.filter_append, List.filter_cons,
        List.filterMap_append]
      split <;> simp [child?_of_isComment isComment]
    callee := fun _ => by rw [sameField]
    arguments := fun _ => by rw [sameField]
    target := fun _ => by rw [sameField]
    property := fun _ => by
      rw [property?, property?, isOptionalAccess_insert old isComment, sameField] }

/-- Wherever comments are added to a tree, it is converted to the identical syntax tree, and
the namespaces that are found in it are the same. -/
theorem convert_of_commented (data : ByteArray) {n m : Concrete} (commented : n.Commented m) :
    m.convert data = n.convert data ∧
      Extraction.ofTree (m.convert data) = Extraction.ofTree (n.convert data) := by
  have same : m.convert data = n.convert data :=
    convert_eq_of_changes (fun _ _ adds => adds.agrees) commented
  exact ⟨same, congrArg Extraction.ofTree same⟩

/-- The argument list of the wrapped call, which holds a comment already. -/
def wrappedArguments : Concrete where
  type := "arguments"
  start := 14
  stop := 27
  field := some "arguments"
  children :=
    [{ type := "comment", start := 15, stop := 22 }, { type := "string", start := 23, stop := 26 }]

/-- The callee of the wrapped call with a comment inside of its parentheses. -/
def annotatedCallee : Concrete where
  type := "parenthesized_expression"
  stop := 14
  field := some "function"
  children := [{ type := "html_comment" }, wrappedAccess]

/-- The wrapped call with that callee, and behind it a comment that is not named and holds an
error. -/
def annotatedCall : Concrete :=
  wrappedCall.withChildren
    [annotatedCallee, { type := "comment", named := false, children := [{ type := "ERROR" }] },
      wrappedArguments]

theorem convert_of_commented_annotatedCall :
    wrappedCall.Commented annotatedCall ∧
      annotatedCall.convert wrappedSource = wrappedCall.convert wrappedSource := by
  have inside : Changed AddsComment wrappedCall
      (wrappedCall.withChildren [annotatedCallee, wrappedArguments]) :=
    .deeper [] [wrappedArguments] rfl (.here (.intro [] [wrappedAccess] rfl (by decide) rfl))
  have behind : Changed AddsComment
      (wrappedCall.withChildren [annotatedCallee, wrappedArguments]) annotatedCall :=
    .here (.intro [annotatedCallee] [wrappedArguments] rfl (by decide) rfl)
  have commented : wrappedCall.Commented annotatedCall :=
    (Relation.ReflTransGen.single inside).tail behind
  exact ⟨commented, (convert_of_commented wrappedSource commented).1⟩

end NamespaceScan.Concrete

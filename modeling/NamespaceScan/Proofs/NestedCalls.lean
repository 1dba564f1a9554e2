import NamespaceScan.Proofs.Conversion

/-!
# Calls that are nested in other nodes

A call that is nested in a concrete tree should be found however deep it stands. The
conversion of a call keeps its callee and its arguments only, though, and that of a
property access its target only: where recovery from a syntax error puts another node
among their children, the calls in that node are lost.

A path that avoids such nodes leads to a converted call, and only such paths do.
-/

namespace NamespaceScan.Concrete

/-- The types of the nodes that have nothing nested in them. -/
def closedTypes : List String := ["comment", "html_comment", "identifier", "this", "string"]

/-- The node is nested in its parent: it is named, the parent is open, and the node is
not the property that the parent names. -/
structure Nests (n c : Concrete) : Prop where
  member : c ∈ n.children
  named : c.named
  isOpen : n.type ∉ closedTypes
  noProperty : n.type = "member_expression" → n.childByField? "property" ≠ some c

/-- The child has no role that the conversion of its parent knows: it is neither the
callee nor the arguments of a call, or it is not the target of a property access. -/
inductive Strays (n c : Concrete) : Prop where
  | call (isCall : n.type = "call_expression") (noCallee : n.childByField? "function" ≠ some c)
      (noArguments : n.childByField? "arguments" ≠ some c)
  | access (isAccess : n.type = "member_expression") (noTarget : n.childByField? "object" ≠ some c)

/-! ## Paths without strays lead to converted nodes -/

theorem Nests.not_isComment {n c : Concrete} (nests : n.Nests c) : ¬n.isComment := by
  intro comment
  refine nests.isOpen ?_
  simp only [isComment, Bool.or_eq_true, decide_eq_true_eq] at comment
  rcases comment with isComment | isHtml
  · simp [closedTypes, isComment]
  · simp [closedTypes, isHtml]

/-- How the conversion comes to a node on its way down: the node is converted, or what
stands in its parentheses is, or the node is the argument list of a converted call. -/
inductive Meets (root n : Concrete) : Prop where
  | converted (reached : root.Reaches n)
  | opened (reached : root.Reaches n.unwrap)
  | list {call : Concrete} (reached : root.Reaches call) (isCall : call.type = "call_expression")
      (found : call.childByField? "arguments" = some n) (isList : n.type = "arguments")

theorem Meets.of_takes {root n c : Concrete} (reached : root.Reaches n) (taken : n.Takes c)
    (plain : ¬c.isComment) : root.Meets c :=
  Meets.opened (reached.tail ⟨c, taken, plain, c.unwraps_unwrap⟩)

theorem Meets.of_converted {root n c : Concrete} (reached : root.Reaches n) (nests : n.Nests c)
    (noStray : ¬n.Strays c) (plain : ¬c.isComment) : root.Meets c := by
  by_cases isCall : n.type = "call_expression"
  · by_cases isCallee : n.childByField? "function" = some c
    · exact of_takes reached (Takes.callee isCall isCallee) plain
    · by_cases isArguments : n.childByField? "arguments" = some c
      · by_cases isList : c.type = "arguments"
        · exact Meets.list reached isCall isArguments isList
        · exact of_takes reached (Takes.template isCall isArguments isList) plain
      · exact absurd (Strays.call isCall isCallee isArguments) noStray
  · by_cases isAccess : n.type = "member_expression"
    · by_cases isTarget : n.childByField? "object" = some c
      · exact of_takes reached (Takes.object isAccess isTarget) plain
      · exact absurd (Strays.access isAccess isTarget) noStray
    · have isOpen := nests.isOpen
      simp only [closedTypes, List.mem_cons, List.not_mem_nil, or_false, not_or] at isOpen
      refine of_takes reached (Takes.child ?_ nests.member nests.named) plain
      simp [specialTypes, isCall, isAccess, isOpen]

/-- Parentheses around a single node lead to that node. -/
theorem Meets.of_opened {root n c : Concrete} (reached : root.Reaches n.unwrap)
    (nests : n.Nests c) (noStray : ¬n.Strays c) (plain : ¬c.isComment) : root.Meets c := by
  have opened := n.unwraps_unwrap
  generalize n.unwrap = d at opened reached
  cases opened with
  | bare => exact of_converted reached nests noStray plain
  | @wrapped _ inside _ isParen single below =>
      have member : c ∈ n.inner := by
        simp [inner, namedChildren, nests.member, nests.named, plain]
      rw [single, List.mem_singleton] at member
      subst member
      rw [← unwraps_iff.mp below] at reached
      exact Meets.opened reached

theorem Meets.step {root n c : Concrete} (met : root.Meets n) (nests : n.Nests c)
    (noStray : ¬n.Strays c) (plain : ¬c.isComment) : root.Meets c := by
  cases met with
  | converted reached => exact of_converted reached nests noStray plain
  | opened reached => exact of_opened reached nests noStray plain
  | list reached isCall found isList =>
      exact of_takes reached (Takes.argument isCall found isList nests.member nests.named) plain

theorem meets_of_path {root n : Concrete}
    (path : Relation.ReflTransGen (fun p c => p.Nests c ∧ ¬p.Strays c) root n)
    (plain : ¬n.isComment) : root.Meets n := by
  induction path with
  | refl => exact Meets.converted Relation.ReflTransGen.refl
  | tail _ step ih => exact (ih step.1.not_isComment).step step.1 step.2 plain

theorem Meets.reaches_call {root n : Concrete} (met : root.Meets n)
    (isCall : n.type = "call_expression") : root.Reaches n := by
  cases met with
  | converted reached => exact reached
  | opened reached =>
      rwa [unwrap_of_type (by simp [isCall])] at reached
  | list _ _ _ isList => simp [isCall] at isList

/-! ## Converted nodes stand on paths without strays -/

/-- A step down the tree that the conversion can follow. -/
def Keeps (n c : Concrete) : Prop := c ∈ n.children ∧ ¬n.Strays c

theorem not_strays_ordinary {n c : Concrete} (noCall : n.type ≠ "call_expression")
    (noAccess : n.type ≠ "member_expression") : ¬n.Strays c := by
  rintro (⟨isCall, -, -⟩ | ⟨isAccess, -⟩)
  · exact noCall isCall
  · exact noAccess isAccess

theorem keeps_ordinary {n c : Concrete} (noCall : n.type ≠ "call_expression")
    (noAccess : n.type ≠ "member_expression") (member : c ∈ n.children) : n.Keeps c :=
  ⟨member, not_strays_ordinary noCall noAccess⟩

theorem keeps_callee {n c : Concrete} (isCall : n.type = "call_expression")
    (found : n.childByField? "function" = some c) : n.Keeps c := by
  refine ⟨mem_children_of_childByField? found, ?_⟩
  rintro (⟨-, noCallee, -⟩ | ⟨isAccess, -⟩)
  · exact noCallee found
  · simp [isCall] at isAccess

theorem keeps_arguments {n c : Concrete} (isCall : n.type = "call_expression")
    (found : n.childByField? "arguments" = some c) : n.Keeps c := by
  refine ⟨mem_children_of_childByField? found, ?_⟩
  rintro (⟨-, -, noArguments⟩ | ⟨isAccess, -⟩)
  · exact noArguments found
  · simp [isCall] at isAccess

theorem keeps_target {n c : Concrete} (isAccess : n.type = "member_expression")
    (found : n.childByField? "object" = some c) : n.Keeps c := by
  refine ⟨mem_children_of_childByField? found, ?_⟩
  rintro (⟨isCall, -, -⟩ | ⟨-, noTarget⟩)
  · simp [isAccess] at isCall
  · exact noTarget found

theorem Takes.keeps {n c : Concrete} (taken : n.Takes c) : Relation.ReflTransGen Keeps n c := by
  cases taken with
  | callee isCall found => exact Relation.ReflTransGen.single (keeps_callee isCall found)
  | argument isCall found isList member named =>
      refine (Relation.ReflTransGen.single (keeps_arguments isCall found)).tail ?_
      exact keeps_ordinary (by simp [isList]) (by simp [isList]) member
  | template isCall found _ => exact Relation.ReflTransGen.single (keeps_arguments isCall found)
  | object isAccess found => exact Relation.ReflTransGen.single (keeps_target isAccess found)
  | child ordinary member _ =>
      obtain ⟨noCall, -, -, -, noAccess⟩ := not_mem_specialTypes_iff.mp ordinary
      exact Relation.ReflTransGen.single (keeps_ordinary noCall noAccess member)

theorem Unwraps.keeps {n d : Concrete} (opened : n.Unwraps d) :
    Relation.ReflTransGen Keeps n d := by
  induction opened with
  | bare => exact Relation.ReflTransGen.refl
  | wrapped isParen single _ ih =>
      have member := mem_children_of_mem_inner (single ▸ List.mem_singleton_self _)
      exact ih.head (keeps_ordinary (by simp [isParen]) (by simp [isParen]) member)

theorem Reaches.keeps {root n : Concrete} (reached : root.Reaches n) :
    Relation.ReflTransGen Keeps root n := by
  induction reached with
  | refl => exact Relation.ReflTransGen.refl
  | tail _ step ih =>
      obtain ⟨c, taken, -, opened⟩ := step
      exact (ih.trans taken.keeps).trans opened.keeps

/-- Every nested call is in the converted tree if its path has no strays, and the calls
of the converted tree come from calls on such paths. -/
theorem contains_nested_call (data : ByteArray) (root : Concrete) :
    (∀ n : Concrete, Relation.ReflTransGen (fun p c => p.Nests c ∧ ¬p.Strays c) root n →
      n.type = "call_expression" →
        (root.convert data).Contains (n.reduce data) ∧ (n.reduce data).kind = .call ∧
          (n.reduce data).line = n.line) ∧
      ∀ m : Node, (root.convert data).Contains m → m.kind = .call →
        ∃ n : Concrete, n.type = "call_expression" ∧
          Relation.ReflTransGen (fun p c => c ∈ p.children ∧ ¬p.Strays c) root n ∧
          n.reduce data = m := by
  rw [convert_eq_reduce]
  constructor
  · intro n path isCall
    have met := meets_of_path path (by simp [isComment, isCall])
    refine ⟨contains_reduce_iff.mpr ⟨n, met.reaches_call isCall, rfl⟩, ?_, line_reduce data n⟩
    rw [kind_reduce]
    exact kind_head_eq_call_iff.mpr isCall
  · intro m contained isCall
    obtain ⟨n, reached, rfl⟩ := contains_reduce_iff.mp contained
    rw [kind_reduce] at isCall
    exact ⟨n, kind_head_eq_call_iff.mp isCall, reached.keeps, rfl⟩

/-! ## A call in an error -/

/-- A call that is preceded by a stray character, between another callee and its
arguments. -/
def strayedSource : ByteArray := "f @\ngoog.provide('a') (b)".toUTF8

/-- The inner call, on the second line. -/
def innerCall : Concrete where
  type := "call_expression"
  start := 4
  stop := 21
  row := 1
  children :=
    [{ type := "member_expression", start := 4, stop := 16, row := 1, field := some "function",
        children :=
          [{ type := "identifier", start := 4, stop := 8, row := 1, field := some "object" },
            { type := ".", start := 8, stop := 9, row := 1, named := false },
            { type := "property_identifier", start := 9, stop := 16, row := 1,
              field := some "property" }] },
      { type := "arguments", start := 16, stop := 21, row := 1, field := some "arguments",
        children := [{ type := "string", start := 17, stop := 20, row := 1 }] }]

/-- The error that holds the inner call. -/
def innerError : Concrete where
  type := "ERROR"
  start := 2
  stop := 21
  hasError := true
  children := [innerCall]

/-- The callee of the outer call. -/
def calleeName : Concrete where
  type := "identifier"
  stop := 1
  field := some "function"

/-- The argument of the outer call. -/
def argumentName : Concrete where
  type := "identifier"
  start := 23
  stop := 24
  row := 1

/-- The outer call, with the error between its callee and its arguments. -/
def outerCall : Concrete where
  type := "call_expression"
  stop := 25
  hasError := true
  children :=
    [calleeName, innerError,
      { type := "arguments", start := 22, stop := 25, row := 1, field := some "arguments",
        children := [argumentName] }]

/-- A script that holds the error and nothing else. -/
def errorScript : Concrete where
  type := "program"
  stop := 25
  hasError := true
  children := [innerError]

theorem nests_ordinary {n c : Concrete} (member : c ∈ n.children) (named : c.named)
    (isOpen : n.type ∉ closedTypes) (noAccess : n.type ≠ "member_expression") : n.Nests c where
  member := member
  named := named
  isOpen := isOpen
  noProperty isAccess := absurd isAccess noAccess

theorem nests_innerError : errorScript.Nests innerError :=
  nests_ordinary (List.mem_singleton_self _) rfl (by decide) (by decide)

theorem nests_innerCall : innerError.Nests innerCall :=
  nests_ordinary (List.mem_singleton_self _) rfl (by decide) (by decide)

theorem contains_nested_call_errorScript :
    Relation.ReflTransGen (fun p c => p.Nests c ∧ ¬p.Strays c) errorScript innerCall ∧
      (errorScript.convert strayedSource).Contains (innerCall.reduce strayedSource) := by
  have path : Relation.ReflTransGen (fun p c => p.Nests c ∧ ¬p.Strays c) errorScript innerCall :=
    .tail (.single ⟨nests_innerError, not_strays_ordinary (by decide) (by decide)⟩)
      ⟨nests_innerCall, not_strays_ordinary (by decide) (by decide)⟩
  exact ⟨path, ((contains_nested_call strayedSource errorScript).1 innerCall path rfl).1⟩

/-- The outer call as a statement. -/
def strayedStatement : Concrete where
  type := "expression_statement"
  stop := 25
  hasError := true
  children := [outerCall]

/-- A script with the outer call as its only statement. -/
def strayedScript : Concrete where
  type := "program"
  stop := 25
  hasError := true
  children := [strayedStatement]

theorem nests_strayed : Relation.ReflTransGen Nests strayedScript innerCall := by
  have statement : strayedScript.Nests strayedStatement :=
    nests_ordinary (List.mem_singleton_self _) rfl (by decide) (by decide)
  have outer : strayedStatement.Nests outerCall :=
    nests_ordinary (List.mem_singleton_self _) rfl (by decide) (by decide)
  have error : outerCall.Nests innerError :=
    nests_ordinary (by simp [outerCall]) rfl (by decide) (by decide)
  exact (((Relation.ReflTransGen.single statement).tail outer).tail error).tail nests_innerCall

theorem eq_outerCall_of_reaches {n : Concrete} (reached : strayedScript.Reaches n)
    (isCall : n.type = "call_expression") : n = outerCall := by
  have script : strayedScript.successors = [strayedStatement] := by cbv
  have statement : strayedStatement.successors = [outerCall] := by cbv
  have operands : outerCall.successors = [calleeName, argumentName] := by cbv
  rcases reaches_iff.mp reached with rfl | ⟨d, member, reached⟩
  · exact absurd isCall (by decide)
  rw [script, List.mem_singleton] at member
  subst member
  rcases reaches_iff.mp reached with rfl | ⟨d, member, reached⟩
  · exact absurd isCall (by decide)
  rw [statement, List.mem_singleton] at member
  subst member
  rcases reaches_iff.mp reached with rfl | ⟨d, member, reached⟩
  · rfl
  rw [operands, List.mem_cons, List.mem_singleton] at member
  rcases member with rfl | rfl
  all_goals
    rcases reaches_iff.mp reached with rfl | ⟨d, member, -⟩
    · exact absurd isCall (by decide)
    · cases member

/-- The inner call is nested in the script, but the converted tree has no call on its
line. -/
theorem innerCall_lost :
    Relation.ReflTransGen Nests strayedScript innerCall ∧ innerCall.type = "call_expression" ∧
      ¬∃ m, (strayedScript.convert strayedSource).Contains m ∧ m.kind = .call ∧
        m.line = innerCall.line := by
  refine ⟨nests_strayed, rfl, ?_⟩
  rintro ⟨m, contained, isCall, lineEq⟩
  rw [convert_eq_reduce] at contained
  obtain ⟨n, reached, rfl⟩ := contains_reduce_iff.mp contained
  rw [kind_reduce] at isCall
  cases eq_outerCall_of_reaches reached (kind_head_eq_call_iff.mp isCall)
  rw [line_reduce] at lineEq
  exact absurd lineEq (by decide)

end NamespaceScan.Concrete

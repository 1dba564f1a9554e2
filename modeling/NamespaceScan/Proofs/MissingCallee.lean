import NamespaceScan.Proofs.Recognition

/-!
# Calls without a callee

The first child of a converted call should be its callee. The conversion leaves out what is
absent or a comment, though, so in a call without a callee the arguments move up: the first one
takes the place of the callee, and the second one that of the first.

Such a call contributes a namespace exactly when its first argument names the function and its
second argument is a string literal.
-/

namespace NamespaceScan.Concrete

variable {data : ByteArray} {n : Concrete}

/-- The call has no callee: no child stands in the field, or a comment does. -/
def LacksCallee (n : Concrete) : Prop :=
  ∀ c, n.childByField? "function" = some c → c.isComment

theorem successors_of_lacksCallee (isCall : n.type = "call_expression") (lacks : n.LacksCallee) :
    n.successors = n.arguments.map unwrap := by
  have noCallee : (n.childByField? "function").toList.filter (!·.isComment) = [] := by
    rw [List.filter_eq_nil_iff]
    intro c found
    simp [lacks c (Option.mem_toList.mp found)]
  rw [successors_of_isCall isCall, noCallee, List.nil_append]

/-- The first two arguments take the places of the callee and the first argument. -/
theorem calls_reduce_of_lacksCallee (isCall : n.type = "call_expression")
    (lacks : n.LacksCallee) {name value : Text} :
    (n.reduce data).Calls name value ↔
      ∃ access literal rest, n.arguments = access :: literal :: rest ∧
        (access.unwrap.reduce data).qualifiedName? = some name ∧
        literal.unwrap.type = "string" ∧ Literal.decode (literal.unwrap.text data) = value := by
  rw [calls_reduce_iff_successors, successors_of_lacksCallee isCall lacks]
  constructor
  · rintro ⟨-, first, second, others, moved, named, isString⟩
    obtain ⟨access, later, given, rfl, behind⟩ := List.map_eq_cons_iff.mp moved
    obtain ⟨literal, rest, rfl, rfl, -⟩ := List.map_eq_cons_iff.mp behind
    exact ⟨access, literal, rest, given, named, isString⟩
  · rintro ⟨access, literal, rest, given, named, isString⟩
    refine ⟨isCall, access.unwrap, literal.unwrap, rest.map unwrap, ?_, named, isString⟩
    rw [given, List.map_cons, List.map_cons]

/-- The first child of a converted call is its callee if it has one. A call without a callee
contributes a namespace exactly when its first argument names the function that is called and
its second argument is a string literal, so with one argument or none it contributes nothing. -/
theorem first_child_of_call (data : ByteArray) {root n : Concrete} (reached : root.Reaches n)
    (isCall : n.type = "call_expression") :
    (root.convert data).Contains (n.reduce data) ∧
      (∀ c, n.childByField? "function" = some c → ¬c.isComment →
        (n.reduce data).children =
          c.unwrap.reduce data :: n.arguments.map fun argument => argument.unwrap.reduce data) ∧
      (n.LacksCallee → ∀ (role : Role) (value : Text),
        (n.reduce data).Calls role.callee value ↔
          ∃ access literal rest, n.arguments = access :: literal :: rest ∧
            (access.unwrap.reduce data).qualifiedName? = some role.callee ∧
            literal.unwrap.type = "string" ∧
            Literal.decode (literal.unwrap.text data) = value) := by
  refine ⟨reached.contains_convert data, ?_,
    fun lacks role value => calls_reduce_of_lacksCallee isCall lacks⟩
  intro c found plain
  rw [children_reduce, successors_call isCall found plain, List.map_cons, List.map_map]
  rfl

/-! ## An argument list on its own -/

/-- An argument list with no callee before it. -/
def nakedSource : ByteArray := "(goog.provide, 'a')".toUTF8

/-- Its first argument. -/
def nakedAccess : Concrete where
  type := "member_expression"
  start := 1
  stop := 13
  children :=
    [{ type := "identifier", start := 1, stop := 5, field := some "object" },
      { type := ".", start := 5, stop := 6, named := false },
      { type := "property_identifier", start := 6, stop := 13, field := some "property" }]

/-- Its second argument. -/
def nakedLiteral : Concrete where
  type := "string"
  start := 15
  stop := 18

/-- A call that has the argument list only. -/
def nakedCall : Concrete where
  type := "call_expression"
  stop := 19
  children :=
    [{ type := "arguments", stop := 19, field := some "arguments",
        children := [nakedAccess, nakedLiteral] }]

/-- A script that consists of the call. -/
def nakedScript : Concrete where
  type := "program"
  stop := 19
  children := [nakedCall]

theorem reaches_nakedCall : nakedScript.Reaches nakedCall := by
  refine Relation.ReflTransGen.single ⟨nakedCall, ?_, by decide, Unwraps.of_type (by decide)⟩
  exact Takes.child (by decide) (List.mem_singleton_self _) rfl

theorem lacksCallee_nakedCall : nakedCall.LacksCallee := by
  intro c found
  cases found

/-- The first argument names the function, and the second one is a string literal. -/
theorem arguments_nakedCall :
    ∃ access literal rest, nakedCall.arguments = access :: literal :: rest ∧
      (access.unwrap.reduce nakedSource).qualifiedName? = some Role.provide.callee ∧
      literal.unwrap.type = "string" ∧
      Literal.decode (literal.unwrap.text nakedSource) = "a" := by
  have isGoog : nakedAccess.GoogAccess nakedSource Role.provide.property :=
    ⟨rfl, ⟨_, rfl, by decide⟩, by decide, _, _, rfl, Unwraps.of_type (by decide), rfl, by decide⟩
  have access : nakedAccess.unwrap = nakedAccess := unwrap_of_type (by decide)
  have literal : nakedLiteral.unwrap = nakedLiteral := unwrap_of_type (by decide)
  refine ⟨nakedAccess, nakedLiteral, [], rfl, ?_, ?_, ?_⟩
  · rw [access]
    exact Node.qualifiedName?_eq_some_iff.mpr ((spells_callee_iff (by decide)).mpr isGoog)
  · rw [literal]
    rfl
  · rw [literal]
    decide

theorem first_child_of_call_nakedCall :
    nakedScript.Reaches nakedCall ∧ nakedCall.type = "call_expression" ∧ nakedCall.LacksCallee ∧
      (nakedCall.reduce nakedSource).Calls Role.provide.callee "a" := by
  refine ⟨reaches_nakedCall, rfl, lacksCallee_nakedCall, ?_⟩
  obtain ⟨-, -, contributes⟩ := first_child_of_call nakedSource reaches_nakedCall rfl
  exact (contributes lacksCallee_nakedCall .provide "a").mpr arguments_nakedCall

/-- The call has no callee, and still the extraction finds what it seems to provide. -/
theorem provided_without_callee :
    nakedScript.Reaches nakedCall ∧ nakedCall.type = "call_expression" ∧
      nakedCall.LacksCallee ∧ (nakedCall.reduce nakedSource).Calls "goog.provide" "a" ∧
      ("a" : Text) ∈
        ((∅ : Extraction).apply (.extract (nakedScript.convert nakedSource))).provides := by
  have calls : (nakedCall.reduce nakedSource).Calls Role.provide.callee "a" :=
    (calls_reduce_of_lacksCallee rfl lacksCallee_nakedCall).mpr arguments_nakedCall
  refine ⟨reaches_nakedCall, rfl, lacksCallee_nakedCall, calls, ?_⟩
  apply (Extraction.mem_names_ofTree_iff _ .provide _).mpr
  exact ⟨_, reaches_nakedCall.contains_convert nakedSource, calls⟩

end NamespaceScan.Concrete

import NamespaceScan.Proofs.Traversal
import NamespaceScan.Tree.Convert

/-!
# The conversion of concrete trees

The stack of unfinished nodes computes the recursive definition: at every moment
the result is the current frame completed and then closed into the frames around
it.

`Concrete.Reaches` states without recursion which concrete nodes the conversion
comes to. The nodes of the converted tree are the conversions of exactly those.
-/

namespace NamespaceScan.Concrete

/-! ## The stack and the recursion -/

theorem reduce_eq (data : ByteArray) (n : Concrete) :
    n.reduce data = { n.head data with children := n.successors.map (reduce data) } := by
  rw [reduce]
  congr 1
  exact List.attach_map_val

theorem children_reduce (data : ByteArray) (n : Concrete) :
    (n.reduce data).children = n.successors.map (reduce data) := by
  rw [reduce_eq]

/-- The node of a frame with everything converted that is waiting in it. -/
def Frame.complete (data : ByteArray) (f : Frame) : Node :=
  { f.head with
    children := f.done.reverse ++
      ((f.waiting.filter fun child => !child.isComment).map unwrap).map (reduce data) }

/-- A finished node closed into the innermost frame, which is completed and closed
into the next one, up to the outermost frame. -/
def closeInto (data : ByteArray) (node : Node) (outer : List Frame) : Node :=
  outer.foldl (fun node f => { f with done := node :: f.done }.complete data) node

theorem complete_enter (data : ByteArray) (n : Concrete) :
    (Frame.enter data n).complete data = n.reduce data := by
  rw [reduce_eq]
  rfl

theorem complete_comment (data : ByteArray) (head : Node) (done : List Node)
    {child : Concrete} (later : List Concrete) (comment : child.isComment) :
    Frame.complete data ⟨head, done, child :: later⟩ = Frame.complete data ⟨head, done, later⟩ := by
  simp [Frame.complete, comment]

theorem complete_child (data : ByteArray) (head : Node) (done : List Node)
    {child : Concrete} (later : List Concrete) (plain : ¬child.isComment) :
    Frame.complete data ⟨head, done, child :: later⟩ =
      Frame.complete data ⟨head, child.unwrap.reduce data :: done, later⟩ := by
  simp [Frame.complete, plain]

/-- The invariant of the stack: what it will return is already determined. -/
theorem convertFrom_eq (data : ByteArray) (current : Frame) (outer : List Frame) :
    convertFrom data current outer = closeInto data (current.complete data) outer := by
  induction current, outer using convertFrom.induct data with
  | case1 current finished =>
      rcases current with ⟨head, done, waiting⟩
      subst finished
      rw [convertFrom.eq_def]
      simp [closeInto, Frame.complete, Frame.close]
  | case2 current finished parent rest ih =>
      rcases current with ⟨head, done, waiting⟩
      subst finished
      rw [convertFrom.eq_def]
      dsimp only
      rw [ih]
      simp [closeInto, Frame.complete, Frame.close]
  | case3 current outer child later next comment ih =>
      rcases current with ⟨head, done, waiting⟩
      subst next
      rw [convertFrom.eq_def]
      dsimp only
      rw [if_pos comment, ih, complete_comment data head done later comment]
  | case4 current outer child later next plain ih =>
      rcases current with ⟨head, done, waiting⟩
      subst next
      rw [convertFrom.eq_def]
      dsimp only
      rw [if_neg plain, ih, complete_enter, complete_child data head done later plain]
      rfl

theorem convert_eq_reduce (data : ByteArray) (root : Concrete) :
    root.convert data = root.reduce data := by
  rw [convert, convertFrom_eq, complete_enter]
  rfl

/-! ## The nodes that the conversion reaches -/

/-- What is left of a node when its parentheses are taken away: parentheses around
a single named node, comments apart, give way to that node. -/
inductive Unwraps : Concrete → Concrete → Prop where
  | bare {n : Concrete}
      (noSingle : n.type = "parenthesized_expression" → ∀ c, n.inner ≠ [c]) : Unwraps n n
  | wrapped {n c d : Concrete} (isParen : n.type = "parenthesized_expression")
      (single : n.inner = [c]) (inside : Unwraps c d) : Unwraps n d

theorem Unwraps.of_type {n : Concrete} (noParen : n.type ≠ "parenthesized_expression") :
    n.Unwraps n :=
  Unwraps.bare fun isParen => absurd isParen noParen

theorem unwraps_unwrap (n : Concrete) : n.Unwraps n.unwrap := by
  induction n using unwrap.induct with
  | case1 n isParen c single ih =>
      rw [unwrap, if_pos isParen]
      split
      · rename_i d same
        rw [single] at same
        cases same
        exact Unwraps.wrapped isParen single ih
      · rename_i several
        exact absurd single (several c)
  | case2 n isParen several =>
      rw [unwrap, if_pos isParen]
      split
      · rename_i d single
        exact absurd single (several d)
      · exact Unwraps.bare fun _ => several
  | case3 n noParen =>
      rw [unwrap, if_neg noParen]
      exact Unwraps.of_type noParen

theorem Unwraps.unique {n d e : Concrete} (first : n.Unwraps d) (second : n.Unwraps e) :
    d = e := by
  induction first with
  | bare noSingle =>
      cases second with
      | bare => rfl
      | wrapped isParen single => exact absurd single (noSingle isParen _)
  | wrapped isParen single _ ih =>
      cases second with
      | bare noSingle => exact absurd single (noSingle isParen _)
      | wrapped _ same inside =>
          rw [single] at same
          cases same
          exact ih inside

theorem unwraps_iff {n d : Concrete} : n.Unwraps d ↔ n.unwrap = d := by
  constructor
  · exact n.unwraps_unwrap.unique
  · rintro rfl
    exact n.unwraps_unwrap

theorem unwrap_of_type {n : Concrete} (noParen : n.type ≠ "parenthesized_expression") :
    n.unwrap = n :=
  unwraps_iff.mp (Unwraps.of_type noParen)

/-- The types of the nodes that do not keep all of their named children. -/
def specialTypes : List String :=
  ["call_expression", "identifier", "this", "string", "member_expression"]

theorem not_mem_specialTypes_iff {type : String} :
    type ∉ specialTypes ↔
      type ≠ "call_expression" ∧ type ≠ "identifier" ∧ type ≠ "this" ∧ type ≠ "string" ∧
        type ≠ "member_expression" := by
  simp only [specialTypes, List.mem_cons, List.not_mem_nil, or_false, not_or, ne_eq]

theorem pending_call {n : Concrete} (isCall : n.type = "call_expression") :
    n.pending = n.callChildren :=
  if_pos isCall

theorem pending_access {n : Concrete} (isAccess : n.type = "member_expression") :
    n.pending = (n.childByField? "object").toList := by
  simp [pending, isAccess]

theorem pending_leaf {n : Concrete}
    (isLeaf : n.type = "identifier" ∨ n.type = "this" ∨ n.type = "string") : n.pending = [] := by
  rcases isLeaf with isName | isThis | isString
  · simp [pending, isName]
  · simp [pending, isThis]
  · simp [pending, isString]

theorem pending_ordinary {n : Concrete} (ordinary : n.type ∉ specialTypes) :
    n.pending = n.namedChildren := by
  obtain ⟨noCall, noName, noThis, noString, noAccess⟩ := not_mem_specialTypes_iff.mp ordinary
  simp [pending, noCall, noName, noThis, noString, noAccess]

/-- The conversion takes a node as a child of another. -/
inductive Takes (n : Concrete) : Concrete → Prop where
  | callee {c : Concrete} (isCall : n.type = "call_expression")
      (found : n.childByField? "function" = some c) : Takes n c
  | argument {list c : Concrete} (isCall : n.type = "call_expression")
      (found : n.childByField? "arguments" = some list) (isList : list.type = "arguments")
      (member : c ∈ list.children) (named : c.named) : Takes n c
  | template {c : Concrete} (isCall : n.type = "call_expression")
      (found : n.childByField? "arguments" = some c) (noList : c.type ≠ "arguments") : Takes n c
  | object {c : Concrete} (isAccess : n.type = "member_expression")
      (found : n.childByField? "object" = some c) : Takes n c
  | child {c : Concrete} (ordinary : n.type ∉ specialTypes) (member : c ∈ n.children)
      (named : c.named) : Takes n c

theorem takes_of_mem_pending {n c : Concrete} (member : c ∈ n.pending) : n.Takes c := by
  rw [pending] at member
  split at member
  · rename_i isCall
    rcases List.mem_append.mp member with callee | argument
    · exact Takes.callee isCall (Option.mem_toList.mp callee)
    · split at argument
      · cases argument
      · rename_i list found
        split at argument
        · rename_i isList
          obtain ⟨inList, named⟩ := List.mem_filter.mp argument
          exact Takes.argument isCall found isList inList named
        · rename_i noList
          cases List.mem_singleton.mp argument
          exact Takes.template isCall found noList
  · rename_i noCall
    split at member
    · cases member
    · rename_i noLeaf
      split at member
      · rename_i isAccess
        exact Takes.object isAccess (Option.mem_toList.mp member)
      · rename_i noAccess
        obtain ⟨inChildren, named⟩ := List.mem_filter.mp member
        refine Takes.child ?_ inChildren named
        simp only [not_or] at noLeaf
        simp [specialTypes, noCall, noLeaf, noAccess]

theorem mem_pending_of_takes {n c : Concrete} (taken : n.Takes c) : c ∈ n.pending := by
  cases taken with
  | callee isCall found => simp [pending_call isCall, callChildren, found]
  | argument isCall found isList member named =>
      simp [pending_call isCall, callChildren, found, isList, namedChildren, member, named]
  | template isCall found noList => simp [pending_call isCall, callChildren, found, noList]
  | object isAccess found => simp [pending_access isAccess, found]
  | child ordinary member named =>
      rw [pending_ordinary ordinary]
      exact List.mem_filter.mpr ⟨member, named⟩

/-- One step of the conversion down the tree: it takes a node that is no comment
and goes to what stands in its parentheses. -/
def Descends (n d : Concrete) : Prop :=
  ∃ c, n.Takes c ∧ ¬c.isComment ∧ c.Unwraps d

theorem mem_successors_iff {n d : Concrete} : d ∈ n.successors ↔ n.Descends d := by
  simp only [successors, List.mem_map, List.mem_filter, Bool.not_eq_true', Descends, unwraps_iff,
    and_assoc, Bool.not_eq_true]
  constructor
  · rintro ⟨c, member, plain, opened⟩
    exact ⟨c, takes_of_mem_pending member, plain, opened⟩
  · rintro ⟨c, taken, plain, opened⟩
    exact ⟨c, mem_pending_of_takes taken, plain, opened⟩

/-- The conversion comes from one node to another in any number of steps. -/
def Reaches (root : Concrete) : Concrete → Prop :=
  Relation.ReflTransGen Descends root

theorem reaches_iff {root n : Concrete} :
    root.Reaches n ↔ n = root ∨ ∃ d ∈ root.successors, d.Reaches n := by
  rw [Reaches, Relation.ReflTransGen.cases_head_iff, eq_comm]
  simp only [mem_successors_iff]
  rfl

/-- The nodes of the converted tree are the conversions of the nodes that the
conversion reaches. -/
theorem contains_reduce_iff {data : ByteArray} {root : Concrete} {m : Node} :
    (root.reduce data).Contains m ↔ ∃ n, root.Reaches n ∧ n.reduce data = m := by
  constructor
  · intro contained
    induction contained with
    | refl => exact ⟨root, Relation.ReflTransGen.refl, rfl⟩
    | tail _ child ih =>
        obtain ⟨n, reached, rfl⟩ := ih
        rw [children_reduce, List.mem_map] at child
        obtain ⟨d, successor, rfl⟩ := child
        exact ⟨d, reached.tail (mem_successors_iff.mp successor), rfl⟩
  · rintro ⟨n, reached, rfl⟩
    induction reached with
    | refl => exact Node.contains_self _
    | tail _ step ih =>
        refine ih.tail ?_
        rw [children_reduce]
        exact List.mem_map_of_mem (mem_successors_iff.mpr step)

/-- What the conversion reaches is converted to a node of the tree. -/
theorem Reaches.contains_convert (data : ByteArray) {root n : Concrete} (reached : root.Reaches n) :
    (root.convert data).Contains (n.reduce data) := by
  rw [convert_eq_reduce]
  exact contains_reduce_iff.mpr ⟨n, reached, rfl⟩

/-! ## Where the reached nodes stand -/

/-- The concrete tree holds the node: as its root, or at any depth below it. -/
def Holds (root : Concrete) : Concrete → Prop :=
  Relation.ReflTransGen (fun parent child => child ∈ parent.children) root

/-- What is true of a node and of all that its children hold is true of all that it holds. -/
theorem forall_holds {n : Concrete} {motive : Concrete → Prop} (here : motive n)
    (below : ∀ c ∈ n.children, ∀ m, c.Holds m → motive m) (m : Concrete) (held : n.Holds m) :
    motive m := by
  rcases Relation.ReflTransGen.cases_head held with rfl | ⟨c, member, inside⟩
  · exact here
  · exact below c member m inside

theorem Takes.holds {n c : Concrete} (taken : n.Takes c) : n.Holds c := by
  cases taken with
  | callee _ found => exact Relation.ReflTransGen.single (mem_children_of_childByField? found)
  | argument _ found _ member _ =>
      exact (Relation.ReflTransGen.single (mem_children_of_childByField? found)).tail member
  | template _ found _ => exact Relation.ReflTransGen.single (mem_children_of_childByField? found)
  | object _ found => exact Relation.ReflTransGen.single (mem_children_of_childByField? found)
  | child _ member _ => exact Relation.ReflTransGen.single member

theorem Unwraps.holds {n d : Concrete} (opened : n.Unwraps d) : n.Holds d := by
  induction opened with
  | bare => exact Relation.ReflTransGen.refl
  | wrapped _ single _ ih =>
      have member := mem_children_of_mem_inner (single ▸ List.mem_singleton_self _)
      exact ih.head member

theorem Descends.holds {n d : Concrete} (step : n.Descends d) : n.Holds d := by
  obtain ⟨c, taken, -, opened⟩ := step
  exact taken.holds.trans opened.holds

/-- Whatever the conversion reaches stands in the concrete tree. -/
theorem Reaches.holds {root n : Concrete} (reached : root.Reaches n) : root.Holds n := by
  induction reached with
  | refl => exact Relation.ReflTransGen.refl
  | tail _ step ih => exact ih.trans step.holds

/-! ## Single nodes -/

/-- What the converted node alone may be, and what the concrete node was. -/
inductive HeadOf (data : ByteArray) (n : Concrete) : Node → Prop where
  | call (isCall : n.type = "call_expression") : HeadOf data n { kind := .call, line := n.line }
  | name (isName : n.type = "identifier") :
      HeadOf data n { kind := .name, name := some (n.text data), line := n.line }
  | this (isThis : n.type = "this") : HeadOf data n { kind := .this, line := n.line }
  | string (isString : n.type = "string") :
      HeadOf data n
        { kind := .string, value := some (Literal.decode (n.text data)), line := n.line }
  | access {p : Concrete} (isAccess : n.type = "member_expression")
      (found : n.property? = some p) :
      HeadOf data n { kind := .getprop, name := some (p.text data), line := n.line }
  | optional (isAccess : n.type = "member_expression") (missing : n.property? = none) :
      HeadOf data n { kind := .other, line := n.line }
  | ordinary {kind : Kind} (ordinary : n.type ∉ specialTypes)
      (among : kind ∈ [Kind.script, .getelem, .template, .number, .other]) :
      HeadOf data n { kind, line := n.line }

theorem headOf_head (data : ByteArray) (n : Concrete) : n.HeadOf data (n.head data) := by
  rw [head]
  split
  · exact HeadOf.call ‹_›
  · exact HeadOf.name ‹_›
  · exact HeadOf.this ‹_›
  · exact HeadOf.string ‹_›
  · rename_i isAccess
    split
    · exact HeadOf.access isAccess ‹_›
    · exact HeadOf.optional isAccess ‹_›
  · rename_i isProgram
    exact HeadOf.ordinary (by simp [specialTypes, isProgram]) (by decide)
  · rename_i isSubscript
    exact HeadOf.ordinary (by simp [specialTypes, isSubscript]) (by decide)
  · rename_i isTemplate
    exact HeadOf.ordinary (by simp [specialTypes, isTemplate]) (by decide)
  · rename_i isNumber
    exact HeadOf.ordinary (by simp [specialTypes, isNumber]) (by decide)
  · rename_i noCall noName noThis noString noAccess _ _ _ _
    refine HeadOf.ordinary ?_ (by decide)
    exact not_mem_specialTypes_iff.mpr ⟨noCall, noName, noThis, noString, noAccess⟩

theorem children_head (data : ByteArray) (n : Concrete) : (n.head data).children = [] := by
  have inverted := n.headOf_head data
  generalize n.head data = node at inverted
  cases inverted <;> rfl

@[simp]
theorem line_reduce (data : ByteArray) (n : Concrete) : (n.reduce data).line = n.line := by
  rw [reduce_eq]
  have inverted := n.headOf_head data
  generalize n.head data = node at inverted
  cases inverted <;> rfl

@[simp]
theorem kind_reduce (data : ByteArray) (n : Concrete) :
    (n.reduce data).kind = (n.head data).kind := by
  rw [reduce_eq]

@[simp]
theorem name_reduce (data : ByteArray) (n : Concrete) :
    (n.reduce data).name = (n.head data).name := by
  rw [reduce_eq]

@[simp]
theorem value_reduce (data : ByteArray) (n : Concrete) :
    (n.reduce data).value = (n.head data).value := by
  rw [reduce_eq]

theorem kind_head_eq_call_iff {data : ByteArray} {n : Concrete} :
    (n.head data).kind = .call ↔ n.type = "call_expression" := by
  constructor
  · intro kindEq
    have inverted := n.headOf_head data
    generalize n.head data = node at inverted kindEq
    cases inverted with
    | call isCall => exact isCall
    | ordinary _ among =>
        cases kindEq
        simp at among
    | _ => cases kindEq
  · intro isCall
    simp [head, isCall]

/-- The converted node is a name exactly when the concrete node is an identifier
with that text. -/
theorem head_name_iff {data : ByteArray} {n : Concrete} {t : Text} :
    (n.head data).kind = .name ∧ (n.head data).name = some t ↔
      n.type = "identifier" ∧ n.text data = t := by
  constructor
  · rintro ⟨kindEq, named⟩
    have inverted := n.headOf_head data
    generalize n.head data = node at inverted kindEq named
    cases inverted with
    | name isName => exact ⟨isName, Option.some.inj named⟩
    | access => cases kindEq
    | _ => cases named
  · rintro ⟨isName, rfl⟩
    simp [head, isName]

/-- The converted node is a property access exactly when the concrete node is one
that is not optional and has a property with that text. -/
theorem head_access_iff {data : ByteArray} {n : Concrete} {t : Text} :
    (n.head data).kind = .getprop ∧ (n.head data).name = some t ↔
      n.type = "member_expression" ∧ ∃ p, n.property? = some p ∧ p.text data = t := by
  constructor
  · rintro ⟨kindEq, named⟩
    have inverted := n.headOf_head data
    generalize n.head data = node at inverted kindEq named
    cases inverted with
    | access isAccess found => exact ⟨isAccess, _, found, Option.some.inj named⟩
    | name => cases kindEq
    | _ => cases named
  · rintro ⟨isAccess, p, found, rfl⟩
    simp [head, isAccess, found]

/-- The converted node is a string literal with a value exactly when the concrete
node is one whose text decodes to that value. -/
theorem head_string_iff {data : ByteArray} {n : Concrete} {v : Text} :
    (n.head data).kind = .string ∧ (n.head data).value = some v ↔
      n.type = "string" ∧ Literal.decode (n.text data) = v := by
  constructor
  · rintro ⟨-, valued⟩
    have inverted := n.headOf_head data
    generalize n.head data = node at inverted valued
    cases inverted with
    | string isString => exact ⟨isString, Option.some.inj valued⟩
    | _ => cases valued
  · rintro ⟨isString, rfl⟩
    simp [head, isString]

end NamespaceScan.Concrete

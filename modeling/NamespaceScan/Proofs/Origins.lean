import Mathlib.Algebra.Order.BigOperators.Group.List
import Mathlib.Algebra.Order.Group.Nat
import NamespaceScan.Proofs.Conversion
import NamespaceScan.Proofs.WalkOrder

/-!
# Where converted nodes come from

Every node of a converted tree is the conversion of one concrete node, its origin. Equal nodes may
stand at several places of the concrete tree, so an origin is a `Concrete.Place`: a node together
with its address. `Place.origins` repeats the conversion on places and lists the origins in the
order in which the walk visits the converted nodes.

No place is the origin of two nodes. The callee of a call and its arguments stand in different
fields and thus at different positions, and what is taken below different positions stays apart.

The kind of a converted node says which of its other fields are filled and how many children it
may have.
-/

namespace NamespaceScan

/-! ## Addresses that lie apart -/

/-- Neither address leads through the other. -/
structure Address.Apart (a b : Address) : Prop where
  notAbove : ¬a <+: b
  notBelow : ¬b <+: a

namespace Address

variable {a b c d : Address}

theorem Apart.ne (apart : Apart a b) : a ≠ b := by
  rintro rfl
  exact apart.notAbove (List.prefix_refl a)

/-- Addresses that lie apart still do so when both are continued. -/
theorem Apart.continued (apart : Apart a b) (first : a <+: c) (second : b <+: d) : Apart c d where
  notAbove above := by
    rcases List.prefix_or_prefix_of_prefix (first.trans above) second with through | through
    · exact apart.notAbove through
    · exact apart.notBelow through
  notBelow below := by
    rcases List.prefix_or_prefix_of_prefix first (second.trans below) with through | through
    · exact apart.notAbove through
    · exact apart.notBelow through

theorem apart_siblings (a : Address) {i j : Nat} (differ : i ≠ j) :
    Apart (a ++ [i]) (a ++ [j]) where
  notAbove above := by
    have same := above.eq_of_length (by simp)
    exact differ (by simpa using same)
  notBelow below := by
    have same := below.eq_of_length (by simp)
    exact differ (by simpa using same.symm)

end Address

/-- The kind of the node says which of its fields are filled and how many children it may have. -/
structure Node.WellShaped (m : Node) : Prop where
  value : m.value.isSome ↔ m.kind = .string
  name : m.name.isSome ↔ m.kind = .name ∨ m.kind = .getprop
  leaf : m.kind = .name ∨ m.kind = .this ∨ m.kind = .string → m.children = []
  access : m.kind = .getprop → m.children.length ≤ 1

namespace Concrete

/-- The node at an address. -/
def at? (n : Concrete) : Address → Option Concrete
  | [] => some n
  | i :: rest => n.children[i]?.bind fun child => child.at? rest

theorem at?_append (n : Concrete) (a b : Address) :
    n.at? (a ++ b) = (n.at? a).bind fun inner => inner.at? b := by
  induction a generalizing n with
  | nil => rfl
  | cons i rest ih =>
      rw [List.cons_append, at?, at?]
      cases n.children[i]? with
      | none => rfl
      | some child => exact ih child

/-- A node and the address where it stands in a tree. -/
structure Place where
  address : Address
  node : Concrete

namespace Place

/-! ## The conversion on places -/

/-- The places of the children. -/
def children (p : Place) : List Place :=
  p.node.children.zipIdx.map fun (child, i) => ⟨p.address ++ [i], child⟩

/-- The places of the children that are not mere tokens. -/
def namedChildren (p : Place) : List Place := p.children.filter (·.node.named)

/-- The place of the first child in a field. -/
def childByField? (p : Place) (field : String) : Option Place :=
  p.children.find? fun q => q.node.field = some field

/-- The places of the callee and the arguments of a call. -/
def callChildren (p : Place) : List Place :=
  (p.childByField? "function").toList ++
    match p.childByField? "arguments" with
    | none => []
    | some arguments =>
      if arguments.node.type = "arguments" then arguments.namedChildren else [arguments]

/-- The places of the nodes that are converted as children of a node. -/
def pending (p : Place) : List Place :=
  if p.node.type = "call_expression" then p.callChildren
  else if p.node.type = "identifier" ∨ p.node.type = "this" ∨ p.node.type = "string" then []
  else if p.node.type = "member_expression" then (p.childByField? "object").toList
  else p.namedChildren

/-- The places of what stands in parentheses, comments apart. -/
def inner (p : Place) : List Place := p.namedChildren.filter fun q => !q.node.isComment

theorem map_node_children (p : Place) : p.children.map node = p.node.children := by
  rw [children, List.map_map]
  exact List.zipIdx_map_fst 0 p.node.children

theorem map_node_namedChildren (p : Place) : p.namedChildren.map node = p.node.namedChildren := by
  rw [namedChildren, Concrete.namedChildren, ← map_node_children, List.filter_map]
  rfl

theorem map_node_childByField? (p : Place) (field : String) :
    (p.childByField? field).map node = p.node.childByField? field := by
  rw [childByField?, Concrete.childByField?, ← map_node_children, List.find?_map]
  rfl

theorem map_node_inner (p : Place) : p.inner.map node = p.node.inner := by
  rw [inner, Concrete.inner, ← map_node_namedChildren, List.filter_map]
  rfl

theorem map_node_callChildren (p : Place) : p.callChildren.map node = p.node.callChildren := by
  rw [callChildren, Concrete.callChildren, List.map_append, ← Option.toList_map,
    ← map_node_childByField?, ← map_node_childByField?]
  congr 1
  cases p.childByField? "arguments" with
  | none => rfl
  | some arguments =>
      by_cases isList : arguments.node.type = "arguments"
      · simp [isList, map_node_namedChildren]
      · simp [isList]

theorem map_node_pending (p : Place) : p.pending.map node = p.node.pending := by
  rw [pending, Concrete.pending]
  split
  · exact map_node_callChildren p
  split
  · rfl
  split
  · rw [← Option.toList_map, map_node_childByField?]
  · exact map_node_namedChildren p

theorem mem_node_of_mem_inner {p q : Place} (member : q ∈ p.inner) : q.node ∈ p.node.inner := by
  rw [← map_node_inner]
  exact List.mem_map_of_mem member

/-- The place of the expression inside any number of parentheses. -/
def unwrap (p : Place) : Place :=
  if p.node.type = "parenthesized_expression" then
    match _single : p.inner with
    | [q] => q.unwrap
    | _ => p
  else p
termination_by p.node
decreasing_by
  have inside := mem_node_of_mem_inner (_single ▸ List.mem_singleton_self q)
  exact sizeOf_lt_of_mem_children (mem_children_of_mem_inner inside)

theorem unwrap_of_single {p q : Place} (isParen : p.node.type = "parenthesized_expression")
    (single : p.inner = [q]) : p.unwrap = q.unwrap := by
  rw [unwrap, if_pos isParen]
  split
  · rename_i r same
    rw [single] at same
    cases same
    rfl
  · rename_i several
    exact absurd single (several q)

theorem unwrap_of_several {p : Place} (isParen : p.node.type = "parenthesized_expression")
    (several : ∀ q, p.inner ≠ [q]) : p.unwrap = p := by
  rw [unwrap, if_pos isParen]
  split
  · rename_i q single
    exact absurd single (several q)
  · rfl

theorem unwrap_of_type {p : Place} (noParen : p.node.type ≠ "parenthesized_expression") :
    p.unwrap = p := by
  rw [unwrap, if_neg noParen]

/-- Taking the parentheses away from a place takes them away from its node. -/
theorem unwraps_node_unwrap (p : Place) : p.node.Unwraps p.unwrap.node := by
  induction p using unwrap.induct with
  | case1 p isParen q single ih =>
      have only : p.node.inner = [q.node] := by
        rw [← map_node_inner, single]
        rfl
      rw [unwrap_of_single isParen single]
      exact Unwraps.wrapped isParen only ih
  | case2 p isParen several =>
      rw [unwrap_of_several isParen several]
      apply Unwraps.bare
      intro _ c only
      rw [← map_node_inner] at only
      rcases List.map_eq_singleton_iff.mp only with ⟨q, single, -⟩
      exact several q single
  | case3 p noParen =>
      rw [unwrap_of_type noParen]
      exact Unwraps.of_type noParen

/-- The places of the nodes whose conversions are the children of a node. -/
def successors (p : Place) : List Place :=
  (p.pending.filter fun q => !q.node.isComment).map unwrap

theorem map_node_successors (p : Place) : p.successors.map node = p.node.successors := by
  rw [successors, Concrete.successors, ← map_node_pending, List.filter_map, List.map_map,
    List.map_map]
  apply List.map_congr_left
  intro q _
  exact (unwraps_iff.mp (unwraps_node_unwrap q)).symm

theorem mem_node_of_mem_successors {p q : Place} (member : q ∈ p.successors) :
    q.node ∈ p.node.successors := by
  rw [← map_node_successors]
  exact List.mem_map_of_mem member

/-- The origins of a converted tree: the place that is converted to its root, then those of the
trees below the root. -/
def origins (p : Place) : List Place :=
  p :: p.successors.attach.flatMap fun q => q.val.origins
termination_by p.node
decreasing_by exact sizeOf_lt_of_mem_successors (mem_node_of_mem_successors q.property)

theorem origins_eq (p : Place) : p.origins = p :: p.successors.flatMap origins := by
  rw [origins, List.flatMap_def, List.flatMap_def]
  congr 2
  exact List.attach_map_val

/-- A property of all origins follows from those of the trees below the root. -/
@[elab_as_elim]
theorem successorsInduction {motive : Place → Prop}
    (step : ∀ p, (∀ q ∈ p.successors, motive q) → motive p) (p : Place) : motive p :=
  step p fun q _ => successorsInduction step q
termination_by p.node
decreasing_by exact sizeOf_lt_of_mem_successors (mem_node_of_mem_successors ‹q ∈ p.successors›)

/-- The converted nodes in the order of the walk are the conversions of the origins. -/
theorem map_reduce_origins (data : ByteArray) (p : Place) :
    p.origins.map (fun q => q.node.reduce data) = (p.node.reduce data).preorder := by
  induction p using successorsInduction with
  | step p ih =>
      calc p.origins.map (fun q => q.node.reduce data)
          = p.node.reduce data :: p.successors.flatMap fun q =>
              q.origins.map fun r => r.node.reduce data := by
            rw [origins_eq, List.map_cons, List.map_flatMap]
        _ = p.node.reduce data :: p.successors.flatMap fun q => (q.node.reduce data).preorder := by
            rw [List.flatMap_congr ih]
        _ = p.node.reduce data :: (p.successors.map node).flatMap fun c =>
              (c.reduce data).preorder := by
            rw [List.flatMap_map]
        _ = (p.node.reduce data).preorder := by
            rw [map_node_successors, Node.preorder_eq, children_reduce, List.flatMap_map]

/-! ## Where the origins stand -/

/-- The way leads from the first place down to the second one. -/
structure Leads (p : Place) (way : Address) (q : Place) : Prop where
  stands : p.node.at? way = some q.node
  address : q.address = p.address ++ way

theorem Leads.refl (p : Place) : p.Leads [] p := ⟨rfl, (List.append_nil _).symm⟩

theorem Leads.trans {p q r : Place} {way further : Address} (first : p.Leads way q)
    (second : q.Leads further r) : p.Leads (way ++ further) r where
  stands := by rw [at?_append, first.stands, Option.bind_some, second.stands]
  address := by rw [second.address, first.address, List.append_assoc]

theorem Leads.continues {p q : Place} {way : Address} (leads : p.Leads way q) :
    p.address <+: q.address := by
  rw [leads.address]
  exact List.prefix_append _ _

theorem mem_children_iff {p q : Place} :
    q ∈ p.children ↔ ∃ i, p.node.children[i]? = some q.node ∧ q.address = p.address ++ [i] := by
  rw [children, List.mem_map]
  constructor
  · rintro ⟨⟨child, i⟩, member, rfl⟩
    exact ⟨i, List.mem_zipIdx_iff_getElem?.mp member, rfl⟩
  · rintro ⟨i, position, address⟩
    have placed : (⟨p.address ++ [i], q.node⟩ : Place) = q := by rw [← address]
    exact ⟨(q.node, i), List.mem_zipIdx_iff_getElem?.mpr position, placed⟩

theorem leads_of_mem_children {p q : Place} (member : q ∈ p.children) : ∃ i, p.Leads [i] q := by
  rcases mem_children_iff.mp member with ⟨i, position, address⟩
  refine ⟨i, ?_, address⟩
  rw [at?, position]
  rfl

/-- What is taken from a place stands strictly below it. -/
theorem leads_of_mem_pending {p q : Place} (member : q ∈ p.pending) :
    ∃ i rest, p.Leads (i :: rest) q := by
  have child : ∀ {r : Place}, r ∈ p.children → ∃ i rest, p.Leads (i :: rest) r := by
    intro r inside
    rcases leads_of_mem_children inside with ⟨i, leads⟩
    exact ⟨i, [], leads⟩
  rw [pending] at member
  split at member
  · rcases List.mem_append.mp member with callee | argument
    · exact child (List.mem_of_find?_eq_some (Option.mem_toList.mp callee))
    split at argument
    · cases argument
    rename_i list found
    rcases leads_of_mem_children (List.mem_of_find?_eq_some found) with ⟨i, toList⟩
    split at argument
    · rcases leads_of_mem_children (List.mem_filter.mp argument).1 with ⟨j, inList⟩
      exact ⟨i, [j], toList.trans inList⟩
    · cases List.mem_singleton.mp argument
      exact ⟨i, [], toList⟩
  split at member
  · cases member
  split at member
  · exact child (List.mem_of_find?_eq_some (Option.mem_toList.mp member))
  · exact child (List.mem_filter.mp member).1

theorem leads_unwrap (p : Place) : ∃ way, p.Leads way p.unwrap := by
  induction p using unwrap.induct with
  | case1 p isParen q single ih =>
      have member : q ∈ p.inner := single ▸ List.mem_singleton_self q
      have inside : q ∈ p.children := (List.mem_filter.mp (List.mem_filter.mp member).1).1
      rcases leads_of_mem_children inside with ⟨i, down⟩
      rcases ih with ⟨way, further⟩
      rw [unwrap_of_single isParen single]
      exact ⟨[i] ++ way, down.trans further⟩
  | case2 p isParen several =>
      rw [unwrap_of_several isParen several]
      exact ⟨[], Leads.refl p⟩
  | case3 p noParen =>
      rw [unwrap_of_type noParen]
      exact ⟨[], Leads.refl p⟩

theorem leads_of_mem_successors {p q : Place} (member : q ∈ p.successors) :
    ∃ i rest, p.Leads (i :: rest) q := by
  rcases List.mem_map.mp member with ⟨r, kept, rfl⟩
  rcases leads_of_mem_pending (List.mem_filter.mp kept).1 with ⟨i, rest, down⟩
  rcases leads_unwrap r with ⟨way, further⟩
  exact ⟨i, rest ++ way, down.trans further⟩

theorem leads_of_mem_origins {p q : Place} (member : q ∈ p.origins) : ∃ way, p.Leads way q := by
  induction p using successorsInduction with
  | step p ih =>
      rw [origins_eq, List.mem_cons, List.mem_flatMap] at member
      rcases member with rfl | ⟨r, successor, below⟩
      · exact ⟨[], Leads.refl q⟩
      · rcases leads_of_mem_successors successor with ⟨i, rest, down⟩
        rcases ih r successor below with ⟨way, further⟩
        exact ⟨i :: rest ++ way, down.trans further⟩

/-! ## No place is the origin of two nodes -/

theorem field_of_childByField? {p q : Place} {field : String}
    (found : p.childByField? field = some q) : q.node.field = some field := by
  simpa using List.find?_some found

/-- The addresses of the two places lie apart. -/
def Apart (p q : Place) : Prop := Address.Apart p.address q.address

theorem apart_of_ne {p q r : Place} (first : q ∈ p.children) (second : r ∈ p.children)
    (differ : q.node ≠ r.node) : q.Apart r := by
  rcases mem_children_iff.mp first with ⟨i, atFirst, addressFirst⟩
  rcases mem_children_iff.mp second with ⟨j, atSecond, addressSecond⟩
  have otherPosition : i ≠ j := by
    rintro rfl
    rw [atFirst, Option.some.injEq] at atSecond
    exact differ atSecond
  rw [Apart, addressFirst, addressSecond]
  exact Address.apart_siblings p.address otherPosition

theorem pairwise_apart_children (p : Place) : p.children.Pairwise Apart := by
  apply List.pairwise_map.mpr
  apply (Address.pairwise_positions p.node.children).imp
  intro first second less
  exact Address.apart_siblings p.address (Nat.ne_of_lt less)

theorem pairwise_toList {α : Type} (R : α → α → Prop) (found : Option α) :
    found.toList.Pairwise R := by
  cases found with
  | none => exact List.Pairwise.nil
  | some a => exact List.pairwise_singleton R a

/-- A child cannot stand in the field of the callee and in the field of the arguments. -/
theorem pairwise_apart_callChildren (p : Place) : p.callChildren.Pairwise Apart := by
  rw [callChildren, List.pairwise_append]
  refine ⟨pairwise_toList Apart _, ?_, ?_⟩
  · split
    · exact List.Pairwise.nil
    split
    · rename_i list found isList
      exact (pairwise_apart_children list).filter _
    · exact List.pairwise_singleton Apart _
  · intro callee isCallee argument isArgument
    have foundCallee := Option.mem_toList.mp isCallee
    split at isArgument
    · cases isArgument
    rename_i list found
    have parted : callee.Apart list := by
      apply apart_of_ne (List.mem_of_find?_eq_some foundCallee) (List.mem_of_find?_eq_some found)
      intro same
      have calleeField := field_of_childByField? foundCallee
      rw [same, field_of_childByField? found] at calleeField
      simp at calleeField
    split at isArgument
    · rcases leads_of_mem_children (List.mem_filter.mp isArgument).1 with ⟨i, leads⟩
      exact parted.continued (List.prefix_refl _) leads.continues
    · cases List.mem_singleton.mp isArgument
      exact parted

theorem pairwise_apart_pending (p : Place) : p.pending.Pairwise Apart := by
  rw [pending]
  split
  · exact pairwise_apart_callChildren p
  split
  · exact List.Pairwise.nil
  split
  · exact pairwise_toList Apart _
  · exact (pairwise_apart_children p).filter _

theorem pairwise_apart_successors (p : Place) : p.successors.Pairwise Apart := by
  rw [successors, List.pairwise_map]
  apply ((pairwise_apart_pending p).filter _).imp
  intro q r parted
  rcases leads_unwrap q with ⟨_, first⟩
  rcases leads_unwrap r with ⟨_, second⟩
  exact parted.continued first.continues second.continues

theorem nodup_address_origins (p : Place) : (p.origins.map address).Nodup := by
  rw [List.Nodup, List.pairwise_map]
  induction p using successorsInduction with
  | step p ih =>
      rw [origins_eq, List.pairwise_cons, List.pairwise_flatMap]
      refine ⟨?_, ih, ?_⟩
      · intro q below
        rcases List.mem_flatMap.mp below with ⟨r, successor, inside⟩
        rcases leads_of_mem_successors successor with ⟨i, rest, down⟩
        rcases leads_of_mem_origins inside with ⟨way, further⟩
        rw [(down.trans further).address]
        simp
      · apply (pairwise_apart_successors p).imp
        intro q r parted first belowFirst second belowSecond
        rcases leads_of_mem_origins belowFirst with ⟨_, toFirst⟩
        rcases leads_of_mem_origins belowSecond with ⟨_, toSecond⟩
        exact (parted.continued toFirst.continues toSecond.continues).ne

/-- The place of the root of a tree. -/
def ofRoot (root : Concrete) : Place := ⟨[], root⟩

theorem at?_of_mem_origins {root : Concrete} {p : Place} (member : p ∈ (ofRoot root).origins) :
    root.at? p.address = some p.node := by
  rcases leads_of_mem_origins member with ⟨way, leads⟩
  have address : p.address = way := leads.address
  rw [address]
  exact leads.stands

end Place

/-! ## Sizes -/

theorem sum_count_successors_lt (n : Concrete) : (n.successors.map count).sum < n.count := by
  have unwrapped : (n.successors.map count).sum ≤
      ((n.pending.filter fun child => !child.isComment).map count).sum := by
    rw [successors, List.map_map]
    exact List.sum_le_sum fun child _ => count_unwrap_le child
  have kept := sum_count_filter_le (fun child => !child.isComment) n.pending
  have taken := sum_count_pending_lt n
  omega

theorem count_reduce_le (data : ByteArray) (n : Concrete) : (n.reduce data).count ≤ n.count := by
  induction n using reduce.induct data with
  | case1 n ih =>
      have children : ((n.reduce data).children.map Node.count).sum ≤
          (n.successors.map count).sum := by
        rw [children_reduce, List.map_map]
        exact List.sum_le_sum fun child member => ih ⟨child, member⟩
      have below := sum_count_successors_lt n
      rw [Node.count_eq]
      omega

/-! ## The shape of converted nodes -/

theorem successors_leaf {n : Concrete}
    (isLeaf : n.type = "identifier" ∨ n.type = "this" ∨ n.type = "string") : n.successors = [] := by
  rw [successors, pending_leaf isLeaf]
  rfl

theorem length_successors_access {n : Concrete} (isAccess : n.type = "member_expression") :
    n.successors.length ≤ 1 := by
  rw [successors, pending_access isAccess, List.length_map]
  apply (List.length_filter_le _ _).trans
  cases n.childByField? "object" <;> simp

theorem wellShaped_reduce (data : ByteArray) (n : Concrete) : (n.reduce data).WellShaped := by
  have inverted := n.headOf_head data
  rw [reduce_eq]
  generalize n.head data = m at inverted
  cases inverted with
  | call isCall => constructor <;> simp
  | name isName => constructor <;> simp [successors_leaf, isName]
  | this isThis => constructor <;> simp [successors_leaf, isThis]
  | string isString => constructor <;> simp [successors_leaf, isString]
  | access isAccess => constructor <;> simp [length_successors_access isAccess]
  | optional => constructor <;> simp
  | ordinary _ among =>
      simp only [List.mem_cons, List.not_mem_nil, or_false] at among
      rcases among with rfl | rfl | rfl | rfl | rfl <;> constructor <;> simp

/-- In every converted tree the nodes are well shaped. In the order of the walk they are the
conversions of the origins, which stand at different addresses of the concrete tree, and each has
the line of its origin. So there are no more nodes than in the concrete tree. -/
theorem shape_of_convert (data : ByteArray) (root : Concrete) :
    (∀ m, (root.convert data).Contains m → m.WellShaped) ∧
      (root.convert data).walk =
        (Place.ofRoot root).origins.map (fun p => p.node.reduce data) ∧
      (root.convert data).walk.map Node.line =
        (Place.ofRoot root).origins.map (fun p => 1 + p.node.row) ∧
      (∀ p ∈ (Place.ofRoot root).origins, root.at? p.address = some p.node) ∧
      ((Place.ofRoot root).origins.map Place.address).Nodup ∧
      (root.convert data).count ≤ root.count := by
  have walked : (root.convert data).walk =
      (Place.ofRoot root).origins.map fun p => p.node.reduce data := by
    rw [Node.walk_eq_preorder, convert_eq_reduce, Place.map_reduce_origins]
    rfl
  refine ⟨?_, walked, ?_, fun p => Place.at?_of_mem_origins, Place.nodup_address_origins _, ?_⟩
  · intro m contained
    rw [convert_eq_reduce] at contained
    rcases contains_reduce_iff.mp contained with ⟨n, -, rfl⟩
    exact wellShaped_reduce data n
  · rw [walked, List.map_map]
    apply List.map_congr_left
    intro p _
    rw [Function.comp_apply, line_reduce, line, Nat.add_comm]
  · rw [convert_eq_reduce]
    exact count_reduce_le data root

/-! ## A call with misplaced fields -/

/-- The callee of the call. -/
def jumbledName : Concrete where
  type := "identifier"
  row := 4

/-- A call whose arguments stand before its callee. The callee is in parentheses, and a second
node is in the same field. -/
def jumbledCall : Concrete where
  type := "call_expression"
  children :=
    [{ type := "arguments", row := 1, field := some "arguments",
        children := [{ type := "comment" }, { type := "string", row := 2 }] },
      { type := "parenthesized_expression", row := 3, field := some "function",
        children := [jumbledName] },
      { type := "identifier", row := 5, field := some "function" }]

theorem contains_jumbledName :
    (jumbledCall.convert .empty).Contains (jumbledName.reduce .empty) := by
  have successors : jumbledCall.successors = [jumbledName, { type := "string", row := 2 }] := by cbv
  apply Reaches.contains_convert
  apply Relation.ReflTransGen.single
  rw [← mem_successors_iff, successors]
  exact List.mem_cons_self

theorem origins_jumbledCall :
    (Place.ofRoot jumbledCall).origins =
      [⟨[], jumbledCall⟩, ⟨[1, 0], jumbledName⟩, ⟨[0, 1], { type := "string", row := 2 }⟩] := by
  cbv

/-- The conversion visits the callee first, and the second node in its field is no origin. -/
theorem shape_of_convert_jumbledCall :
    (jumbledName.reduce .empty).WellShaped ∧ jumbledCall.at? [1, 0] = some jumbledName ∧
      (jumbledCall.convert .empty).walk.map Node.line = [1, 5, 3] := by
  obtain ⟨shaped, -, lines, placed, -⟩ := shape_of_convert .empty jumbledCall
  rw [origins_jumbledCall] at lines placed
  refine ⟨shaped _ contains_jumbledName, placed ⟨[1, 0], jumbledName⟩ ?_, lines⟩
  exact List.mem_cons_of_mem _ List.mem_cons_self

end Concrete

end NamespaceScan

import NamespaceScan.Text.Utf8
import NamespaceScan.Tree.Concrete
import NamespaceScan.Tree.Literal
import NamespaceScan.Tree.Node

/-!
# From concrete trees to syntax nodes

Each concrete node gives one syntax node. Comments give none, and parentheses
around a single expression give way to that expression. A call keeps its
callee and its arguments, a property access its target; all other nodes keep
their named children.

`Concrete.reduce` is the recursive definition. `Concrete.convert` computes it
with a stack of unfinished nodes, so that depth costs nothing.
-/

namespace NamespaceScan

namespace Concrete

/-! ## One node -/

/-- The source text of a node. -/
def text (data : ByteArray) (n : Concrete) : Text := Utf8.decodeLossy (data.extract n.start n.stop)

/-- The callee and the arguments of a call. A template that is called takes
the place of the argument list. -/
def callChildren (n : Concrete) : List Concrete :=
  (n.childByField? "function").toList ++
    match n.childByField? "arguments" with
    | none => []
    | some arguments =>
      if arguments.type = "arguments" then arguments.namedChildren else [arguments]

/-- A property access whose target may be absent is no plain access. -/
def isOptionalAccess (n : Concrete) : Bool :=
  n.children.any fun child => child.type = "optional_chain" || child.type = "?."

/-- The property that an access names, unless the access is optional. -/
def property? (n : Concrete) : Option Concrete :=
  if n.isOptionalAccess then none else n.childByField? "property"

/-- The concrete nodes below a node that are converted as its children. -/
def pending (n : Concrete) : List Concrete :=
  if n.type = "call_expression" then n.callChildren
  else if n.type = "identifier" ∨ n.type = "this" ∨ n.type = "string" then []
  else if n.type = "member_expression" then (n.childByField? "object").toList
  else n.namedChildren

/-- The node's own kind, name, value and line, without children. -/
def head (data : ByteArray) (n : Concrete) : Node :=
  let line := n.line
  match n.type with
  | "call_expression" => { kind := .call, line }
  | "identifier" => { kind := .name, name := some (n.text data), line }
  | "this" => { kind := .this, line }
  | "string" => { kind := .string, value := some (Literal.decode (n.text data)), line }
  | "member_expression" =>
    match n.property? with
    | some property => { kind := .getprop, name := some (property.text data), line }
    | none => { kind := .other, line }
  | "program" => { kind := .script, line }
  | "subscript_expression" => { kind := .getelem, line }
  | "template_string" => { kind := .template, line }
  | "number" => { kind := .number, line }
  | _ => { kind := .other, line }

/-- What stands between the parentheses of a node, comments apart. -/
def inner (n : Concrete) : List Concrete := n.namedChildren.filter fun child => !child.isComment

theorem mem_children_of_mem_inner {n c : Concrete} (h : c ∈ n.inner) : c ∈ n.children :=
  (List.mem_filter.mp (List.mem_filter.mp h).1).1

/-- The expression inside any number of parentheses. -/
def unwrap (n : Concrete) : Concrete :=
  if n.type = "parenthesized_expression" then
    match _single : n.inner with
    | [c] => c.unwrap
    | _ => n
  else n
termination_by n
decreasing_by
  exact sizeOf_lt_of_mem_children (mem_children_of_mem_inner (_single ▸ List.mem_singleton_self c))

/-- The concrete nodes whose conversions are the children of a node. -/
def successors (n : Concrete) : List Concrete :=
  (n.pending.filter fun child => !child.isComment).map unwrap

/-! ## Sizes -/

theorem mem_children_of_childByField? {n c : Concrete} {field : String}
    (h : n.childByField? field = some c) : c ∈ n.children :=
  List.mem_of_find?_eq_some h

theorem field_of_childByField? {n c : Concrete} {field : String}
    (h : n.childByField? field = some c) : c.field = some field := by
  have found := List.find?_some h
  simpa using found

theorem sizeOf_lt_of_mem_pending {n c : Concrete} (h : c ∈ n.pending) : sizeOf c < sizeOf n := by
  simp only [pending] at h
  split at h
  · simp only [callChildren, List.mem_append, Option.mem_toList] at h
    rcases h with callee | argument
    · exact sizeOf_lt_of_mem_children (mem_children_of_childByField? callee)
    · split at argument
      · cases argument
      · rename_i arguments found
        have below := sizeOf_lt_of_mem_children (mem_children_of_childByField? found)
        split at argument
        · exact Nat.lt_trans
            (sizeOf_lt_of_mem_children (List.mem_filter.mp argument).1) below
        · rw [List.mem_singleton.mp argument]
          exact below
  · split at h
    · cases h
    · split at h
      · exact sizeOf_lt_of_mem_children (mem_children_of_childByField? (Option.mem_toList.mp h))
      · exact sizeOf_lt_of_mem_children (List.mem_filter.mp h).1

theorem sizeOf_unwrap_le (n : Concrete) : sizeOf n.unwrap ≤ sizeOf n := by
  induction n using unwrap.induct with
  | case1 n isParen c single ih =>
    have smaller := sizeOf_lt_of_mem_children
      (mem_children_of_mem_inner (single ▸ List.mem_singleton_self c))
    rw [unwrap, if_pos isParen]
    split
    · rename_i d same
      rw [single] at same
      cases same
      omega
    · exact Nat.le_refl _
  | case2 n isParen several =>
    rw [unwrap, if_pos isParen]
    split
    · rename_i d single
      exact absurd single (several d)
    · exact Nat.le_refl _
  | case3 n noParen => exact Nat.le_of_eq (by rw [unwrap, if_neg noParen])

theorem sizeOf_lt_of_mem_successors {n c : Concrete} (h : c ∈ n.successors) :
    sizeOf c < sizeOf n := by
  obtain ⟨d, mem, rfl⟩ := List.mem_map.mp h
  exact Nat.lt_of_le_of_lt (sizeOf_unwrap_le d)
    (sizeOf_lt_of_mem_pending (List.mem_filter.mp mem).1)

/-! ## The whole tree -/

/-- The syntax tree of a concrete tree, by recursion. -/
def reduce (data : ByteArray) (n : Concrete) : Node :=
  { n.head data with children := n.successors.attach.map fun child => child.val.reduce data }
termination_by n
decreasing_by exact sizeOf_lt_of_mem_successors child.property

/-- A node whose children are not all converted yet. -/
structure Frame where
  /-- The node without children. -/
  head : Node
  /-- The children converted so far, the latest first. -/
  done : List Node
  /-- The concrete children that are still to be converted. -/
  waiting : List Concrete

/-- The frame of a node at the beginning. -/
def Frame.enter (data : ByteArray) (n : Concrete) : Frame := ⟨n.head data, [], n.pending⟩

/-- The node of a frame with the children converted so far. -/
def Frame.close (f : Frame) : Node := { f.head with children := f.done.reverse }

/-- The work that a frame stands for. -/
def Frame.weight (f : Frame) : Nat := 1 + 2 * (f.waiting.map count).sum

theorem count_pos (n : Concrete) : 0 < n.count := by
  rw [count_eq]; omega

theorem count_le_sum_of_mem {c : Concrete} {l : List Concrete} (h : c ∈ l) :
    c.count ≤ (l.map count).sum := by
  induction l with
  | nil => cases h
  | cons d rest ih =>
    rcases List.mem_cons.mp h with rfl | later
    · simp
    · have := ih later
      simp only [List.map_cons, List.sum_cons]
      omega

theorem sum_count_filter_le (p : Concrete → Bool) (l : List Concrete) :
    ((l.filter p).map count).sum ≤ (l.map count).sum := by
  induction l with
  | nil => simp
  | cons d rest ih =>
    by_cases h : p d <;> simp [h] <;> omega

theorem sum_count_filter_add_le {p q : Concrete → Bool} (l : List Concrete)
    (disjoint : ∀ c, p c = true → q c = false) :
    ((l.filter p).map count).sum + ((l.filter q).map count).sum ≤ (l.map count).sum := by
  induction l with
  | nil => simp
  | cons d rest ih =>
    by_cases hp : p d
    · have hq := disjoint d hp
      simp [hp, hq]
      omega
    · by_cases hq : q d <;> simp [hp, hq] <;> omega

theorem count_childByField?_le {n c : Concrete} {field : String}
    (h : n.childByField? field = some c) :
    c.count ≤ ((n.children.filter fun d => d.field = some field).map count).sum :=
  count_le_sum_of_mem (List.mem_filter.mpr
    ⟨mem_children_of_childByField? h, by simp [field_of_childByField? h]⟩)

theorem sum_count_callChildren_le (n : Concrete) :
    (n.callChildren.map count).sum ≤ (n.children.map count).sum := by
  have split := sum_count_filter_add_le (p := fun d => d.field = some "function")
    (q := fun d => d.field = some "arguments") n.children (by
      intro c isCallee
      have callee : c.field = some "function" := by simpa using isCallee
      simp [callee])
  have callee : (((n.childByField? "function").toList).map count).sum ≤
      ((n.children.filter fun d => d.field = some "function").map count).sum := by
    cases found : n.childByField? "function" with
    | none => simp
    | some c => simpa using count_childByField?_le found
  have arguments : ((match n.childByField? "arguments" with
      | none => []
      | some arguments =>
        if arguments.type = "arguments" then arguments.namedChildren
        else [arguments]).map count).sum ≤
      ((n.children.filter fun d => d.field = some "arguments").map count).sum := by
    cases found : n.childByField? "arguments" with
    | none => simp
    | some c =>
      have below := count_childByField?_le found
      dsimp only
      split
      · have named := sum_count_filter_le (·.named) c.children
        rw [count_eq] at below
        simp only [namedChildren]
        omega
      · simpa using below
  simp only [callChildren, List.map_append, List.sum_append]
  omega

theorem sum_count_pending_lt (n : Concrete) : (n.pending.map count).sum < n.count := by
  rw [count_eq]
  simp only [pending]
  split
  · have := sum_count_callChildren_le n
    omega
  · split
    · simp only [List.map_nil, List.sum_nil]
      omega
    · split
      · cases found : n.childByField? "object" with
        | none =>
          simp only [Option.toList_none, List.map_nil, List.sum_nil]
          omega
        | some c =>
          have := count_le_sum_of_mem (mem_children_of_childByField? found)
          simp only [Option.toList_some, List.map_cons, List.map_nil, List.sum_cons, List.sum_nil]
          omega
      · have := sum_count_filter_le (·.named) n.children
        simp only [namedChildren]
        omega

theorem count_unwrap_le (n : Concrete) : n.unwrap.count ≤ n.count := by
  induction n using unwrap.induct with
  | case1 n isParen c single ih =>
    have below := count_le_sum_of_mem
      (mem_children_of_mem_inner (single ▸ List.mem_singleton_self c))
    rw [unwrap, if_pos isParen]
    split
    · rename_i d same
      rw [single] at same
      cases same
      rw [count_eq n]
      omega
    · exact Nat.le_refl _
  | case2 n isParen several =>
    rw [unwrap, if_pos isParen]
    split
    · rename_i d single
      exact absurd single (several d)
    · exact Nat.le_refl _
  | case3 n noParen => exact Nat.le_of_eq (by rw [unwrap, if_neg noParen])

theorem weight_enter_lt (data : ByteArray) (n : Concrete) :
    (Frame.enter data n).weight < 2 * n.count := by
  have := sum_count_pending_lt n
  simp only [Frame.enter, Frame.weight]
  omega

/-- Convert what is waiting in the innermost frame, then close it into the
frame around it. -/
def convertFrom (data : ByteArray) (current : Frame) (outer : List Frame) : Node :=
  match _step : current.waiting with
  | [] =>
    match outer with
    | [] => current.close
    | parent :: rest =>
      convertFrom data { parent with done := current.close :: parent.done } rest
  | child :: later =>
    if child.isComment then convertFrom data { current with waiting := later } outer
    else
      convertFrom data (Frame.enter data child.unwrap)
        ({ current with waiting := later } :: outer)
termination_by current.weight + (outer.map Frame.weight).sum
decreasing_by
  · simp only [List.map_cons, List.sum_cons, Frame.weight]
    omega
  · have := count_pos child
    simp only [Frame.weight, _step, List.map_cons, List.sum_cons]
    omega
  · have entered := weight_enter_lt data child.unwrap
    have unwrapped := count_unwrap_le child
    simp only [Frame.weight, _step, List.map_cons, List.sum_cons] at entered ⊢
    omega

/-- The syntax tree of a concrete tree. The root is neither skipped nor
unwrapped. -/
def convert (data : ByteArray) (root : Concrete) : Node :=
  convertFrom data (Frame.enter data root) []

end Concrete

end NamespaceScan

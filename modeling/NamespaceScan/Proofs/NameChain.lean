import Mathlib.Data.List.Induction
import NamespaceScan.Proofs.DottedName
import NamespaceScan.Proofs.Traversal

/-!
# Chains and their dotted names

A dotted text spells a chain of property accesses, and the name of that chain is the text again
unless one of its segments is empty. `Node.links` reads the names off a chain without joining
them. Where no name holds a dot, the dotted name says no less: chains with the same dotted name
have the same links. A node has no dotted name exactly when its chain of first children breaks
somewhere.
-/

namespace NamespaceScan.Node

/-! ## The chain of a text -/

theorem spells_ofName_iff {name t : Text} {line : Nat} :
    (ofName name line).Spells t ↔ name ≠ [] ∧ t = name := by
  constructor
  · intro spelt
    cases spelt with
    | name _ named nonempty =>
        cases named
        exact ⟨nonempty, rfl⟩
    | this isThis => cases isThis
    | property isAccess => cases isAccess
  · rintro ⟨nonempty, rfl⟩
    exact Spells.name rfl rfl nonempty

theorem spells_ofProperty_iff {target : Node} {property t : Text} {line : Nat} :
    (ofProperty target property line).Spells t ↔
      property ≠ [] ∧ ∃ q, target.Spells q ∧ t = q ++ dot :: property := by
  constructor
  · intro spelt
    cases spelt with
    | name isName => cases isName
    | this isThis => cases isThis
    | property _ named nonempty onTarget spelt =>
        cases named
        cases onTarget
        exact ⟨nonempty, _, spelt, rfl⟩
  · rintro ⟨nonempty, q, spelt, rfl⟩
    exact Spells.property rfl rfl nonempty rfl spelt

/-- A chain that is built from segments has their joined text as its name, unless one of them is
empty. The induction is on the last segment, which is the outermost access. -/
theorem spells_segments_iff {head t : Text} {properties : List Text} {line : Nat} :
    (properties.foldl (fun target property => ofProperty target property line)
        (ofName head line)).Spells t ↔
      [] ∉ head :: properties ∧ t = Text.joinWith [dot] (head :: properties) := by
  induction properties using List.reverseRecOn generalizing t with
  | nil =>
      rw [List.foldl_nil, spells_ofName_iff, List.mem_singleton, Text.joinWith_cons]
      simp [eq_comm]
  | append_singleton properties last ih =>
      rw [List.foldl_append, List.foldl_cons, List.foldl_nil, spells_ofProperty_iff,
        ← List.cons_append, Text.joinWith_concat (List.cons_ne_nil _ _), List.mem_append,
        List.mem_singleton, not_or]
      constructor
      · rintro ⟨nonempty, q, spelt, rfl⟩
        rcases ih.mp spelt with ⟨others, rfl⟩
        exact ⟨⟨others, Ne.symm nonempty⟩, by simp⟩
      · rintro ⟨⟨others, nonempty⟩, rfl⟩
        exact ⟨Ne.symm nonempty, _, ih.mpr ⟨others, rfl⟩, by simp⟩

theorem spells_ofDotted_iff {s t : Text} {line : Nat} :
    (ofDotted s line).Spells t ↔ [] ∉ Text.splitOn dot s ∧ t = s := by
  rcases List.exists_cons_of_ne_nil (Text.splitOn_ne_nil dot s) with ⟨head, properties, split⟩
  have joined := Text.joinWith_splitOn dot s
  rw [split] at joined
  rw [ofDotted, split, spells_segments_iff, joined]

/-- The chain of a text has that text as its dotted name, unless a segment is empty. -/
theorem qualifiedName?_ofDotted (s : Text) (line : Nat) :
    (ofDotted s line).qualifiedName? = if [] ∈ Text.splitOn dot s then none else some s := by
  ext t
  rw [qualifiedName?_eq_some_iff, spells_ofDotted_iff]
  split
  · simp [*]
  · simp [*, eq_comm]

example : (ofDotted "").qualifiedName? = none := by decide

/-! ## The links of a chain -/

/-- The names along the chain of first children, from the outermost access down to the root of the
chain. There `this` counts as a name. -/
def links : Node → List (Option Text)
  | ⟨.getprop, name, _, _, target :: _⟩ => name :: target.links
  | ⟨.this, _, _, _, _⟩ => [some ("this" : Text)]
  | ⟨_, name, _, _, _⟩ => [name]

theorem links_of_name {n : Node} (isName : n.kind = .name) : n.links = [n.name] := by
  rcases n with ⟨kind, name, value, line, children⟩
  cases isName
  simp [links]

theorem links_of_this {n : Node} (isThis : n.kind = .this) : n.links = [some ("this" : Text)] := by
  rcases n with ⟨kind, name, value, line, children⟩
  cases isThis
  rw [links]

theorem links_of_access {n target : Node} {rest : List Node} (isAccess : n.kind = .getprop)
    (onTarget : n.children = target :: rest) : n.links = n.name :: target.links := by
  rcases n with ⟨kind, name, value, line, children⟩
  cases isAccess
  cases onTarget
  rw [links]

/-- No name in the tree holds a dot. -/
def DotFree (root : Node) : Prop := ∀ n, root.Contains n → ∀ name, n.name = some name → dot ∉ name

theorem DotFree.child {n child : Node} (free : n.DotFree) (member : child ∈ n.children) :
    child.DotFree := by
  intro m contained
  exact free m (contains_iff.mpr (Or.inr ⟨child, member, contained⟩))

theorem DotFree.of_children {n : Node} (here : ∀ name, n.name = some name → dot ∉ name)
    (below : ∀ child ∈ n.children, child.DotFree) : n.DotFree := by
  intro m contained
  rcases contains_iff.mp contained with rfl | ⟨child, member, inside⟩
  · exact here
  · exact below child member m inside

/-- The links of a chain that spells a name are all there, and the name is made of them. -/
theorem Spells.exists_links {n : Node} {t : Text} (spelt : n.Spells t) (free : n.DotFree) :
    ∃ segments : List Text, segments ≠ [] ∧ (∀ segment ∈ segments, dot ∉ segment) ∧
      n.links = segments.map some ∧ t = Text.joinWith [dot] segments.reverse := by
  induction spelt with
  | @name n t isName named nonempty =>
      have noDot := free n (contains_self n) t named
      refine ⟨[t], List.cons_ne_nil _ _, by simpa using noDot, ?_, ?_⟩
      · rw [links_of_name isName, named]
        rfl
      · rw [List.reverse_singleton, Text.joinWith_cons]
        simp
  | @this n isThis =>
      refine ⟨["this"], List.cons_ne_nil _ _, by decide, ?_, rfl⟩
      rw [links_of_this isThis]
      rfl
  | @property n target rest p q isAccess named nonempty onTarget spelt ih =>
      have noDot := free n (contains_self n) p named
      have inside : target ∈ n.children := onTarget ▸ List.mem_cons_self
      rcases ih (free.child inside) with ⟨segments, atLeastOne, others, links, rfl⟩
      refine ⟨p :: segments, List.cons_ne_nil _ _, ?_, ?_, ?_⟩
      · exact List.forall_mem_cons.mpr ⟨noDot, others⟩
      · rw [links_of_access isAccess onTarget, named, links]
        rfl
      · rw [List.reverse_cons, Text.joinWith_concat (by simpa using atLeastOne)]
        simp

theorem Spells.eq_iff_links_eq {n m : Node} {s t : Text} (first : n.Spells s) (second : m.Spells t)
    (firstFree : n.DotFree) (secondFree : m.DotFree) : s = t ↔ n.links = m.links := by
  rcases first.exists_links firstFree with ⟨l, someL, freeL, linksL, rfl⟩
  rcases second.exists_links secondFree with ⟨k, someK, freeK, linksK, rfl⟩
  rw [linksL, linksK]
  constructor
  · intro same
    have pieces := congrArg (Text.splitOn dot) same
    rw [Text.splitOn_joinWith (by simpa using someL) (by simpa using freeL),
      Text.splitOn_joinWith (by simpa using someK) (by simpa using freeK)] at pieces
    rw [List.reverse_inj.mp pieces]
  · intro same
    rw [(List.map_inj_right fun _ _ => Option.some.inj).mp same]

/-! ## Broken chains -/

/-- The node is a property access, and the other one is its first child. -/
def Accesses (n target : Node) : Prop := n.kind = .getprop ∧ n.children.head? = some target

/-- The node has no name, or its name is empty. -/
def LacksName (n : Node) : Prop := ∀ name, n.name = some name → name = []

/-- No dotted name leads through the node: it is an access without a name or without a child, or
it ends the chain and is neither `this` nor an identifier with a name. -/
inductive Breaks (n : Node) : Prop where
  | unnamed (isAccess : n.kind = .getprop) (lacksName : n.LacksName)
  | childless (isAccess : n.kind = .getprop) (noChild : n.children = [])
  | foreign (noAccess : n.kind ≠ .getprop) (noThis : n.kind ≠ .this)
      (noName : n.kind = .name → n.LacksName)

theorem exists_name {n : Node} (hasName : ¬n.LacksName) :
    ∃ name, n.name = some name ∧ name ≠ [] := by
  simpa [LacksName] using hasName

theorem Spells.not_breaks {n : Node} {t : Text} (spelt : n.Spells t) : ¬n.Breaks := by
  intro breaks
  cases spelt with
  | name isName named nonempty =>
      cases breaks with
      | unnamed isAccess => simp [isName] at isAccess
      | childless isAccess => simp [isName] at isAccess
      | foreign _ _ noName => exact nonempty (noName isName _ named)
  | this isThis =>
      cases breaks with
      | unnamed isAccess => simp [isThis] at isAccess
      | childless isAccess => simp [isThis] at isAccess
      | foreign _ noThis => exact noThis isThis
  | property isAccess named nonempty onTarget =>
      cases breaks with
      | unnamed _ lacksName => exact nonempty (lacksName _ named)
      | childless _ noChild => simp [onTarget] at noChild
      | foreign noAccess => exact noAccess isAccess

/-- A name that leads through an access leads through its first child. -/
theorem Spells.of_accesses {n target : Node} {t : Text} (spelt : n.Spells t)
    (accesses : n.Accesses target) : ∃ q, target.Spells q := by
  rcases accesses with ⟨isAccess, first⟩
  cases spelt with
  | name isName => simp [isName] at isAccess
  | this isThis => simp [isThis] at isAccess
  | @property _ other rest p q _ _ _ onTarget spelt =>
      rw [onTarget, List.head?_cons, Option.some.injEq] at first
      exact ⟨q, first ▸ spelt⟩

theorem Spells.along {n m : Node} {t : Text} (spelt : n.Spells t)
    (chain : Relation.ReflTransGen Accesses n m) : ∃ q, m.Spells q := by
  induction chain with
  | refl => exact ⟨t, spelt⟩
  | tail _ step ih =>
      rcases ih with ⟨q, spelt⟩
      exact spelt.of_accesses step

/-- A chain that breaks nowhere spells a name. -/
theorem exists_spells {n : Node}
    (whole : ∀ m, Relation.ReflTransGen Accesses n m → ¬m.Breaks) : ∃ t, n.Spells t := by
  induction n using childrenInduction with
  | step n ih =>
      have here := whole n Relation.ReflTransGen.refl
      by_cases isAccess : n.kind = .getprop
      · rcases exists_name fun lacksName => here (Breaks.unnamed isAccess lacksName) with
          ⟨name, named, nonempty⟩
        rcases List.exists_cons_of_ne_nil fun noChild => here (Breaks.childless isAccess noChild)
          with ⟨target, rest, onTarget⟩
        have accesses : n.Accesses target := ⟨isAccess, by rw [onTarget, List.head?_cons]⟩
        have below : ∀ m, Relation.ReflTransGen Accesses target m → ¬m.Breaks :=
          fun m chain => whole m (chain.head accesses)
        rcases ih target (onTarget ▸ List.mem_cons_self) below with ⟨q, spelt⟩
        exact ⟨_, Spells.property isAccess named nonempty onTarget spelt⟩
      by_cases isThis : n.kind = .this
      · exact ⟨_, Spells.this isThis⟩
      by_cases isName : n.kind = .name
      · rcases exists_name fun lacksName => here (Breaks.foreign isAccess isThis fun _ => lacksName)
          with ⟨name, named, nonempty⟩
        exact ⟨name, Spells.name isName named nonempty⟩
      · exact absurd (Breaks.foreign isAccess isThis fun is => absurd is isName) here

theorem qualifiedName?_eq_none_iff {n : Node} :
    n.qualifiedName? = none ↔ ∃ m, Relation.ReflTransGen Accesses n m ∧ m.Breaks := by
  constructor
  · intro unnamed
    by_contra noBreak
    rcases exists_spells fun m chain breaks => noBreak ⟨m, chain, breaks⟩ with ⟨t, spelt⟩
    rw [← qualifiedName?_eq_some_iff, unnamed] at spelt
    cases spelt
  · rintro ⟨m, chain, breaks⟩
    rw [Option.eq_none_iff_forall_not_mem]
    intro t named
    rcases (qualifiedName?_eq_some_iff.mp named).along chain with ⟨q, spelt⟩
    exact spelt.not_breaks breaks

/-! ## Dotted names -/

/-- The chain of a text has that text as its dotted name, unless one of its segments is empty; then
it has none. Among names without dots, chains have the same dotted name exactly when they have the
same links, and there is no dotted name exactly when the chain breaks somewhere. -/
theorem dotted_name_exact :
    (∀ (s : Text) (line : Nat), (ofDotted s line).qualifiedName? =
        if [] ∈ Text.splitOn dot s then none else some s) ∧
      (∀ (n m : Node) (s t : Text), n.DotFree → m.DotFree → n.qualifiedName? = some s →
        m.qualifiedName? = some t → (s = t ↔ n.links = m.links)) ∧
      ∀ n : Node,
        n.qualifiedName? = none ↔ ∃ m, Relation.ReflTransGen Accesses n m ∧ m.Breaks := by
  refine ⟨qualifiedName?_ofDotted, ?_, fun _ => qualifiedName?_eq_none_iff⟩
  intro n m s t firstFree secondFree first second
  exact (qualifiedName?_eq_some_iff.mp first).eq_iff_links_eq (qualifiedName?_eq_some_iff.mp second)
    firstFree secondFree

/-- An access to a property of `this`, with a second child that is no part of the chain. -/
def ownProperty : Node :=
  { kind := .getprop, name := some ("a" : Text),
    children := [{ kind := .this }, { kind := .other }] }

theorem dotFree_ownProperty : ownProperty.DotFree := by
  have leaf : ∀ kind : Kind, DotFree { kind } := fun kind => DotFree.of_children nofun nofun
  apply DotFree.of_children
  · rintro name ⟨⟩
    decide
  · rintro child member
    simp only [ownProperty, List.mem_cons, List.not_mem_nil, or_false] at member
    rcases member with rfl | rfl
    · exact leaf .this
    · exact leaf .other

theorem ofDotted_this :
    ofDotted "this.a" = ofProperty (ofName ("this" : Text)) ("a" : Text) := by
  have segments : Text.splitOn dot "this.a" = [("this" : Text), ("a" : Text)] := by decide
  rw [ofDotted, segments]
  rfl

theorem dotFree_ofDotted_this : (ofDotted "this.a").DotFree := by
  rw [ofDotted_this]
  apply DotFree.of_children
  · rintro name ⟨⟩
    decide
  · rintro child member
    cases List.mem_singleton.mp member
    apply DotFree.of_children
    · rintro name ⟨⟩
      decide
    · exact nofun

/-- The chain of a text has the same links, although it ends in an identifier. -/
theorem dotted_name_exact_ownProperty :
    ownProperty.DotFree ∧ (ofDotted "this.a").DotFree ∧
      ownProperty.qualifiedName? = some "this.a" ∧
      (ofDotted "this.a").qualifiedName? = some "this.a" ∧
      ownProperty.links = (ofDotted "this.a").links := by
  have own : ownProperty.qualifiedName? = some "this.a" := by decide
  have spelt : (ofDotted "this.a").qualifiedName? = some "this.a" := by decide
  refine ⟨dotFree_ownProperty, dotFree_ofDotted_this, own, spelt, ?_⟩
  exact (dotted_name_exact.2.1 _ _ _ _ dotFree_ownProperty dotFree_ofDotted_this own spelt).mp rfl

end NamespaceScan.Node

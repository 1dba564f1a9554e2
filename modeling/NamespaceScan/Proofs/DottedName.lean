import NamespaceScan.Proofs.Text
import NamespaceScan.Tree.Node

/-!
# Dotted names

`Node.Spells` says without an accumulator which dotted name a chain of property
accesses has. `Node.qualifiedName?` finds exactly that name.
-/

namespace NamespaceScan

namespace Node

/-- The node is a chain of property accesses with the given dotted name: it ends
in a name or in `this`, and no name in it is empty. -/
inductive Spells : Node → Text → Prop where
  | name {n : Node} {t : Text} (isName : n.kind = .name) (named : n.name = some t)
      (nonempty : t ≠ []) : Spells n t
  | this {n : Node} (isThis : n.kind = .this) : Spells n "this"
  | property {n target : Node} {rest : List Node} {p q : Text} (isAccess : n.kind = .getprop)
      (named : n.name = some p) (nonempty : p ≠ []) (onTarget : n.children = target :: rest)
      (spelt : Spells target q) : Spells n (q ++ dot :: p)

section Shapes

variable {c : CodePoint} {name t : Text} {named : Option Text} {value : Option Text} {line : Nat}
  {target : Node} {rest children : List Node}

theorem spells_access_iff :
    Spells ⟨.getprop, some (c :: name), value, line, target :: rest⟩ t ↔
      ∃ q, target.Spells q ∧ t = q ++ dot :: c :: name := by
  constructor
  · intro spelt
    cases spelt with
    | name isName => cases isName
    | this isThis => cases isThis
    | property _ named _ onTarget spelt =>
        cases named
        cases onTarget
        exact ⟨_, spelt, rfl⟩
  · rintro ⟨q, spelt, rfl⟩
    exact Spells.property rfl rfl (List.cons_ne_nil c name) rfl spelt

theorem spells_identifier_iff :
    Spells ⟨.name, some (c :: name), value, line, children⟩ t ↔ t = c :: name := by
  constructor
  · intro spelt
    cases spelt with
    | name _ named => cases named; rfl
    | this isThis => cases isThis
    | property isAccess => cases isAccess
  · rintro rfl
    exact Spells.name rfl rfl (List.cons_ne_nil c name)

theorem spells_this_iff : Spells ⟨.this, named, value, line, children⟩ t ↔ t = "this" := by
  constructor
  · intro spelt
    cases spelt with
    | name isName => cases isName
    | this => rfl
    | property isAccess => cases isAccess
  · rintro rfl
    exact Spells.this rfl

/-- A chain has one of three shapes. -/
theorem Spells.shape {n : Node} (spelt : n.Spells t) :
    (∃ c name value line target rest,
        n = ⟨.getprop, some (c :: name), value, line, target :: rest⟩) ∨
      (∃ c name value line children, n = ⟨.name, some (c :: name), value, line, children⟩) ∨
      ∃ named value line children, n = ⟨.this, named, value, line, children⟩ := by
  rcases n with ⟨kind, named, value, line, children⟩
  cases spelt with
  | name isName named nonempty =>
      obtain ⟨c, rest, rfl⟩ := List.exists_cons_of_ne_nil nonempty
      cases isName
      cases named
      exact Or.inr (Or.inl ⟨_, _, _, _, _, rfl⟩)
  | this isThis =>
      cases isThis
      exact Or.inr (Or.inr ⟨_, _, _, _, rfl⟩)
  | property isAccess named nonempty onTarget =>
      obtain ⟨c, rest, rfl⟩ := List.exists_cons_of_ne_nil nonempty
      cases isAccess
      cases named
      cases onTarget
      exact Or.inl ⟨_, _, _, _, _, _, rfl⟩

end Shapes

/-- The segments found below a chain stand in front of those found before. -/
theorem map_segments?_eq_some_iff {found : List Text} {n : Node} {t : Text} :
    (n.segments? found).map (Text.joinWith [dot]) = some t ↔
      ∃ q, n.Spells q ∧ t = q ++ found.flatMap ([dot] ++ ·) := by
  induction found, n using segments?.induct with
  | case1 found c name value line target rest ih =>
      rw [segments?, ih]
      simp only [spells_access_iff]
      constructor
      · rintro ⟨q, spelt, rfl⟩
        exact ⟨_, ⟨q, spelt, rfl⟩, by simp⟩
      · rintro ⟨_, ⟨q, spelt, rfl⟩, rfl⟩
        exact ⟨q, spelt, by simp⟩
  | case2 found c name value line children =>
      rw [segments?, Option.map_some, Option.some.injEq, Text.joinWith_cons]
      simp only [spells_identifier_iff, exists_eq_left]
      exact eq_comm
  | case3 found name value line children =>
      rw [segments?, Option.map_some, Option.some.injEq, Text.joinWith_cons]
      simp only [spells_this_iff, exists_eq_left]
      exact eq_comm
  | case4 n found noAccess noName noThis =>
      rw [segments?.eq_4 _ _ noAccess noName noThis]
      simp only [Option.map_none, reduceCtorEq, false_iff]
      rintro ⟨q, spelt, -⟩
      rcases spelt.shape with ⟨_, _, _, _, _, _, same⟩ | ⟨_, _, _, _, _, same⟩ | ⟨_, _, _, _, same⟩
      · exact noAccess _ _ _ _ _ _ same
      · exact noName _ _ _ _ _ same
      · exact noThis _ _ _ _ same

/-- The dotted name that is found is the one that the chain spells. -/
theorem qualifiedName?_eq_some_iff {n : Node} {t : Text} :
    n.qualifiedName? = some t ↔ n.Spells t := by
  rw [qualifiedName?, map_segments?_eq_some_iff]
  simp

end Node

end NamespaceScan

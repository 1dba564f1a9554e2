import Mathlib.Data.List.Forall2
import NamespaceScan.Log.Traced

/-!
# Outcomes of traced computations

A sequence has a value when all of its parts do, and otherwise ends with the problem of
the first part that has none. For a computation that is applied to each member of a
list, that is the first member with a problem.
-/

namespace NamespaceScan.Traced

variable {α β : Type}

theorem outcome_bind_eq_ok_iff {first : Traced α} {next : α → Traced β} {b : β} :
    (first >>= next).outcome = .ok b ↔
      ∃ a, first.outcome = .ok a ∧ (next a).outcome = .ok b := by
  rw [outcome_bind]
  cases first.outcome with
  | error problem => simp [Except.bind]
  | ok a => simp [Except.bind]

theorem outcome_bind_eq_error_iff {first : Traced α} {next : α → Traced β} {problem : Problem} :
    (first >>= next).outcome = .error problem ↔
      first.outcome = .error problem ∨
        ∃ a, first.outcome = .ok a ∧ (next a).outcome = .error problem := by
  rw [outcome_bind]
  cases first.outcome with
  | error other => simp [Except.bind]
  | ok a => simp [Except.bind]

theorem forEach_cons (f : α → Traced β) (a : α) (rest : List α) :
    forEach f (a :: rest) = f a >>= fun b => forEach f rest >>= fun bs => pure (b :: bs) :=
  rfl

/-- All members have a value, and these are the values. -/
theorem outcome_forEach_eq_ok_iff {f : α → Traced β} {members : List α} {values : List β} :
    (forEach f members).outcome = .ok values ↔
      List.Forall₂ (fun a b => (f a).outcome = .ok b) members values := by
  induction members generalizing values with
  | nil =>
      rw [List.forall₂_nil_left_iff]
      constructor
      · rintro ⟨⟩
        rfl
      · rintro rfl
        rfl
  | cons a rest ih =>
      simp only [forEach_cons, outcome_bind_eq_ok_iff, ih, outcome_pure, Except.ok.injEq,
        List.forall₂_cons_left_iff]
      constructor
      · rintro ⟨b, first, bs, later, rfl⟩
        exact ⟨b, bs, first, later, rfl⟩
      · rintro ⟨b, bs, first, later, rfl⟩
        exact ⟨b, first, bs, later, rfl⟩

/-- The values are those of the members. -/
theorem mem_of_outcome_forEach {f : α → Traced β} {members : List α} {values : List β}
    (all : (forEach f members).outcome = .ok values) {b : β} :
    b ∈ values ↔ ∃ a ∈ members, (f a).outcome = .ok b := by
  induction outcome_forEach_eq_ok_iff.mp all with
  | nil => simp
  | @cons a first members values found later ih =>
      rw [List.mem_cons, List.exists_mem_cons_iff, found, Except.ok.injEq, eq_comm,
        ih (outcome_forEach_eq_ok_iff.mpr later)]

/-- A computation that checks the values of another one checks all values of a list. -/
theorem outcome_forEach_eq_ok_iff_of_check {f g : α → Traced β} {good : β → Prop}
    (check : ∀ a b, (f a).outcome = .ok b ↔ (g a).outcome = .ok b ∧ good b)
    {members : List α} {values : List β} :
    (forEach f members).outcome = .ok values ↔
      (forEach g members).outcome = .ok values ∧ ∀ b ∈ values, good b := by
  simp only [outcome_forEach_eq_ok_iff, check]
  constructor
  · intro both
    induction both with
    | nil => exact ⟨List.Forall₂.nil, by simp⟩
    | cons first _ ih =>
        obtain ⟨rest, allGood⟩ := ih
        exact ⟨List.Forall₂.cons first.1 rest, List.forall_mem_cons.mpr ⟨first.2, allGood⟩⟩
  · rintro ⟨all, allGood⟩
    induction all with
    | nil => exact List.Forall₂.nil
    | cons first _ ih =>
        obtain ⟨firstGood, restGood⟩ := List.forall_mem_cons.mp allGood
        exact List.Forall₂.cons ⟨first, firstGood⟩ (ih restGood)

/-- The first member without a value has the problem; all members before it have one. -/
theorem outcome_forEach_eq_error_iff {f : α → Traced β} {members : List α} {problem : Problem} :
    (forEach f members).outcome = .error problem ↔
      ∃ front a back, members = front ++ a :: back ∧
        (∀ x ∈ front, ∃ b, (f x).outcome = .ok b) ∧ (f a).outcome = .error problem := by
  induction members with
  | nil =>
      constructor
      · rintro ⟨⟩
      · rintro ⟨front, a, back, split, -⟩
        simp at split
  | cons a rest ih =>
      rw [forEach_cons, outcome_bind_eq_error_iff]
      simp only [outcome_bind_eq_error_iff, ih, outcome_pure, reduceCtorEq, and_false,
        exists_const, or_false]
      constructor
      · rintro (failed | ⟨b, first, front, x, back, rfl, fine, failed⟩)
        · exact ⟨[], a, rest, rfl, by simp, failed⟩
        · refine ⟨a :: front, x, back, rfl, ?_, failed⟩
          intro y member
          rcases List.mem_cons.mp member with rfl | later
          · exact ⟨b, first⟩
          · exact fine y later
      · rintro ⟨front, x, back, split, fine, failed⟩
        cases front with
        | nil =>
            cases split
            exact Or.inl failed
        | cons y front =>
            cases split
            obtain ⟨b, first⟩ := fine a List.mem_cons_self
            refine Or.inr ⟨b, first, front, x, back, rfl, ?_, failed⟩
            intro z member
            exact fine z (List.mem_cons_of_mem a member)

/-- There are values for all members exactly if each member has one. -/
theorem exists_outcome_forEach_iff {f : α → Traced β} {members : List α} :
    (∃ values, (forEach f members).outcome = .ok values) ↔
      ∀ a ∈ members, ∃ b, (f a).outcome = .ok b := by
  induction members with
  | nil => exact iff_of_true ⟨[], rfl⟩ (List.forall_mem_nil _)
  | cons a rest ih =>
      simp only [forEach_cons, outcome_bind_eq_ok_iff, outcome_pure, List.forall_mem_cons, ← ih]
      constructor
      · rintro ⟨values, b, first, bs, later, -⟩
        exact ⟨⟨b, first⟩, bs, later⟩
      · rintro ⟨⟨b, first⟩, bs, later⟩
        exact ⟨b :: bs, b, first, bs, later, rfl⟩

end NamespaceScan.Traced

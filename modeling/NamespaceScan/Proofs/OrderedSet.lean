import Mathlib.Data.List.Sort
import NamespaceScan.OrderedSet

/-!
# Membership in ordered sets

A set is determined by its members. Inserting a value adds exactly that value,
whatever stands in the list already. Placement tells neighbours apart by comparison
alone, so this needs an order in which values that are not comparable are equal.
-/

namespace NamespaceScan.OrderedSet

universe u

variable {α : Type u} [LT α]

@[simp]
theorem mem_toList {s : OrderedSet α} {a : α} : a ∈ s.toList ↔ a ∈ s :=
  Iff.rfl

@[simp]
theorem not_mem_empty (a : α) : a ∉ (∅ : OrderedSet α) :=
  List.not_mem_nil

/-- A set is determined by its members. -/
theorem ext_mem [Std.Antisymm (fun a b : α => a < b)] [Std.Irrefl (fun a b : α => a < b)]
    {s t : OrderedSet α} (same : ∀ a, a ∈ s ↔ a ∈ t) : s = t :=
  ext_toList (s.increasing.eq_of_mem_iff t.increasing same)

variable [DecidableLT α] [Std.Trichotomous (fun a b : α => a < b)]

theorem mem_place_iff {a x : α} {l : List α} : x ∈ place a l ↔ x = a ∨ x ∈ l := by
  constructor
  · exact mem_place_imp
  · intro member
    induction l with
    | nil => simpa [place] using member
    | cons b rest ih =>
        simp only [place]
        split
        · simpa using member
        · rename_i notBelow
          split
          · rcases member with isNew | old
            · exact List.mem_cons_of_mem b (ih (Or.inl isNew))
            · rcases List.mem_cons.mp old with here | later
              · exact here ▸ List.mem_cons_self
              · exact List.mem_cons_of_mem b (ih (Or.inr later))
          · -- Neither value is smaller, so the new value is there already.
            rename_i notAbove
            have same : a = b := Std.Trichotomous.trichotomous a b notBelow notAbove
            rcases member with isNew | old
            · exact isNew.trans same ▸ List.mem_cons_self
            · exact old

variable [Trans (fun a b : α => a < b) (fun a b : α => a < b) (fun a b : α => a < b)]

@[simp]
theorem mem_insert_iff {a x : α} {s : OrderedSet α} : x ∈ s.insert a ↔ x = a ∨ x ∈ s :=
  mem_place_iff

theorem mem_foldl_insert_iff {x : α} {l : List α} {s : OrderedSet α} :
    x ∈ l.foldl (fun s a => s.insert a) s ↔ x ∈ l ∨ x ∈ s := by
  induction l generalizing s with
  | nil => simp
  | cons a rest ih =>
      rw [List.foldl_cons, ih, mem_insert_iff, List.mem_cons]
      exact or_left_comm.trans or_assoc.symm

/-- The set of a list has the members of the list. -/
@[simp]
theorem mem_ofList_iff {x : α} {l : List α} : x ∈ ofList l ↔ x ∈ l := by
  rw [ofList, mem_foldl_insert_iff]
  exact or_iff_left (not_mem_empty x)

@[simp]
theorem mem_union_iff {x : α} {s t : OrderedSet α} : x ∈ s.union t ↔ x ∈ t ∨ x ∈ s :=
  mem_foldl_insert_iff

/-- A union of sets has the members of all of them. -/
theorem mem_foldl_union_iff {x : α} {sets : List (OrderedSet α)} {s : OrderedSet α} :
    x ∈ sets.foldl union s ↔ x ∈ s ∨ ∃ t ∈ sets, x ∈ t := by
  induction sets generalizing s with
  | nil => simp
  | cons first rest ih =>
      rw [List.foldl_cons, ih, mem_union_iff, List.exists_mem_cons_iff]
      exact or_assoc.trans or_left_comm

end NamespaceScan.OrderedSet

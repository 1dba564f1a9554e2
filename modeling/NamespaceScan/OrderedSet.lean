import NamespaceScan.Numbers

/-!
# Ordered sets

A finite set kept as its strictly increasing list of members. Two such sets
with the same members are the same value, so the order in which members were
added never shows.
-/

namespace NamespaceScan

universe u

/-- A finite set of ordered values, listed in strictly increasing order. -/
structure OrderedSet (α : Type u) [LT α] where
  /-- The members in increasing order. -/
  toList : List α
  /-- Each member is smaller than all later ones. -/
  increasing : toList.Pairwise (· < ·)

namespace OrderedSet

variable {α : Type u} [LT α]

/-- The set without members. -/
def empty : OrderedSet α := ⟨[], List.Pairwise.nil⟩

instance : EmptyCollection (OrderedSet α) := ⟨empty⟩
instance : Inhabited (OrderedSet α) := ⟨empty⟩

instance : Membership α (OrderedSet α) := ⟨fun s a => a ∈ s.toList⟩

theorem ext_toList {s t : OrderedSet α} (h : s.toList = t.toList) : s = t := by
  cases s; cases t; cases h; rfl

instance [DecidableEq α] : DecidableEq (OrderedSet α) := fun s t =>
  if h : s.toList = t.toList then isTrue (ext_toList h)
  else isFalse fun equal => h (congrArg toList equal)

variable [DecidableLT α]

/-- Put a value at its place in an increasing list, unless it is there already. -/
def place (a : α) : List α → List α
  | [] => [a]
  | b :: rest =>
    if a < b then a :: b :: rest
    else if b < a then b :: place a rest
    else b :: rest

theorem mem_place_imp {a x : α} {l : List α} (h : x ∈ place a l) : x = a ∨ x ∈ l := by
  induction l with
  | nil => simpa [place] using h
  | cons b rest ih =>
    simp only [place] at h
    split at h
    · simpa using h
    · split at h
      · rcases List.mem_cons.mp h with here | later
        · exact Or.inr (here ▸ List.mem_cons_self)
        · rcases ih later with isNew | old
          · exact Or.inl isNew
          · exact Or.inr (List.mem_cons_of_mem b old)
      · exact Or.inr h

variable [Trans (fun a b : α => a < b) (fun a b : α => a < b) (fun a b : α => a < b)]

theorem increasing_place (a : α) {l : List α} (h : l.Pairwise (· < ·)) :
    (place a l).Pairwise (· < ·) := by
  induction l with
  | nil => simp [place]
  | cons b rest ih =>
    obtain ⟨below, later⟩ := List.pairwise_cons.mp h
    simp only [place]
    split
    · rename_i smaller
      refine List.pairwise_cons.mpr ⟨?_, h⟩
      intro x mem
      rcases List.mem_cons.mp mem with rfl | mem
      · exact smaller
      · exact Trans.trans smaller (below x mem)
    · split
      · rename_i larger
        refine List.pairwise_cons.mpr ⟨?_, ih later⟩
        intro x mem
        rcases mem_place_imp mem with rfl | mem
        · exact larger
        · exact below x mem
      · exact h

/-- The set with one more member. -/
def insert (a : α) (s : OrderedSet α) : OrderedSet α :=
  ⟨place a s.toList, increasing_place a s.increasing⟩

/-- The set of the members of a list. -/
def ofList (l : List α) : OrderedSet α := l.foldl (fun s a => s.insert a) empty

/-- All members of both sets. -/
def union (s t : OrderedSet α) : OrderedSet α := t.toList.foldl (fun s a => s.insert a) s

omit [DecidableLT α] [Trans (fun a b : α => a < b) (fun a b : α => a < b) (fun a b : α => a < b)]

/-- How many members there are. -/
def size (s : OrderedSet α) : Nat := s.toList.length

/-- Whether there is no member. -/
def isEmpty (s : OrderedSet α) : Bool := s.toList.isEmpty

end OrderedSet

end NamespaceScan

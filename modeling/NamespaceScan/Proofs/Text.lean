import NamespaceScan.Text.Basic

/-!
# Joined and split texts

Splitting undoes joining when the separator stands in no part, and joining always undoes splitting.
-/

namespace NamespaceScan

namespace Text

/-- Joined parts are the first part, then each other part behind a separator. -/
theorem joinWith_cons (separator part : Text) (parts : List Text) :
    Text.joinWith separator (part :: parts) = part ++ parts.flatMap (separator ++ ·) := by
  rw [joinWith]
  induction parts generalizing part with
  | nil => simp
  | cons next rest ih =>
      rw [List.intercalate_cons_cons, ih next, List.flatMap_cons]
      simp

/-- One more part stands at the end, behind a separator. -/
theorem joinWith_concat {separator part : Text} {parts : List Text} (some : parts ≠ []) :
    joinWith separator (parts ++ [part]) = joinWith separator parts ++ separator ++ part := by
  rcases List.exists_cons_of_ne_nil some with ⟨first, rest, rfl⟩
  rw [List.cons_append, joinWith_cons, joinWith_cons]
  simp

theorem mem_joinWith_iff_of_cons {separator part : Text} {parts : List Text} {c : CodePoint} :
    c ∈ joinWith separator (part :: parts) ↔
      c ∈ part ∨ ∃ other ∈ parts, c ∈ separator ∨ c ∈ other := by
  rw [joinWith_cons, List.mem_append, List.mem_flatMap]
  simp only [List.mem_append]

/-- Each code point of joined parts is one of a part or of the separator. -/
theorem mem_of_mem_joinWith {separator : Text} {parts : List Text} {c : CodePoint}
    (member : c ∈ joinWith separator parts) : c ∈ separator ∨ ∃ part ∈ parts, c ∈ part := by
  cases parts with
  | nil => cases member
  | cons part parts =>
      rcases mem_joinWith_iff_of_cons.mp member with first | ⟨other, later, between | inside⟩
      · exact Or.inr ⟨part, List.mem_cons_self, first⟩
      · exact Or.inl between
      · exact Or.inr ⟨other, List.mem_cons_of_mem part later, inside⟩

theorem mem_joinWith_of_mem {separator part : Text} {parts : List Text} {c : CodePoint}
    (member : part ∈ parts) (inside : c ∈ part) : c ∈ joinWith separator parts := by
  cases parts with
  | nil => cases member
  | cons first parts =>
      rw [mem_joinWith_iff_of_cons]
      rcases List.mem_cons.mp member with rfl | later
      · exact Or.inl inside
      · exact Or.inr ⟨part, later, Or.inr inside⟩

variable {separator : CodePoint}

theorem splitOn_ne_nil (separator : CodePoint) (t : Text) : splitOn separator t ≠ [] := by
  cases t with
  | nil => exact List.cons_ne_nil _ _
  | cons c rest =>
      simp only [splitOn]
      split
      · exact List.cons_ne_nil _ _
      · split <;> exact List.cons_ne_nil _ _

theorem splitOn_cons_of_ne {c : CodePoint} {t piece : Text} {pieces : List Text}
    (differ : c ≠ separator) (split : splitOn separator t = piece :: pieces) :
    splitOn separator (c :: t) = (c :: piece) :: pieces := by
  rw [splitOn, if_neg differ, split]

theorem splitOn_cons_self (t : Text) :
    splitOn separator (separator :: t) = [] :: splitOn separator t := by
  rw [splitOn, if_pos rfl]

theorem splitOn_of_not_mem {t : Text} (free : separator ∉ t) : splitOn separator t = [t] := by
  induction t with
  | nil => rfl
  | cons c rest ih =>
      rw [List.mem_cons, not_or] at free
      obtain ⟨differ, later⟩ := free
      exact splitOn_cons_of_ne (Ne.symm differ) (ih later)

theorem splitOn_append {t : Text} (free : separator ∉ t) (rest : Text) :
    splitOn separator (t ++ separator :: rest) = t :: splitOn separator rest := by
  induction t with
  | nil => simp [splitOn]
  | cons c t ih =>
      rw [List.mem_cons, not_or] at free
      obtain ⟨differ, later⟩ := free
      exact splitOn_cons_of_ne (Ne.symm differ) (ih later)

theorem splitOn_joinWith {parts : List Text} (some : parts ≠ [])
    (free : ∀ part ∈ parts, separator ∉ part) :
    splitOn separator (joinWith [separator] parts) = parts := by
  induction parts with
  | nil => exact absurd rfl some
  | cons part parts ih =>
      obtain ⟨first, others⟩ := List.forall_mem_cons.mp free
      cases parts with
      | nil => simpa [joinWith_cons] using splitOn_of_not_mem first
      | cons next rest =>
          have joined : joinWith [separator] (part :: next :: rest) =
              part ++ separator :: joinWith [separator] (next :: rest) := by
            simp [joinWith_cons]
          rw [joined, splitOn_append first, ih (List.cons_ne_nil _ _) others]

/-- The pieces of a text, joined again, are the text. -/
theorem joinWith_splitOn (separator : CodePoint) (t : Text) :
    joinWith [separator] (splitOn separator t) = t := by
  induction t with
  | nil => rfl
  | cons c rest ih =>
      rcases List.exists_cons_of_ne_nil (splitOn_ne_nil separator rest) with ⟨piece, pieces, split⟩
      rw [split, joinWith_cons] at ih
      by_cases same : c = separator
      · rw [same, splitOn_cons_self, split, joinWith_cons, List.flatMap_cons, ← ih]
        rfl
      · rw [splitOn_cons_of_ne same split, joinWith_cons, List.cons_append, ih]

/-- The pieces of a text are parts of it without the separator. -/
theorem of_mem_splitOn {t piece : Text} (member : piece ∈ splitOn separator t) :
    separator ∉ piece ∧ piece ⊆ t := by
  induction t generalizing piece with
  | nil =>
      cases List.mem_singleton.mp member
      simp
  | cons c rest ih =>
      by_cases same : c = separator
      · rw [splitOn, if_pos same] at member
        rcases List.mem_cons.mp member with rfl | later
        · simp
        · exact ⟨(ih later).1, List.subset_cons_of_subset c (ih later).2⟩
      · obtain ⟨first, others, split⟩ := List.exists_cons_of_ne_nil (splitOn_ne_nil separator rest)
        rw [splitOn_cons_of_ne same split] at member
        rw [split] at ih
        rcases List.mem_cons.mp member with rfl | later
        · obtain ⟨free, inside⟩ := ih List.mem_cons_self
          refine ⟨?_, List.cons_subset_cons c inside⟩
          rw [List.mem_cons, not_or]
          exact ⟨Ne.symm same, free⟩
        · obtain ⟨free, inside⟩ := ih (List.mem_cons_of_mem first later)
          exact ⟨free, List.subset_cons_of_subset c inside⟩

end Text

end NamespaceScan

import NamespaceScan.Files.Naming
import NamespaceScan.Path
import NamespaceScan.Proofs.Text

/-!
# Texts that can name files

A text can name a file exactly when it has no fault as a path. The text of a path can when all of
its names can, since a slash does no harm.
-/

namespace NamespaceScan

namespace Text

variable {t part : Text}

theorem isNameable_iff :
    t.isNameable = true ↔ ∀ c ∈ t, c.isUnwritable = false ∧ c ≠ zeroCharacter := by
  simp [isNameable]

theorem isNameable_of_subset (nameable : t.isNameable = true) (sub : part ⊆ t) :
    part.isNameable = true :=
  isNameable_iff.mpr fun c member => isNameable_iff.mp nameable c (sub member)

@[simp]
theorem isNameable_append :
    (t ++ part).isNameable = true ↔ t.isNameable = true ∧ part.isNameable = true := by
  rw [isNameable, List.all_append, Bool.and_eq_true]
  exact Iff.rfl

theorem isNameable_joinWith_slash {parts : List Text} :
    (joinWith [slash] parts).isNameable = true ↔ ∀ part ∈ parts, part.isNameable = true := by
  constructor
  · intro nameable part member
    exact isNameable_of_subset nameable fun c inside => mem_joinWith_of_mem member inside
  · intro each
    rw [isNameable_iff]
    intro c member
    rcases mem_of_mem_joinWith member with between | ⟨part, listed, inside⟩
    · cases List.mem_singleton.mp between
      decide
    · exact isNameable_iff.mp (each part listed) c inside

theorem firstUnwritable_eq_none_iff (position : Nat) :
    t.firstUnwritable position = none ↔ ∀ c ∈ t, c.isUnwritable = false := by
  induction t generalizing position with
  | nil => simp [firstUnwritable]
  | cons c rest ih =>
      rw [firstUnwritable, List.forall_mem_cons, ← ih (position + 1)]
      cases c.isUnwritable <;> simp

end Text

/-- A text has no fault as a path exactly when it can name a file. -/
theorem pathFault?_eq_none_iff {t : Text} : pathFault? t = none ↔ t.isNameable = true := by
  rw [Text.isNameable_iff, pathFault?]
  cases first : t.firstUnwritable 0 with
  | none =>
      have writable := (Text.firstUnwritable_eq_none_iff 0).mp first
      by_cases zero : zeroCharacter ∈ t
      · rw [if_pos zero]
        exact iff_of_false nofun fun each => (each zeroCharacter zero).2 rfl
      · rw [if_neg zero]
        refine iff_of_true rfl fun c member => ⟨writable c member, ?_⟩
        rintro rfl
        exact zero member
  | some error =>
      refine iff_of_false nofun fun each => ?_
      have none := (Text.firstUnwritable_eq_none_iff 0).mpr
        fun c member => (each c member).1
      cases none.symm.trans first

namespace Text

theorem octetCount_append (t more : Text) :
    (t ++ more).octetCount = t.octetCount + more.octetCount := by
  rw [octetCount, List.map_append, List.sum_append]
  rfl

theorem octetCount_joinWith_append_le (separator : Text) (parts more : List Text) :
    (joinWith separator parts).octetCount ≤ (joinWith separator (parts ++ more)).octetCount := by
  cases parts with
  | nil => exact Nat.zero_le _
  | cons part parts =>
      rw [List.cons_append, joinWith_cons, joinWith_cons, List.flatMap_append, ← List.append_assoc,
        octetCount_append (part ++ _)]
      exact Nat.le_add_right _ _

end Text

/-- The path of a location is no longer than those of the locations below it. -/
theorem Location.isLongPath_append {l : Location} (more : Location)
    (long : isLongPath (toText l) = true) : isLongPath (toText (l ++ more)) = true := by
  have spread : ∀ names : Location, (toText names).octetCount =
      Text.octetCount [slash] + (Text.joinWith [slash] names).octetCount := fun names =>
    Text.octetCount_append [slash] _
  have joined := Text.octetCount_joinWith_append_le [slash] l more
  simp only [isLongPath, decide_eq_true_eq, spread] at long ⊢
  omega

/-- The names of a path can all name files. -/
def Nameable (names : List Text) : Prop := ∀ name ∈ names, name.isNameable = true

namespace Path

variable {p : Path}

theorem isNameable_toText_iff : p.toText.isNameable = true ↔ Nameable p.names := by
  unfold toText
  split
  · rename_i void
    rw [void.2]
    exact iff_of_true (by decide) (List.forall_mem_nil _)
  · have slashes : p.anchor.toText.isNameable = true := by cases p.anchor <;> decide
    rw [Text.isNameable_append, and_iff_right slashes, Text.isNameable_joinWith_slash]
    exact Iff.rfl

end Path

theorem Location.isNameable_toText_iff {l : Location} :
    (toText l).isNameable = true ↔ Nameable l :=
  Path.isNameable_toText_iff (p := Path.ofLocation l)

end NamespaceScan

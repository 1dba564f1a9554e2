import NamespaceScan.Proofs.Entry

/-!
# Distinct names

In a directory of an operating system no two members have the same name. Then the members
are what the names lead to, in whatever order they are listed.
-/

namespace NamespaceScan

/-- A member that a name leads to is a member with that name. -/
theorem Members.mem_of_get? {members : Members} {name : Text} {entry : Entry}
    (found : get? members name = some entry) : (name, entry) ∈ members := by
  obtain ⟨member, located, rfl⟩ := Option.map_eq_some_iff.mp found
  have same : member.1 = name := by simpa using List.find?_some located
  exact same ▸ List.mem_of_find?_eq_some located

namespace Entry

mutual

/-- No directory in an entry has two members of one name. -/
def isDistinct : Entry → Bool
  | .file _ => true
  | .directory members => areDistinct members
  | .link _ => true

/-- No two members have the same name, and so it is in all entries below them. -/
def areDistinct : List (Text × Entry) → Bool
  | [] => true
  | (name, entry) :: rest =>
    rest.all (fun member => member.1 ≠ name) && isDistinct entry && areDistinct rest

end

variable {members : Members} {name : Text} {entry : Entry}

theorem areDistinct_cons_iff {rest : Members} :
    areDistinct ((name, entry) :: rest) = true ↔
      (∀ member ∈ rest, member.1 ≠ name) ∧ entry.isDistinct = true ∧ areDistinct rest = true := by
  simp [areDistinct, and_assoc]

/-- The members of a directory with distinct names are what the names lead to. -/
theorem get?_eq_some_iff_mem (distinct : areDistinct members = true) :
    Members.get? members name = some entry ↔ (name, entry) ∈ members := by
  refine ⟨Members.mem_of_get?, ?_⟩
  intro listed
  induction members with
  | nil => cases listed
  | cons member rest ih =>
      obtain ⟨others, -, later⟩ := areDistinct_cons_iff.mp distinct
      rcases List.mem_cons.mp listed with rfl | there
      · simp [Members.get?]
      · have apart : member.1 ≠ name := fun same => others _ there same.symm
        simpa [Members.get?, apart] using ih later there

/-- The order in which the members of a directory are listed does not show. -/
theorem outline_descend_of_same_members {others : Members} (distinct : areDistinct members = true)
    (otherDistinct : areDistinct others = true)
    (same : ∀ member, member ∈ others ↔ member ∈ members) (l : Location) :
    ((Entry.directory others).descend l).map outline =
      ((Entry.directory members).descend l).map outline := by
  cases l with
  | nil => rfl
  | cons name rest =>
      have stands : Members.get? others name = Members.get? members name := by
        apply Option.ext
        intro entry
        rw [get?_eq_some_iff_mem otherDistinct, get?_eq_some_iff_mem distinct, same]
      rw [descend_directory_cons, descend_directory_cons, stands]

theorem isDistinct_of_mem (distinct : areDistinct members = true)
    (member : (name, entry) ∈ members) : entry.isDistinct = true := by
  induction members with
  | nil => cases member
  | cons first rest ih =>
      obtain ⟨-, here, later⟩ := areDistinct_cons_iff.mp distinct
      rcases List.mem_cons.mp member with rfl | there
      · exact here
      · exact ih later there

theorem isDistinct_of_descend {found : Entry} {l : Location} (distinct : entry.isDistinct = true)
    (leads : entry.descend l = some found) : found.isDistinct = true := by
  induction l generalizing entry with
  | nil =>
      rw [descend_nil] at leads
      exact Option.some.inj leads ▸ distinct
  | cons name rest ih =>
      cases entry with
      | directory members =>
          rw [descend_directory_cons] at leads
          obtain ⟨next, stands, onward⟩ := Option.bind_eq_some_iff.mp leads
          exact ih (isDistinct_of_mem distinct ((get?_eq_some_iff_mem distinct).mp stands)) onward
      | file octets => cases leads
      | link target => cases leads

end Entry

namespace FileSystem

/-- No directory has two members of one name. -/
def Distinct (fs : FileSystem) : Prop := fs.root.isDistinct = true

end FileSystem

end NamespaceScan

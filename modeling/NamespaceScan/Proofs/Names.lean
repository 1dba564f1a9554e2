import NamespaceScan.Files.Host
import NamespaceScan.Proofs.Entry
import NamespaceScan.Proofs.Naming

/-!
# Names and the texts of paths

The members of a directory may have any name that can stand in a path, and a path whose
names are of that kind can be read back from its text. A file system whose names are all
of that kind is well named; the operating system keeps it so.
-/

namespace NamespaceScan

/-- A name that an entry can have. The empty name and the dots stand for directories that
are named otherwise; a slash would end the name, a zero character the whole path. -/
structure IsName (name : Text) : Prop where
  nonempty : name ≠ []
  notHere : name ≠ here
  notAbove : name ≠ above
  noSlash : slash ∉ name
  nameable : name.isNameable = true

instance isName_decidable (name : Text) : Decidable (IsName name) :=
  decidable_of_iff
    (name ≠ [] ∧ name ≠ here ∧ name ≠ above ∧ slash ∉ name ∧ name.isNameable = true)
    ⟨fun ⟨nonempty, notHere, notAbove, noSlash, nameable⟩ =>
      ⟨nonempty, notHere, notAbove, noSlash, nameable⟩,
    fun ⟨nonempty, notHere, notAbove, noSlash, nameable⟩ =>
      ⟨nonempty, notHere, notAbove, noSlash, nameable⟩⟩

namespace Entry

mutual

/-- All names in an entry are names, and each link stands for a text that can name a file. -/
def isWellNamed : Entry → Bool
  | .file _ => true
  | .directory members => areWellNamed members
  | .link target => target.isNameable

/-- The members of a directory have names, and so have all entries below them. -/
def areWellNamed : List (Text × Entry) → Bool
  | [] => true
  | (name, entry) :: rest => decide (IsName name) && isWellNamed entry && areWellNamed rest

end

theorem of_get?_of_areWellNamed {members : Members} {name : Text} {entry : Entry}
    (named : areWellNamed members = true) (found : Members.get? members name = some entry) :
    IsName name ∧ entry.isWellNamed = true := by
  induction members with
  | nil => cases found
  | cons member rest ih =>
      obtain ⟨first, later⟩ := Bool.and_eq_true_iff.mp named
      obtain ⟨isName, below⟩ := Bool.and_eq_true_iff.mp first
      by_cases same : member.1 = name
      · have stands : member.2 = entry := by simpa [Members.get?, same] using found
        exact ⟨same ▸ of_decide_eq_true isName, stands ▸ below⟩
      · exact ih later (by simpa [Members.get?, same] using found)

/-- Names that lead to an entry are names, and the entry is well named too. -/
theorem of_descend_of_isWellNamed {entry found : Entry} {l : Location}
    (named : entry.isWellNamed = true) (leads : entry.descend l = some found) :
    (∀ name ∈ l, IsName name) ∧ found.isWellNamed = true := by
  induction l generalizing entry with
  | nil =>
      rw [descend_nil] at leads
      exact ⟨List.forall_mem_nil _, Option.some.inj leads ▸ named⟩
  | cons name rest ih =>
      cases entry with
      | directory members =>
          rw [descend_directory_cons] at leads
          obtain ⟨next, stands, leads⟩ := Option.bind_eq_some_iff.mp leads
          obtain ⟨isName, below⟩ := of_get?_of_areWellNamed named stands
          obtain ⟨later, last⟩ := ih below leads
          exact ⟨List.forall_mem_cons.mpr ⟨isName, later⟩, last⟩
      | file octets => cases leads
      | link target => cases leads

end Entry

/-- All names in the file system are names. -/
def FileSystem.WellNamed (fs : FileSystem) : Prop := fs.root.isWellNamed = true

theorem FileSystem.WellNamed.isNameable_link {fs : FileSystem} {l : Location} {target : Text}
    (named : fs.WellNamed) (isLink : fs.get? l = some (.link target)) :
    target.isNameable = true :=
  (Entry.of_descend_of_isWellNamed named isLink).2

theorem FileSystem.WellNamed.isName {fs : FileSystem} {l : Location} {entry : Entry}
    (named : fs.WellNamed) (found : fs.get? l = some entry) : ∀ name ∈ l, IsName name :=
  (Entry.of_descend_of_isWellNamed named found).1

/-! ## Reading a path back -/

namespace Path

/-- The text of the path spells its names: none of them is empty or a single dot, and no
slash stands in them. -/
def Spelled (p : Path) : Prop := ∀ name ∈ p.names, name ≠ [] ∧ name ≠ here ∧ slash ∉ name

theorem of_mem_names_ofText {t name : Text} (member : name ∈ (ofText t).names) :
    name ≠ [] ∧ name ≠ here ∧ slash ∉ name ∧ name ⊆ t := by
  obtain ⟨piece, kept⟩ := List.mem_filter.mp member
  simp only [ne_eq, Bool.and_eq_true, decide_eq_true_eq] at kept
  obtain ⟨free, inside⟩ := Text.of_mem_splitOn piece
  exact ⟨kept.1, kept.2, free, inside⟩

theorem spelled_ofText (t : Text) : (ofText t).Spelled := by
  intro name member
  obtain ⟨some, notHere, free, -⟩ := of_mem_names_ofText member
  exact ⟨some, notHere, free⟩

theorem spelled_ofLocation {l : Location} (named : ∀ name ∈ l, IsName name) :
    (ofLocation l).Spelled :=
  fun name member =>
    ⟨(named name member).nonempty, (named name member).notHere, (named name member).noSlash⟩

theorem nameable_of_isName {l : Location} (named : ∀ name ∈ l, IsName name) : Nameable l :=
  fun name member => (named name member).nameable

theorem spelled_parent {p : Path} (spelled : p.Spelled) : p.parent.Spelled :=
  fun name member => spelled name ((List.dropLast_sublist p.names).subset member)

theorem toText_ofLocation (l : Location) : (ofLocation l).toText = Location.toText l :=
  rfl

/-- The text of joined names does not begin with a slash. -/
theorem head?_joinWith_ne {names : List Text}
    (spelled : ∀ name ∈ names, name ≠ [] ∧ name ≠ here ∧ slash ∉ name) :
    (Text.joinWith [slash] names).head? ≠ some slash := by
  cases names with
  | nil => exact nofun
  | cons name rest =>
      obtain ⟨some, -, free⟩ := spelled name List.mem_cons_self
      obtain ⟨c, letters, rfl⟩ := List.exists_cons_of_ne_nil some
      rw [Text.joinWith_cons]
      intro begins
      have same : c = slash := by simpa using begins
      exact free (same ▸ List.mem_cons_self)

theorem ofText_toText_ofLocation {l : Location} (named : ∀ name ∈ l, IsName name) :
    ofText (Location.toText l) = ofLocation l := by
  have spelled := spelled_ofLocation named
  have oneSlash : (Location.toText l).takeWhile (· = slash) = [slash] := by
    have stops : (Text.joinWith [slash] l).takeWhile (· = slash) = [] := by
      have begins : (Text.joinWith [slash] l).head? ≠ some slash := head?_joinWith_ne spelled
      cases joined : Text.joinWith [slash] l with
      | nil => rfl
      | cons c rest =>
          rw [joined] at begins
          rw [List.takeWhile_cons_of_neg]
          simpa using begins
    rw [Location.toText, List.takeWhile_cons_of_pos (by simp), stops]
  have pieces : Text.splitOn slash (Location.toText l) =
      [] :: Text.splitOn slash (Text.joinWith [slash] l) := by
    rw [Location.toText, Text.splitOn, if_pos rfl]
  have names : (Text.splitOn slash (Text.joinWith [slash] l)).filter
      (fun name => name ≠ [] && name ≠ here) = l := by
    cases l with
    | nil => rfl
    | cons first rest =>
        rw [Text.splitOn_joinWith (List.cons_ne_nil _ _)
          fun name member => (named name member).noSlash, List.filter_eq_self]
        intro name member
        simp [(named name member).nonempty, (named name member).notHere]
  rw [ofText, oneSlash, pieces, List.filter_cons_of_neg (by simp), names]
  rfl

end Path

/-! ## Sound hosts -/

/-- What every operating system grants: names are names, the working directory is one, and
the home directories can be named. -/
structure Host.Sound (host : Host) : Prop where
  wellNamed : host.files.WellNamed
  cwd : ∃ members, host.files.get? host.cwd = some (.directory members)
  home : host.home.isNameable = true
  accounts : ∀ account ∈ host.accounts, account.2.isNameable = true

end NamespaceScan

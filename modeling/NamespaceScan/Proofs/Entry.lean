import NamespaceScan.Files.Entry

/-!
# Entries after a change

What stands at a location after an entry was put or removed somewhere. Names that do
not lead through the changed place lead where they led before. A directory on the way to
the place has other members afterwards and is still a directory, so entries are compared
by their outlines: all of a file or a link, and of a directory only that it is one.
-/

namespace NamespaceScan

namespace Members

@[simp]
theorem get?_put_self (members : Members) (name : Text) (entry : Entry) :
    get? (put name entry members) name = some entry := by
  induction members with
  | nil => simp [put, get?]
  | cons member rest ih =>
      by_cases same : member.1 = name
      · simp [put, get?, same]
      · simpa [put, get?, same] using ih

theorem get?_put_of_ne {members : Members} {name other : Text} {entry : Entry}
    (differ : other ≠ name) : get? (put name entry members) other = get? members other := by
  induction members with
  | nil => simp [put, get?, differ.symm]
  | cons member rest ih =>
      by_cases same : member.1 = name
      · simp [put, get?, same, differ.symm]
      · by_cases found : member.1 = other
        · rw [put, if_neg same]
          simp [get?, found]
        · simpa [put, get?, same, found] using ih

@[simp]
theorem get?_erase_self (members : Members) (name : Text) :
    get? (erase members name) name = none := by
  simp [get?, erase]

theorem get?_erase_of_ne {members : Members} {name other : Text} (differ : other ≠ name) :
    get? (erase members name) other = get? members other := by
  induction members with
  | nil => rfl
  | cons member rest ih =>
      by_cases found : member.1 = other
      · simp [get?, erase, found, differ]
      · by_cases removed : member.1 = name
        · simpa [get?, erase, found, removed, differ.symm] using ih
        · simpa [get?, erase, found, removed] using ih

end Members

namespace Entry

/-- What an entry is when the members of a directory do not matter. -/
def outline : Entry → Entry
  | .directory _ => .directory []
  | entry => entry

theorem isDirectory_iff {entry : Entry} :
    entry.isDirectory = true ↔ ∃ members, entry = .directory members := by
  cases entry <;> simp [isDirectory]

theorem outline_of_not_isDirectory {entry : Entry} (other : entry.isDirectory = false) :
    entry.outline = entry := by
  cases entry <;> simp_all [outline, isDirectory]

@[simp]
theorem isDirectory_outline (entry : Entry) : entry.outline.isDirectory = entry.isDirectory := by
  cases entry <;> rfl

@[simp]
theorem descend_nil (entry : Entry) : entry.descend [] = some entry := by
  cases entry <;> rfl

theorem descend_directory_cons (members : Members) (name : Text) (rest : Location) :
    (Entry.directory members).descend (name :: rest) =
      (Members.get? members name).bind (·.descend rest) :=
  rfl

theorem descend_cons_of_not_isDirectory {entry : Entry} (other : entry.isDirectory = false)
    (name : Text) (rest : Location) : entry.descend (name :: rest) = none := by
  cases entry <;> simp_all [descend, isDirectory]

/-- Names lead further only from a directory. -/
theorem exists_members_of_descend {entry last : Entry} {names : Location} (further : names ≠ [])
    (leads : entry.descend names = some last) : ∃ members, entry = .directory members := by
  obtain ⟨name, rest, rfl⟩ := List.exists_cons_of_ne_nil further
  apply isDirectory_iff.mp
  cases isDirectory : entry.isDirectory with
  | true => rfl
  | false => cases (descend_cons_of_not_isDirectory isDirectory name rest).symm.trans leads

/-- Nothing stands below an entry that is its own outline. -/
theorem descend_cons_of_outline_eq {entry : Entry} (bare : entry.outline = entry) (name : Text)
    (rest : Location) : entry.descend (name :: rest) = none := by
  cases entry with
  | directory members =>
      cases bare
      rfl
  | file octets => rfl
  | link target => rfl

/-- Directories lead to the same everywhere but at one name, if they have the same at all other
names and nothing stands below that name in either of them. -/
theorem descend_directory_congr {old new : Members} {name : Text}
    (others : ∀ other, other ≠ name → Members.get? new other = Members.get? old other)
    (bareOld : ∀ entry, Members.get? old name = some entry → entry.isDirectory = false)
    (bareNew : ∀ entry, Members.get? new name = some entry → entry.outline = entry)
    {first : Text} {rest : Location} (apart : first :: rest ≠ [name]) :
    (Entry.directory new).descend (first :: rest) =
      (Entry.directory old).descend (first :: rest) := by
  rw [descend_directory_cons, descend_directory_cons]
  by_cases same : first = name
  · subst same
    cases rest with
    | nil => exact absurd rfl apart
    | cons second rest =>
        have nothingOld :
            (Members.get? old first).bind (·.descend (second :: rest)) = none := by
          rw [Option.bind_eq_none_iff]
          intro entry stands
          exact descend_cons_of_not_isDirectory (bareOld entry stands) second rest
        have nothingNew :
            (Members.get? new first).bind (·.descend (second :: rest)) = none := by
          rw [Option.bind_eq_none_iff]
          intro entry stands
          exact descend_cons_of_outline_eq (bareNew entry stands) second rest
        rw [nothingOld, nothingNew]
  · rw [others first same]

theorem descend_append (entry : Entry) (front back : Location) :
    entry.descend (front ++ back) = (entry.descend front).bind (·.descend back) := by
  induction front generalizing entry with
  | nil => simp
  | cons name rest ih =>
      cases entry with
      | directory members =>
          rw [List.cons_append, descend_directory_cons, descend_directory_cons, Option.bind_assoc]
          exact Option.bind_congr fun entry _ => ih entry
      | file octets => rfl
      | link target => rfl

variable {f : Members → Members}

@[simp]
theorem outline_change (f : Members → Members) (entry : Entry) (l : Location) :
    (entry.change f l).outline = entry.outline := by
  cases entry with
  | directory members =>
      cases l with
      | nil => rfl
      | cons name rest =>
          simp only [change]
          cases Members.get? members name <;> rfl
  | file octets => cases l <;> rfl
  | link target => cases l <;> rfl

/-- The names through the changed directory lead on from its new members. -/
theorem descend_change_append (f : Members → Members) (entry : Entry) (l rest : Location) :
    (entry.change f l).descend (l ++ rest) =
      (entry.descend l).bind fun found => (found.change f []).descend rest := by
  induction l generalizing entry with
  | nil => simp
  | cons name l ih =>
      cases entry with
      | directory members =>
          simp only [change, List.cons_append, descend_directory_cons]
          cases found : Members.get? members name with
          | none => simp [descend_directory_cons, found]
          | some entry => simpa [descend_directory_cons] using ih entry
      | file octets => rfl
      | link target => rfl

/-- Other names lead to what they led to, apart from the members of directories. -/
theorem outline_descend_change {entry : Entry} {l other : Location} (apart : ¬ l <+: other) :
    ((entry.change f l).descend other).map outline = (entry.descend other).map outline := by
  induction other generalizing entry l with
  | nil => simp
  | cons name rest ih =>
      cases l with
      | nil => exact absurd List.nil_prefix apart
      | cons first l =>
          cases entry with
          | directory members =>
              simp only [change]
              cases found : Members.get? members first with
              | none => rfl
              | some entry =>
                  by_cases same : name = first
                  · subst same
                    have below : ¬ l <+: rest := fun isPrefix =>
                      apart (List.cons_prefix_cons.mpr ⟨rfl, isPrefix⟩)
                    simpa [descend_directory_cons, found] using ih below
                  · simp only [descend_directory_cons, Members.get?_put_of_ne same]
          | file octets => rfl
          | link target => rfl

end Entry

namespace FileSystem

/-- What stands at a location when the members of a directory do not matter. -/
def outline (fs : FileSystem) (l : Location) : Option Entry := (fs.get? l).map Entry.outline

variable {fs : FileSystem} {l directory : Location} {name : Text} {entry : Entry}

theorem get?_append (fs : FileSystem) (front back : Location) :
    fs.get? (front ++ back) = (fs.get? front).bind (·.descend back) :=
  Entry.descend_append fs.root front back

theorem get?_concat_of_directory {members : Members}
    (found : fs.get? directory = some (.directory members)) (name : Text) :
    fs.get? (directory ++ [name]) = Members.get? members name := by
  rw [get?_append, found]
  simp [Entry.descend_directory_cons]

/-- What stands above an entry is a directory. -/
theorem get?_of_get?_append_cons {rest : Location}
    (found : fs.get? (directory ++ name :: rest) = some entry) :
    ∃ members, fs.get? directory = some (.directory members) := by
  rw [get?_append] at found
  obtain ⟨above, stands, leads⟩ := Option.bind_eq_some_iff.mp found
  obtain ⟨members, rfl⟩ := Entry.exists_members_of_descend (List.cons_ne_nil name rest) leads
  exact ⟨members, stands⟩

theorem outline_eq_some_iff (other : entry.isDirectory = false) :
    fs.outline l = some entry ↔ fs.get? l = some entry := by
  constructor
  · intro seen
    obtain ⟨found, stands, rfl⟩ := Option.map_eq_some_iff.mp seen
    rw [Entry.isDirectory_outline] at other
    rw [stands, Entry.outline_of_not_isDirectory other]
  · intro stands
    rw [outline, stands, Option.map_some, Entry.outline_of_not_isDirectory other]

theorem outline_eq_directory_iff :
    fs.outline l = some (.directory []) ↔ ∃ members, fs.get? l = some (.directory members) := by
  constructor
  · intro seen
    obtain ⟨found, stands, drawn⟩ := Option.map_eq_some_iff.mp seen
    cases found with
    | directory members => exact ⟨members, stands⟩
    | file octets => cases drawn
    | link target => cases drawn
  · rintro ⟨members, stands⟩
    rw [outline, stands]
    rfl

/-- Where two file systems have the same outline they have the same, directories apart. -/
theorem get?_eq_some_iff_of_outline {other : FileSystem} (same : other.outline l = fs.outline l)
    (notDirectory : entry.isDirectory = false) :
    other.get? l = some entry ↔ fs.get? l = some entry := by
  rw [← outline_eq_some_iff notDirectory, ← outline_eq_some_iff notDirectory, same]

theorem root_ofRoot {entry : Entry} (isDirectory : entry.isDirectory = true) :
    (ofRoot entry).root = entry := by
  obtain ⟨members, rfl⟩ := Entry.isDirectory_iff.mp isDirectory
  rfl

/-- The file system with a changed directory has the changed tree. -/
theorem root_ofRoot_change (fs : FileSystem) (f : Members → Members) (l : Location) :
    (ofRoot (fs.root.change f l)).root = fs.root.change f l := by
  apply root_ofRoot
  rw [← Entry.isDirectory_outline, Entry.outline_change]
  rfl

/-- After a change to the members of a directory, each location has the outline that it
had, provided that the change keeps all that stands below the directory at other names
than the given one, and that nothing stands below that name before or after it. -/
theorem outline_ofRoot_change {f : Members → Members}
    (others : ∀ members other, other ≠ name →
      Members.get? (f members) other = Members.get? members other)
    (bareAfter : ∀ members entry,
      Members.get? (f members) name = some entry → entry.outline = entry)
    (bareBefore : ¬ (fs.get? (directory ++ [name])).any Entry.isDirectory)
    (apart : l ≠ directory ++ [name]) :
    (ofRoot (fs.root.change f directory)).outline l = fs.outline l := by
  rw [outline, outline, get?, get?, root_ofRoot_change]
  by_cases inside : directory <+: l
  · obtain ⟨rest, rfl⟩ := inside
    rw [Entry.descend_change_append, Entry.descend_append]
    cases found : fs.root.descend directory with
    | none => rfl
    | some above =>
        cases above with
        | file octets => rfl
        | link target => rfl
        | directory members =>
            cases rest with
            | nil => rfl
            | cons first rest =>
                rw [Option.bind_some, Option.bind_some, Entry.change,
                  Entry.descend_directory_congr (others members) ?_ (bareAfter members) ?_]
                · intro entry stands
                  rw [get?_concat_of_directory found, stands] at bareBefore
                  simpa using bareBefore
                · exact fun same => apart (congrArg (directory ++ ·) same)
  · exact Entry.outline_descend_change inside

/-- Putting an entry without members at a name where no directory stands changes no other
location. -/
theorem outline_put_of_ne (bare : entry.outline = entry)
    (free : ¬ (fs.get? (directory ++ [name])).any Entry.isDirectory)
    (apart : l ≠ directory ++ [name]) : (fs.put directory name entry).outline l = fs.outline l := by
  refine outline_ofRoot_change (fun members other differ => Members.get?_put_of_ne differ) ?_ free
    apart
  intro members found stands
  rw [Members.get?_put_self] at stands
  exact Option.some.inj stands ▸ bare

/-- Removing an entry that is no directory changes no other location. -/
theorem outline_erase_of_ne (free : ¬ (fs.get? (directory ++ [name])).any Entry.isDirectory)
    (apart : l ≠ directory ++ [name]) : (fs.erase directory name).outline l = fs.outline l := by
  refine outline_ofRoot_change (fun members other differ => Members.get?_erase_of_ne differ) ?_ free
    apart
  intro members found stands
  rw [Members.get?_erase_self] at stands
  cases stands

theorem get?_put_self {members : Members} (found : fs.get? directory = some (.directory members)) :
    (fs.put directory name entry).get? (directory ++ [name]) = some entry := by
  rw [get?, put, root_ofRoot_change, Entry.descend_change_append]
  have above : fs.root.descend directory = some (.directory members) := found
  simp [above, Entry.change, Entry.descend_directory_cons]

theorem get?_erase_self {members : Members}
    (found : fs.get? directory = some (.directory members)) :
    (fs.erase directory name).get? (directory ++ [name]) = none := by
  rw [get?, erase, root_ofRoot_change, Entry.descend_change_append]
  have above : fs.root.descend directory = some (.directory members) := found
  simp [above, Entry.change, Entry.descend_directory_cons]

end FileSystem

end NamespaceScan

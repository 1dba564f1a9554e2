import NamespaceScan.Files.Writing
import NamespaceScan.Proofs.Lookup

/-!
# What a writing leaves behind

A writing makes the directories above its target, creates a temporary file and gives it the
name of the target. Making directories keeps all that there is, and adds only directories to
which a path above the target leads. So a writing that fails keeps every entry, and one that
succeeds changes the entry of the target and no other.
-/

namespace NamespaceScan

namespace FileSystem

variable {fs : FileSystem} {directory : Location} {name : Text} {entry : Entry}

/-- An entry without members can be put where nothing stands. -/
theorem keeps_put (bare : entry.outline = entry) (free : fs.get? (directory ++ [name]) = none) :
    fs.Keeps (fs.put directory name entry) := by
  intro l found stands
  by_cases same : l = directory ++ [name]
  · subst same
    rw [outline, free] at stands
    cases stands
  · rw [outline_put_of_ne bare (by simp [free]) same]
    exact stands

/-- Whatever stands elsewhere after an entry was put stood there before. -/
theorem get?_of_get?_put {found : Entry} {l : Location} (bare : entry.outline = entry)
    (free : fs.get? (directory ++ [name]) = none) (apart : l ≠ directory ++ [name])
    (stands : (fs.put directory name entry).get? l = some found) :
    ∃ before, fs.get? l = some before := by
  have drawn : (fs.put directory name entry).outline l = fs.outline l :=
    outline_put_of_ne bare (by simp [free]) apart
  rw [outline, stands, Option.map_some] at drawn
  obtain ⟨before, stood, -⟩ := Option.map_eq_some_iff.mp drawn.symm
  exact ⟨before, stood⟩

theorem any_isDirectory_outline (fs : FileSystem) (l : Location) :
    (fs.outline l).any Entry.isDirectory = (fs.get? l).any Entry.isDirectory := by
  rw [outline]
  cases fs.get? l with
  | none => rfl
  | some entry => exact Entry.isDirectory_outline entry

/-- A file that was put where nothing stood is no way to anywhere. -/
theorem keepsWays_of_put {members : Members} {octets : ByteArray}
    (above : fs.get? directory = some (.directory members))
    (free : fs.get? (directory ++ [name]) = none) :
    (fs.put directory name (.file octets)).KeepsWays fs := by
  have same : ∀ l entry, entry.isFile = false →
      (fs.put directory name (.file octets)).outline l = some entry →
        fs.outline l = some entry := by
    intro l entry notFile drawn
    rw [← drawn, outline_put_of_ne rfl (by simp [free])]
    rintro rfl
    rw [outline, get?_put_self above] at drawn
    cases drawn
    cases notFile
  refine ⟨?_, ?_⟩
  · intro l members stands
    exact outline_eq_directory_iff.mp
      (same l _ rfl (outline_eq_directory_iff.mpr ⟨members, stands⟩))
  · intro place name target spot stands _ _
    exact (outline_eq_some_iff rfl).mp (same _ _ rfl ((outline_eq_some_iff rfl).mpr stands))

/-- An entry can be replaced by a file when no names lead through it to a directory. -/
theorem keepsWays_of_replaced {other : FileSystem}
    (others : ∀ l, l ≠ directory ++ [name] → other.outline l = fs.outline l)
    (notDirectory : (fs.get? (directory ++ [name])).any Entry.isDirectory = false)
    (noWay : ∀ spot, fs.Leads Host.linkLimit directory [name] spot →
      spot.entry.isDirectory = false) : fs.KeepsWays other := by
  refine ⟨?_, ?_⟩
  · intro l members stands
    have apart : l ≠ directory ++ [name] := by
      rintro rfl
      rw [stands] at notDirectory
      cases notDirectory
    refine outline_eq_directory_iff.mp ?_
    rw [others l apart]
    exact outline_eq_directory_iff.mpr ⟨members, stands⟩
  · intro place first target spot stands leads isDirectory
    have apart : place ++ [first] ≠ directory ++ [name] := by
      intro same
      obtain ⟨rfl, sameName⟩ := List.append_inj' same rfl
      cases sameName
      rw [noWay spot leads] at isDirectory
      cases isDirectory
    refine (outline_eq_some_iff rfl).mp ?_
    rw [others _ apart]
    exact (outline_eq_some_iff rfl).mpr stands

/-- Removing what was put where nothing stood restores all outlines. -/
theorem outline_erase_put {members : Members}
    (above : fs.get? directory = some (.directory members))
    (free : fs.get? (directory ++ [name]) = none) (notDirectory : entry.isDirectory = false)
    (l : Location) :
    ((fs.put directory name entry).erase directory name).outline l = fs.outline l := by
  have bare := Entry.outline_of_not_isDirectory notDirectory
  by_cases same : l = directory ++ [name]
  · subst same
    obtain ⟨others, stillAbove⟩ := (keeps_put bare free).keepsWays.directory _ _ above
    rw [outline, outline, get?_erase_self stillAbove, free]
  · have put : (fs.put directory name entry).get? (directory ++ [name]) = some entry :=
      get?_put_self above
    rw [outline_erase_of_ne (by simp [put, notDirectory]) same,
      outline_put_of_ne bare (by simp [free]) same]

end FileSystem

namespace Path

variable {p : Path}

theorem names_eq_concat (named : p.name ≠ []) : p.names = p.parent.names ++ [p.name] := by
  unfold name at named ⊢
  cases last : p.names.getLast? with
  | none =>
      rw [last] at named
      exact absurd rfl named
  | some name =>
      obtain ⟨front, concat⟩ := List.getLast?_eq_some_iff.mp last
      simp [parent, concat]

/-- A path without a name is its own parent. -/
theorem parent_of_unnamed (spelled : p.Spelled) (unnamed : p.name = []) : p.parent = p := by
  have void : p.names = [] := by
    cases last : p.names.getLast? with
    | none => exact List.getLast?_eq_none_iff.mp last
    | some name =>
        rw [Path.name, last] at unnamed
        exact absurd unnamed (spelled name (List.mem_of_getLast? last)).1
  exact congrArg (Path.mk p.anchor) ((congrArg List.dropLast void).trans void.symm)

/-- The path leads to a directory above the target. -/
def IsAbove (p target : Path) : Prop :=
  p.anchor = target.anchor ∧ p.names <+: target.parent.names

theorem IsAbove.spelled {target : Path} (above : p.IsAbove target) (spelled : target.Spelled) :
    p.Spelled :=
  fun name member => spelled_parent spelled name (above.2.subset member)

end Path

namespace Host

variable {host : Host} {p target : Path} {old new : FileSystem}

@[simp]
theorem files_withFiles (host : Host) (fs : FileSystem) : (host.withFiles fs).files = fs :=
  rfl

/-! ## Looking again -/

/-- What a text leads to is still there when everything is kept. -/
theorem find_of_keeps {t : Text} {spot : Spot} (kept : old.Keeps new)
    (found : (host.withFiles old).find t = .ok spot) :
    ∃ now, (host.withFiles new).find t = .ok ⟨spot.location, now⟩ ∧
      now.outline = spot.entry.outline := by
  obtain ⟨some, nameable, short, leads⟩ := find_eq_ok_iff.mp found
  obtain ⟨now, leads, drawn⟩ := leads.keeps kept
  exact ⟨now, find_eq_ok_iff.mpr ⟨some, nameable, short, leads⟩, drawn⟩

/-- A directory that a text leads to may have other members then. -/
theorem find_directory_of_keeps {t : Text} {l : Location} {members : Members}
    (kept : old.Keeps new) (found : (host.withFiles old).find t = .ok ⟨l, .directory members⟩) :
    ∃ others, (host.withFiles new).find t = .ok ⟨l, .directory others⟩ := by
  obtain ⟨now, found, drawn⟩ := find_of_keeps kept found
  cases now with
  | directory others => exact ⟨others, found⟩
  | file octets => cases drawn
  | link target => cases drawn

theorem parentSpot_eq_ok_iff {directory : Location} :
    host.parentSpot p = .ok directory ↔
      ∃ members, host.find p.parent.toText = .ok ⟨directory, .directory members⟩ := by
  unfold parentSpot
  split
  · rename_i obstacle missing
    simp [missing]
  · rename_i spot found
    obtain ⟨l, entry⟩ := spot
    cases entry with
    | directory members => simp [found, Entry.isDirectory]
    | file octets => simp [found, Entry.isDirectory]
    | link target => simp [found, Entry.isDirectory]

/-- The directory above a target stays where it is when the ways are kept. -/
theorem parentSpot_of_keepsWays {directory : Location} (kept : old.KeepsWays new)
    (above : (host.withFiles old).parentSpot p = .ok directory) :
    (host.withFiles new).parentSpot p = .ok directory := by
  obtain ⟨members, found⟩ := parentSpot_eq_ok_iff.mp above
  obtain ⟨some, nameable, short, leads⟩ := find_eq_ok_iff.mp found
  obtain ⟨others, leads⟩ := leads.keepsWays kept (Nat.le_refl _) rfl
  exact parentSpot_eq_ok_iff.mpr ⟨others, find_eq_ok_iff.mpr ⟨some, nameable, short, leads⟩⟩

theorem directory_of_parentSpot {directory : Location}
    (above : host.parentSpot p = .ok directory) :
    ∃ members, host.files.get? directory = some (.directory members) := by
  obtain ⟨members, found⟩ := parentSpot_eq_ok_iff.mp above
  exact ⟨members, stands_of_find found⟩

/-- A name that a directory can have of its own ends the path, and is ordinary. -/
theorem names_of_isOwnName (spelled : p.Spelled) (own : isOwnName p.name = true) :
    p.names = p.parent.names ++ [p.name] ∧ IsOrdinary p.name := by
  simp only [isOwnName, ne_eq, Bool.and_eq_true, decide_eq_true_eq] at own
  have names := Path.names_eq_concat own.1
  obtain ⟨-, notHere, -⟩ := spelled p.name (names ▸ List.mem_append_right _ List.mem_cons_self)
  exact ⟨names, not_or.mpr ⟨own.1, notHere⟩, own.2⟩

/-- A path leads to what stands under its last name in the directory above. -/
theorem find_of_parentSpot {directory : Location} {entry : Entry} (spelled : p.Spelled)
    (nameable : Nameable p.names) (own : isOwnName p.name = true)
    (shortPath : isLongPath p.toText = false)
    (shortName : isLongName p.name = false) (above : host.parentSpot p = .ok directory)
    (stands : host.files.get? (directory ++ [p.name]) = some entry)
    (plain : entry.isLink = false) :
    host.find p.toText = .ok ⟨directory ++ [p.name], entry⟩ := by
  obtain ⟨members, found⟩ := parentSpot_eq_ok_iff.mp above
  obtain ⟨-, leads⟩ := leads_of_find (Path.spelled_parent spelled) found
  obtain ⟨names, ordinary⟩ := names_of_isOwnName spelled own
  have onward : host.files.Leads 0 directory [p.name] ⟨directory ++ [p.name], entry⟩ :=
    FileSystem.Leads.down stands plain ordinary shortName (FileSystem.Leads.arrived stands)
  refine find_of_leads spelled nameable shortPath ?_ (Or.inl (by simp [names]))
  rw [names]
  exact leads.append onward

/-! ## Making directories -/

/-- A directory stands at the location, and a path above the target leads to it. -/
def Prepares (host : Host) (target : Path) (fs : FileSystem) (l : Location) : Prop :=
  ∃ (p : Path) (members : Members), p.IsAbove target ∧
    (host.withFiles fs).find p.toText = .ok ⟨l, .directory members⟩

theorem Prepares.of_keeps {l : Location} (prepares : host.Prepares target old l)
    (kept : old.Keeps new) : host.Prepares target new l := by
  obtain ⟨p, members, above, found⟩ := prepares
  obtain ⟨others, found⟩ := find_directory_of_keeps kept found
  exact ⟨p, others, above, found⟩

/-- The file system has everything of the old one, and what is new are directories on the
way to the target. -/
structure Extends (host : Host) (target : Path) (old new : FileSystem) : Prop where
  kept : old.Keeps new
  made : ∀ l entry, old.get? l = none → new.get? l = some entry → host.Prepares target new l

namespace Extends

theorem refl (host : Host) (target : Path) (fs : FileSystem) : host.Extends target fs fs where
  kept := FileSystem.Keeps.refl fs
  made l entry absent stands := by
    rw [absent] at stands
    cases stands

theorem trans {third : FileSystem} (first : host.Extends target old new)
    (second : host.Extends target new third) : host.Extends target old third where
  kept := first.kept.trans second.kept
  made l entry absent stands := by
    cases middle : new.get? l with
    | none => exact second.made l entry middle stands
    | some before => exact (first.made l before absent middle).of_keeps second.kept

end Extends

theorem makeDirectory_cases {files : FileSystem} (made : host.makeDirectory p = .ok files) :
    isLongPath p.toText = false ∧ isLongName p.name = false ∧ isOwnName p.name = true ∧
      ∃ directory, host.parentSpot p = .ok directory ∧
        host.files.get? (directory ++ [p.name]) = none ∧
        files = host.files.put directory p.name (.directory []) := by
  unfold makeDirectory at made
  split at made
  · cases made
  · rename_i shortPath
    split at made
    · cases made
    · rename_i directory above
      split at made
      · cases made
      · rename_i shortName
        split at made
        · rename_i free
          cases made
          obtain ⟨own, absent⟩ := Bool.and_eq_true_iff.mp free
          exact ⟨by simpa using shortPath, by simpa using shortName, own, directory, above,
            Option.isNone_iff_eq_none.mp absent, rfl⟩
        · cases made

/-- One directory that is made. -/
theorem extends_of_makeDirectory {files : FileSystem} (spelled : target.Spelled)
    (nameable : Nameable target.parent.names) (isAbove : p.IsAbove target)
    (made : host.makeDirectory p = .ok files) : host.Extends target host.files files := by
  obtain ⟨shortPath, shortName, own, directory, above, free, rfl⟩ := makeDirectory_cases made
  have kept : host.files.Keeps (host.files.put directory p.name (.directory [])) :=
    FileSystem.keeps_put rfl free
  obtain ⟨members, stands⟩ := directory_of_parentSpot above
  refine ⟨kept, ?_⟩
  intro l entry absent found
  by_cases same : l = directory ++ [p.name]
  · subst same
    have stillAbove :
        (host.withFiles (host.files.put directory p.name (.directory []))).parentSpot p =
          .ok directory :=
      parentSpot_of_keepsWays kept.keepsWays above
    have pNameable : Nameable p.names := fun name member => nameable name (isAbove.2.subset member)
    exact ⟨p, [], isAbove, find_of_parentSpot (isAbove.spelled spelled) pNameable own shortPath
      shortName stillAbove (FileSystem.get?_put_self stands) rfl⟩
  · obtain ⟨before, stood⟩ := FileSystem.get?_of_get?_put rfl free same found
    rw [absent] at stood
    cases stood

section Directories

variable {trouble : Trouble}

theorem makeDirectory_of_tryDirectory {files : FileSystem}
    (made : host.tryDirectory trouble p = .ok files) : host.makeDirectory p = .ok files := by
  unfold tryDirectory at made
  split at made
  · cases made
  · cases tried : host.makeDirectory p with
    | ok others =>
        rw [tried] at made
        exact congrArg Except.ok (Except.ok.inj made)
    | error obstacle =>
        rw [tried] at made
        cases made

theorem extends_ensureDirectory (host : Host) (trouble : Trouble) (spelled : target.Spelled)
    (nameable : Nameable target.parent.names) (isAbove : p.IsAbove target) :
    host.Extends target host.files (host.ensureDirectory trouble p).files := by
  unfold ensureDirectory
  split
  · rename_i made
    exact extends_of_makeDirectory spelled nameable isAbove (makeDirectory_of_tryDirectory made)
  · split
    · exact Extends.refl host target host.files
    · exact Extends.refl host target host.files

/-- What can happen when a directory is made with those above it: it is made at once, or it is
refused although its parent is there, or it is made after those above it. -/
theorem ensureDirectories_cons_cases {anchor : Anchor} {depth : Nat} {name : Text}
    {namesUp : List Text} {attempt : Attempt}
    (ended : host.ensureDirectories trouble anchor depth (name :: namesUp) = .ok attempt) :
    (∃ files, host.tryDirectory trouble (pathUp anchor (name :: namesUp)) = .ok files ∧
        attempt = { files }) ∨
      ∃ refusal, host.tryDirectory trouble (pathUp anchor (name :: namesUp)) = .error refusal ∧
        (refusal.obstacle ≠ .notFound ∧
            attempt = host.ensureDirectory trouble (pathUp anchor (name :: namesUp)) ∨
          refusal.obstacle = .notFound ∧ ∃ fewer above, depth = fewer + 1 ∧
            host.ensureDirectories trouble anchor fewer namesUp = .ok above ∧
            (above.refusal ≠ none ∧ attempt = above ∨
              above.refusal = none ∧ attempt = (host.withFiles above.files).ensureDirectory trouble
                (pathUp anchor (name :: namesUp)))) := by
  unfold ensureDirectories at ended
  dsimp only at ended
  split at ended
  · rename_i files made
    cases ended
    exact Or.inl ⟨files, made, rfl⟩
  · rename_i refusal refused
    refine Or.inr ⟨refusal, refused, ?_⟩
    split at ended
    · rename_i known
      cases ended
      exact Or.inl ⟨known, rfl⟩
    · rename_i missing
      refine Or.inr ⟨Decidable.not_not.mp missing, ?_⟩
      split at ended
      · cases ended
      · split at ended
        · cases ended
        · rename_i fewer _ above inner
          refine ⟨fewer, above, rfl, inner, ?_⟩
          split at ended
          · rename_i some
            cases ended
            exact Or.inl ⟨Option.ne_none_iff_isSome.mpr some, rfl⟩
          · rename_i none
            cases ended
            exact Or.inr ⟨by simpa using none, rfl⟩

theorem isAbove_of_cons {name : Text} {namesUp : List Text}
    (isAbove : (pathUp target.anchor (name :: namesUp)).IsAbove target) :
    (pathUp target.anchor namesUp).IsAbove target := by
  refine ⟨rfl, List.IsPrefix.trans ?_ isAbove.2⟩
  exact ⟨[name], (List.reverse_cons).symm⟩

/-- All directories that are made above a target. -/
theorem extends_ensureDirectories (spelled : target.Spelled)
    (nameable : Nameable target.parent.names) {depth : Nat} {namesUp : List Text}
    (isAbove : (pathUp target.anchor namesUp).IsAbove target) {attempt : Attempt}
    (ended : host.ensureDirectories trouble target.anchor depth namesUp = .ok attempt) :
    host.Extends target host.files attempt.files := by
  induction namesUp generalizing depth attempt with
  | nil =>
      rw [ensureDirectories] at ended
      cases ended
      exact extends_ensureDirectory host trouble spelled nameable isAbove
  | cons name namesUp ih =>
      have higher := isAbove_of_cons isAbove
      rcases ensureDirectories_cons_cases ended with
        ⟨files, made, rfl⟩ |
        ⟨refusal, -, ⟨-, rfl⟩ | ⟨-, fewer, above, -, inner, ⟨-, rfl⟩ | ⟨-, rfl⟩⟩⟩
      · exact extends_of_makeDirectory spelled nameable isAbove (makeDirectory_of_tryDirectory made)
      · exact extends_ensureDirectory host trouble spelled nameable isAbove
      · exact ih higher inner
      · have last := extends_ensureDirectory (host.withFiles above.files) trouble spelled nameable
          isAbove
        exact (ih higher inner).trans ⟨last.kept, last.made⟩

/-! ### Refused directories -/

/-- What stands where an ordinary name leads. -/
theorem member?_of_leads {links : Nat} {l : Location} {name : Text} {spot : Spot}
    (leads : host.files.Leads links l [name] spot) (ordinary : IsOrdinary name) :
    ∃ entry, host.member? l name = some entry := by
  cases leads with
  | stay _ void _ => exact absurd void ordinary.1
  | up _ _ => exact absurd rfl ordinary.2
  | down stands _ _ _ _ => exact ⟨_, stands⟩
  | follow stands _ _ _ => exact ⟨_, stands⟩

/-- The parent of a directory that is there is found, unless its path is too long. -/
theorem parentSpot_of_leads {name : Text} {spot : Spot} (spelled : p.Spelled)
    (nameable : Nameable p.names) (names : p.names = p.parent.names ++ [name])
    (leads : host.files.Leads linkLimit (p.start host.cwd) p.names spot) :
    host.parentSpot p = .error .nameTooLong ∨
      ∃ l, host.parentSpot p = .ok l ∧ host.files.Leads linkLimit l [name] spot := by
  have parentSpelled := Path.spelled_parent spelled
  have parentNameable : Nameable p.parent.names := fun other member =>
    nameable other ((List.dropLast_sublist p.names).subset member)
  rw [names] at leads
  obtain ⟨middle, way, onward⟩ := leads.split
  obtain ⟨members, stands⟩ := onward.begins (Or.inl (List.cons_ne_nil _ _))
  have directory : middle.entry.isDirectory = true := by
    rw [Option.some.inj (way.stands.symm.trans stands)]
    rfl
  by_cases long : isLongPath p.parent.toText = true
  · left
    have usable : ¬ (p.parent.toText = [] ∨ p.parent.toText.isNameable = false) := by
      rw [Path.isNameable_toText_iff.mpr parentNameable]
      exact not_or.mpr ⟨Path.toText_ne_nil parentSpelled, nofun⟩
    rw [parentSpot, find, if_neg usable, if_pos long]
  · right
    have found : host.find p.parent.toText = .ok middle :=
      find_of_leads parentSpelled parentNameable (by simpa using long) way (Or.inr directory)
    refine ⟨middle.location, ?_, onward⟩
    rw [parentSpot, found]
    exact if_pos directory

/-- A directory cannot be made where its name leads somewhere. -/
theorem makeDirectory_of_leads {links : Nat} {l : Location} {spot : Spot} (spelled : p.Spelled)
    (short : isLongPath p.toText = false) (above : host.parentSpot p = .ok l)
    (onward : host.files.Leads links l [p.name] spot) :
    ∃ obstacle, obstacle ≠ .notFound ∧ host.makeDirectory p = .error obstacle := by
  rw [makeDirectory, if_neg (by simp [short]), above]
  dsimp only
  by_cases longName : isLongName p.name = true
  · rw [if_pos longName]
    exact ⟨.nameTooLong, nofun, rfl⟩
  · rw [if_neg longName]
    refine ⟨.alreadyThere, nofun, if_neg ?_⟩
    intro free
    obtain ⟨own, absent⟩ := Bool.and_eq_true_iff.mp free
    obtain ⟨-, ordinary⟩ := names_of_isOwnName spelled own
    obtain ⟨entry, stands⟩ := member?_of_leads onward ordinary
    rw [stands] at absent
    cases absent

/-- A directory that is there cannot be made again, and not for the lack of a parent. -/
theorem makeDirectory_of_hasDirectory (spelled : p.Spelled) (there : host.hasDirectory p = true) :
    ∃ obstacle, obstacle ≠ .notFound ∧ host.makeDirectory p = .error obstacle := by
  obtain ⟨spot, reached, isDirectory⟩ := (Option.any_eq_true _ _).mp there
  have found := at?_eq_some_iff.mp reached
  obtain ⟨short, leads⟩ := leads_of_find spelled found
  have nameable := Path.isNameable_toText_iff.mp (isNameable_of_find found)
  by_cases unnamed : p.name = []
  · have above : host.parentSpot p = .ok spot.location := by
      rw [parentSpot, Path.parent_of_unnamed spelled unnamed, found]
      exact if_pos isDirectory
    refine ⟨.alreadyThere, nofun, ?_⟩
    rw [makeDirectory, if_neg (by simp [short]), above, unnamed]
    rfl
  · rcases parentSpot_of_leads spelled nameable (Path.names_eq_concat unnamed) leads with
      long | ⟨l, above, onward⟩
    · refine ⟨.nameTooLong, nofun, ?_⟩
      rw [makeDirectory, if_neg (by simp [short]), long]
    · exact makeDirectory_of_leads spelled short above onward

theorem tryDirectory_of_untroubled (quiet : trouble (.makeDirectory p) = none) :
    host.tryDirectory trouble p = host.tryDirectory (fun _ => none) p := by
  rw [tryDirectory, tryDirectory, quiet]

/-- A refused directory does not matter when it is there. -/
theorem hasDirectory_of_ensureDirectory {refusal : Refusal} {files : FileSystem}
    (refused : trouble (.makeDirectory p) = some refusal)
    (ended : host.ensureDirectory trouble p = { files }) :
    refusal.obstacle ≠ .notFound ∧ host.hasDirectory p = true ∧ files = host.files := by
  rw [ensureDirectory, tryDirectory, refused] at ended
  dsimp only at ended
  split at ended
  · rename_i there
    cases ended
    exact ⟨there.1, there.2, rfl⟩
  · cases ended

theorem tryDirectory_of_hasDirectory (spelled : p.Spelled) (there : host.hasDirectory p = true) :
    ∃ refusal, host.tryDirectory (fun _ => none) p = .error refusal ∧
      refusal.obstacle ≠ .notFound := by
  obtain ⟨obstacle, known, refused⟩ := makeDirectory_of_hasDirectory spelled there
  refine ⟨⟨obstacle, p.toText, none⟩, ?_, known⟩
  rw [tryDirectory, refused]
  rfl

theorem ensureDirectory_untroubled (spelled : p.Spelled) {files : FileSystem}
    (ended : host.ensureDirectory trouble p = { files }) :
    host.ensureDirectory (fun _ => none) p = { files } := by
  cases troubled : trouble (.makeDirectory p) with
  | none => rwa [ensureDirectory, ← tryDirectory_of_untroubled troubled]
  | some refusal =>
      obtain ⟨-, there, rfl⟩ := hasDirectory_of_ensureDirectory troubled ended
      obtain ⟨refusal, tried, known⟩ := tryDirectory_of_hasDirectory spelled there
      rw [ensureDirectory, tried]
      exact if_pos ⟨known, there⟩

section Equations

variable {anchor : Anchor} {depth : Nat} {name : Text} {namesUp : List Text} {files : FileSystem}
  {refusal : Refusal}

theorem ensureDirectories_of_made
    (made : host.tryDirectory trouble (pathUp anchor (name :: namesUp)) = .ok files) :
    host.ensureDirectories trouble anchor depth (name :: namesUp) = .ok { files } := by
  unfold ensureDirectories
  dsimp only
  rw [made]

theorem ensureDirectories_of_known
    (refused : host.tryDirectory trouble (pathUp anchor (name :: namesUp)) = .error refusal)
    (known : refusal.obstacle ≠ .notFound) :
    host.ensureDirectories trouble anchor depth (name :: namesUp) =
      .ok (host.ensureDirectory trouble (pathUp anchor (name :: namesUp))) := by
  unfold ensureDirectories
  dsimp only
  rw [refused]
  exact if_pos known

theorem ensureDirectories_of_missing
    (refused : host.tryDirectory trouble (pathUp anchor (name :: namesUp)) = .error refusal)
    (missing : refusal.obstacle = .notFound)
    (above : host.ensureDirectories trouble anchor depth namesUp = .ok { files }) :
    host.ensureDirectories trouble anchor (depth + 1) (name :: namesUp) =
      .ok ((host.withFiles files).ensureDirectory trouble (pathUp anchor (name :: namesUp))) := by
  rw [ensureDirectories.eq_def]
  dsimp only
  rw [refused]
  dsimp only
  rw [if_neg (not_not_intro missing), above]
  rfl

end Equations

/-- Where all directories are made although the host refuses some steps, they would have been made
without a refusal. -/
theorem ensureDirectories_untroubled (spelled : target.Spelled) {depth : Nat} {namesUp : List Text}
    (isAbove : (pathUp target.anchor namesUp).IsAbove target) {files : FileSystem}
    (ended : host.ensureDirectories trouble target.anchor depth namesUp = .ok { files }) :
    host.ensureDirectories (fun _ => none) target.anchor depth namesUp = .ok { files } := by
  have pSpelled := isAbove.spelled spelled
  induction namesUp generalizing depth files with
  | nil =>
      rw [ensureDirectories, Except.ok.injEq] at ended ⊢
      exact ensureDirectory_untroubled pSpelled ended
  | cons name namesUp ih =>
      have higher := isAbove_of_cons isAbove
      cases troubled : trouble (.makeDirectory (pathUp target.anchor (name :: namesUp))) with
      | none =>
          have same : host.tryDirectory trouble (pathUp target.anchor (name :: namesUp)) = _ :=
            tryDirectory_of_untroubled troubled
          rcases ensureDirectories_cons_cases ended with
            ⟨files, made, ⟨⟩⟩ |
            ⟨refusal, refused, ⟨known, done⟩ |
              ⟨missing, fewer, above, rfl, inner, ⟨some, rfl⟩ | ⟨none, done⟩⟩⟩
          · exact ensureDirectories_of_made (same ▸ made)
          · rw [ensureDirectories_of_known (same ▸ refused) known,
              ensureDirectory_untroubled pSpelled done.symm]
          · exact absurd rfl some
          · obtain ⟨files, refusal⟩ := above
            cases none
            have inner := ih higher inner (higher.spelled spelled)
            rw [ensureDirectories_of_missing (same ▸ refused) missing inner,
              ensureDirectory_untroubled pSpelled done.symm]
      | some refusal =>
          have refused : host.tryDirectory trouble (pathUp target.anchor (name :: namesUp)) =
              .error refusal := by
            rw [tryDirectory, troubled]
          rcases ensureDirectories_cons_cases ended with
            ⟨_, made, -⟩ |
            ⟨_, tried, ⟨known, done⟩ |
              ⟨missing, fewer, above, rfl, inner, ⟨some, rfl⟩ | ⟨none, done⟩⟩⟩
          · cases refused.symm.trans made
          · obtain ⟨-, there, rfl⟩ := hasDirectory_of_ensureDirectory troubled done.symm
            obtain ⟨_, tried, known⟩ := tryDirectory_of_hasDirectory pSpelled there
            rw [ensureDirectories_of_known tried known,
              ensureDirectory_untroubled pSpelled done.symm]
          · exact absurd rfl some
          · -- The host refuses the step again when those above it are there.
            obtain ⟨known, -⟩ := hasDirectory_of_ensureDirectory troubled done.symm
            cases refused.symm.trans tried
            exact absurd missing known

end Directories

/-- The file system with the directories that are made above a target. -/
def parentsMade (host : Host) (target : Path) : FileSystem :=
  match host.ensureDirectories (fun _ => none) target.anchor host.nesting.parents
    target.names.dropLast.reverse with
  | .ok parents => parents.files
  | .error _ => host.files

theorem isAbove_pathUp_parent (target : Path) :
    (pathUp target.anchor target.names.dropLast.reverse).IsAbove target :=
  ⟨rfl, by simp [pathUp, Path.parent]⟩

theorem extends_parentsMade (host : Host) (spelled : target.Spelled)
    (nameable : Nameable target.parent.names) :
    host.Extends target host.files (host.parentsMade target) := by
  unfold parentsMade
  split
  · rename_i made
    exact extends_ensureDirectories spelled nameable (isAbove_pathUp_parent target) made
  · exact Extends.refl host target host.files

/-! ## The temporary file -/

theorem temporaryName_ne (salt name : Text) : temporaryName salt name ≠ name := by
  intro same
  have lengths := congrArg List.length same
  simp only [temporaryName, Text.concat, List.flatten_cons, List.length_append] at lengths
  have point : (("." : Text)).length = 1 := rfl
  omega

/-- Where the temporary file of a target is created, nothing stood. -/
theorem createTemporary_cases {salt : Text} {temporary : Temporary} {files : FileSystem}
    (created : host.createTemporary salt target = .ok (temporary, files)) :
    temporary.name = temporaryName salt target.name ∧ isLongName target.name = false ∧
      (∃ members, host.files.get? temporary.directory = some (.directory members)) ∧
      host.files.get? (temporary.directory ++ [temporary.name]) = none ∧
      files = host.files.put temporary.directory temporary.name (.file ByteArray.empty) := by
  unfold createTemporary at created
  dsimp only at created
  split at created
  · cases created
  · split at created
    · cases created
    · rename_i spot found
      split at created
      · cases created
      · rename_i isDirectory
        split at created
        · cases created
        · rename_i short
          split at created
          · cases created
          · rename_i free
            cases created
            obtain ⟨members, directory⟩ :=
              Entry.isDirectory_iff.mp (by simpa using isDirectory)
            have stands := stands_of_find found
            rw [directory] at stands
            refine ⟨rfl, ?_, ⟨members, stands⟩, by simpa [member?] using free, rfl⟩
            simp only [isLongName, decide_eq_false_iff_not]
            omega

theorem replaceTarget_cases {temporary : Temporary} {content : ByteArray} {files : FileSystem}
    (replaced : host.replaceTarget temporary target content = .ok files) :
    isLongPath target.toText = false ∧ isOwnName target.name = true ∧
      ∃ directory, host.parentSpot target = .ok directory ∧
        (¬ (host.files.get? (directory ++ [target.name])).any Entry.isDirectory) ∧
        files = (host.files.erase temporary.directory temporary.name).put directory target.name
          (.file content) := by
  unfold replaceTarget at replaced
  dsimp only at replaced
  split at replaced
  · cases replaced
  · rename_i short
    split at replaced
    · cases replaced
    · rename_i directory above
      split at replaced
      · cases replaced
      · rename_i own
        split at replaced
        · cases replaced
        · rename_i notDirectory
          cases replaced
          refine ⟨by simpa using short, by simpa using own, directory, above, ?_, rfl⟩
          cases stands : host.files.get? (directory ++ [target.name]) with
          | none => simp
          | some entry =>
              cases entry with
              | directory members => exact absurd stands (notDirectory members)
              | file octets => simp [Entry.isDirectory]
              | link text => simp [Entry.isDirectory]

/-! ## The whole writing -/

/-- The file system after a writing that failed: everything is as it was, and what is new are
directories on the way to the target, or the temporary file without content. -/
structure Spares (host : Host) (salt : Text) (target : Path) (final : FileSystem) : Prop where
  kept : host.files.Keeps final
  added : ∀ l entry, host.files.get? l = none → final.get? l = some entry →
    host.Prepares target final l ∨
      l.getLast? = some (temporaryName salt target.name) ∧ entry = .file ByteArray.empty

/-- The file system after a writing that succeeded: the octets are the content of the file
with the name of the target in the directory above it, and everything else is as it was once
the directories on the way to the target were there. The path leads to the file, unless it
used to lead to a directory through a link that the file replaces. -/
structure Delivers (host : Host) (target : Path) (octets : ByteArray) (parents : FileSystem)
    (directory : Location) (final : FileSystem) : Prop where
  prepared : host.Extends target host.files parents
  above : (host.withFiles parents).parentSpot target = .ok directory
  written : final.get? (directory ++ [target.name]) = some (.file octets)
  others : ∀ l, l ≠ directory ++ [target.name] → final.outline l = parents.outline l
  found : (∀ spot, parents.Leads linkLimit directory [target.name] spot →
      spot.entry.isDirectory = false) →
    (host.withFiles final).find target.toText = .ok ⟨directory ++ [target.name], .file octets⟩

theorem Extends.of_outline_eq {third : FileSystem} (extended : host.Extends target old new)
    (same : ∀ l, third.outline l = new.outline l) : host.Extends target old third := by
  have kept : new.Keeps third := fun l entry stands => (same l).trans stands
  refine ⟨extended.kept.trans kept, ?_⟩
  intro l entry absent stands
  have shrinks : third.Keeps new := fun l entry stands => (same l).symm.trans stands
  obtain ⟨before, stood, -⟩ := shrinks.get? stands
  exact (extended.made l before absent stood).of_keeps kept

theorem Extends.spares {salt : Text} (extended : host.Extends target host.files new) :
    host.Spares salt target new where
  kept := extended.kept
  added l entry absent stands := Or.inl (extended.made l entry absent stands)

/-- The empty temporary file beside the target. -/
theorem Extends.spares_put {salt : Text} {directory : Location} {members : Members}
    (extended : host.Extends target host.files new)
    (above : new.get? directory = some (.directory members))
    (free : new.get? (directory ++ [temporaryName salt target.name]) = none) :
    host.Spares salt target
      (new.put directory (temporaryName salt target.name) (.file ByteArray.empty)) := by
  have kept : new.Keeps
      (new.put directory (temporaryName salt target.name) (.file ByteArray.empty)) :=
    FileSystem.keeps_put rfl free
  refine ⟨extended.kept.trans kept, ?_⟩
  intro l entry absent stands
  by_cases same : l = directory ++ [temporaryName salt target.name]
  · subst same
    rw [FileSystem.get?_put_self above] at stands
    exact Or.inr ⟨List.getLast?_concat, (Option.some.inj stands).symm⟩
  · obtain ⟨before, stood⟩ := FileSystem.get?_of_get?_put rfl free same stands
    exact Or.inl ((extended.made l before absent stood).of_keeps kept)

/-- The file takes the place of the target in a file system that looks like the one with the
directories on the way. -/
theorem Extends.delivers_put {octets : ByteArray} {directory : Location}
    {parents cleared : FileSystem} (prepared : host.Extends target host.files parents)
    (same : ∀ l, cleared.outline l = parents.outline l) (spelled : target.Spelled)
    (nameable : Nameable target.names) (own : isOwnName target.name = true)
    (shortPath : isLongPath target.toText = false)
    (shortName : isLongName target.name = false)
    (above : (host.withFiles parents).parentSpot target = .ok directory)
    (notDirectory : (parents.get? (directory ++ [target.name])).any Entry.isDirectory = false) :
    host.Delivers target octets parents directory
      (cleared.put directory target.name (.file octets)) := by
  obtain ⟨members, stands⟩ := directory_of_parentSpot above
  obtain ⟨now, clearedStands⟩ := FileSystem.outline_eq_directory_iff.mp
    ((same directory).trans (FileSystem.outline_eq_directory_iff.mpr ⟨members, stands⟩))
  have written : (cleared.put directory target.name (.file octets)).get?
      (directory ++ [target.name]) = some (.file octets) :=
    FileSystem.get?_put_self clearedStands
  have free : (cleared.get? (directory ++ [target.name])).any Entry.isDirectory = false := by
    rw [← FileSystem.any_isDirectory_outline, same, FileSystem.any_isDirectory_outline,
      notDirectory]
  have others : ∀ l, l ≠ directory ++ [target.name] →
      (cleared.put directory target.name (.file octets)).outline l = parents.outline l := by
    intro l apart
    rw [FileSystem.outline_put_of_ne rfl (by simp [free]) apart, same]
  refine ⟨prepared, above, written, others, ?_⟩
  intro noWay
  have kept := FileSystem.keepsWays_of_replaced others notDirectory noWay
  exact find_of_parentSpot spelled nameable own shortPath shortName
    (parentSpot_of_keepsWays kept above) written rfl

/-- The temporary file takes the place of the target. -/
theorem delivers_of_replaceTarget {salt : Text} {temporary : Temporary} {octets : ByteArray}
    {parents files final : FileSystem} (spelled : target.Spelled) (nameable : Nameable target.names)
    (prepared : host.Extends target host.files parents)
    (created : (host.withFiles parents).createTemporary salt target = .ok (temporary, files))
    (replaced : (host.withFiles files).replaceTarget temporary target octets = .ok final) :
    ∃ directory, host.Delivers target octets parents directory final := by
  obtain ⟨named, shortName, ⟨members, stands⟩, free, rfl⟩ := createTemporary_cases created
  obtain ⟨shortPath, own, directory, above, notDirectory, rfl⟩ := replaceTarget_cases replaced
  simp only [files_withFiles] at stands free notDirectory
  have apart : directory ++ [target.name] ≠ temporary.directory ++ [temporary.name] := by
    intro equal
    obtain ⟨-, sameName⟩ := List.append_inj' equal rfl
    exact temporaryName_ne salt target.name (named ▸ (List.cons.inj sameName).1.symm)
  rw [Bool.not_eq_true, ← FileSystem.any_isDirectory_outline,
    FileSystem.outline_put_of_ne rfl (by simp [free]) apart,
    FileSystem.any_isDirectory_outline] at notDirectory
  exact ⟨directory, prepared.delivers_put (FileSystem.outline_erase_put stands free rfl) spelled
    nameable own shortPath shortName
    (parentSpot_of_keepsWays (FileSystem.keepsWays_of_put stands free) above) notDirectory⟩

/-- Nothing but directories is new when the temporary file was removed. -/
theorem Extends.erase_temporary {salt : Text} {temporary : Temporary}
    {parents files : FileSystem} (prepared : host.Extends target host.files parents)
    (created : (host.withFiles parents).createTemporary salt target = .ok (temporary, files)) :
    host.Extends target host.files (files.erase temporary.directory temporary.name) := by
  obtain ⟨-, -, ⟨members, stands⟩, free, placed⟩ := createTemporary_cases created
  rw [files_withFiles] at stands free placed
  exact prepared.of_outline_eq (placed ▸ FileSystem.outline_erase_put stands free rfl)

/-- Once the temporary file is there, it either takes the place of the target or is removed
again. -/
theorem writeBeside_cases {trouble : Trouble} {salt : Text} {temporary : Temporary}
    {octets : ByteArray} {parents files : FileSystem} (spelled : target.Spelled)
    (nameable : Nameable target.names) (prepared : host.Extends target host.files parents)
    (created : (host.withFiles parents).createTemporary salt target = .ok (temporary, files)) :
    (∃ problem,
        ((host.withFiles files).writeBeside trouble temporary target octets).outcome =
            .error problem ∧
          host.Spares salt target
            ((host.withFiles files).writeBeside trouble temporary target octets).files) ∨
      ((host.withFiles files).writeBeside trouble temporary target octets).outcome = .ok () ∧
        ∃ directory, host.Delivers target octets parents directory
          ((host.withFiles files).writeBeside trouble temporary target octets).files := by
  have cleared := prepared.erase_temporary created
  unfold writeBeside
  dsimp only
  split
  · exact Or.inl ⟨_, rfl, cleared.spares⟩
  · split
    · exact Or.inl ⟨_, rfl, cleared.spares⟩
    · rename_i replaced
      exact Or.inr ⟨rfl, delivers_of_replaceTarget spelled nameable prepared created replaced⟩

/-- The writing comes as far as its temporary file. -/
structure Creates (host : Host) (trouble : Trouble) (salt : Text) (target : Path)
    (temporary : Temporary) (files : FileSystem) : Prop where
  nameable : pathFault? target.parent.toText = none
  parents : host.ensureDirectories trouble target.anchor host.nesting.parents
    target.names.dropLast.reverse = .ok { files := host.parentsMade target }
  nameableBeside : pathFault? (Location.toText (host.temporaryPath salt target)) = none
  beside : trouble .createTemporary = none
  created : (host.withFiles (host.parentsMade target)).createTemporary salt target =
    .ok (temporary, files)

theorem nameable_parent (nameable : pathFault? target.parent.toText = none) :
    Nameable target.parent.names :=
  Path.isNameable_toText_iff.mp (pathFault?_eq_none_iff.mp nameable)

/-- All names of a target can be named when its temporary file can be created. -/
theorem Creates.nameable_names {trouble : Trouble} {salt : Text} {temporary : Temporary}
    {files : FileSystem} (creates : host.Creates trouble salt target temporary files) :
    Nameable target.names := by
  have beside := Location.isNameable_toText_iff.mp
    (pathFault?_eq_none_iff.mp creates.nameableBeside)
  have temporaryNameable : (temporaryName salt target.name).isNameable = true :=
    beside _ (List.mem_append_right _ List.mem_cons_self)
  have inside : target.name ⊆ temporaryName salt target.name := by
    intro c member
    simp [temporaryName, Text.concat, member]
  have last := Text.isNameable_of_subset temporaryNameable inside
  intro name member
  by_cases unnamed : target.names = []
  · rw [unnamed] at member
    cases member
  · rw [← List.dropLast_concat_getLast unnamed] at member
    rcases List.mem_append.mp member with front | own
    · exact nameable_parent creates.nameable name front
    · rw [Path.name, List.getLast?_eq_some_getLast unnamed] at last
      exact List.mem_singleton.mp own ▸ last

/-- The directories that a writing makes are the same whether or not the host refuses some steps,
if all are made. -/
theorem parentsMade_of_ensureDirectories {trouble : Trouble} {files : FileSystem}
    (spelled : target.Spelled)
    (made : host.ensureDirectories trouble target.anchor host.nesting.parents
      target.names.dropLast.reverse = .ok { files }) :
    host.parentsMade target = files := by
  rw [parentsMade, ensureDirectories_untroubled spelled (isAbove_pathUp_parent target) made]

/-- A writing stops before its temporary file, with nothing new but directories, or goes on from
there. -/
theorem write_steps (host : Host) (trouble : Trouble) (salt content : Text)
    (spelled : target.Spelled) :
    ((∃ problem, (host.write trouble salt target content).outcome = .error problem) ∧
        host.Extends target host.files (host.write trouble salt target content).files ∧
        ∀ temporary files, ¬host.Creates trouble salt target temporary files) ∨
      ∃ temporary files, host.Creates trouble salt target temporary files ∧
        host.write trouble salt target content =
          match Utf8.encode content with
          | .error error => ⟨files, .error (.fault (.unencodable error))⟩
          | .ok octets => (host.withFiles files).writeBeside trouble temporary target octets := by
  unfold write
  dsimp only
  split
  · rename_i fault bad
    refine Or.inl ⟨⟨_, rfl⟩, Extends.refl host target host.files, fun _ _ creates => ?_⟩
    cases bad.symm.trans creates.nameable
  · rename_i nameable
    split
    · rename_i fault failed
      refine Or.inl ⟨⟨_, rfl⟩, Extends.refl host target host.files, fun _ _ creates => ?_⟩
      cases failed.symm.trans creates.parents
    · rename_i parents made
      have extended := extends_ensureDirectories spelled (nameable_parent nameable)
        (isAbove_pathUp_parent target) made
      split
      · rename_i refusal refused
        refine Or.inl ⟨⟨_, rfl⟩, extended, fun _ _ creates => ?_⟩
        cases made.symm.trans creates.parents
        cases refused
      · rename_i unrefused
        obtain ⟨files, refusal⟩ := parents
        cases unrefused
        cases parentsMade_of_ensureDirectories spelled made
        split
        · rename_i fault bad
          refine Or.inl ⟨⟨_, rfl⟩, extended, fun _ _ creates => ?_⟩
          cases bad.symm.trans creates.nameableBeside
        · rename_i nameableBeside
          split
          · rename_i refusal refused
            refine Or.inl ⟨⟨_, rfl⟩, extended, fun _ _ creates => ?_⟩
            cases refused.symm.trans creates.beside
          · rename_i beside
            split
            · rename_i refusal refused
              refine Or.inl ⟨⟨_, rfl⟩, extended, fun _ _ creates => ?_⟩
              cases refused.symm.trans creates.created
            · rename_i temporary files created
              exact Or.inr
                ⟨temporary, files, ⟨nameable, made, nameableBeside, beside, created⟩, rfl⟩

/-- All that a writing can come to. -/
theorem write_cases (host : Host) (trouble : Trouble) (salt : Text) (content : Text)
    (spelled : target.Spelled) :
    (∃ problem, (host.write trouble salt target content).outcome = .error problem ∧
        host.Spares salt target (host.write trouble salt target content).files) ∨
      (host.write trouble salt target content).outcome = .ok () ∧
        ∃ octets parents directory, Utf8.encode content = .ok octets ∧
          host.Delivers target octets parents directory
            (host.write trouble salt target content).files := by
  rcases write_steps host trouble salt content spelled with
    ⟨⟨problem, failed⟩, extended, -⟩ | ⟨temporary, files, creates, written⟩
  · exact Or.inl ⟨problem, failed, extended.spares⟩
  · have prepared := extends_parentsMade host spelled (nameable_parent creates.nameable)
    rw [written]
    split
    · -- A text without octets leaves the empty temporary file behind.
      obtain ⟨named, -, ⟨members, stands⟩, free, placed⟩ := createTemporary_cases creates.created
      rw [files_withFiles] at stands free placed
      refine Or.inl ⟨_, rfl, ?_⟩
      rw [placed, named]
      exact prepared.spares_put stands (named ▸ free)
    · rename_i octets encoded
      rcases writeBeside_cases spelled creates.nameable_names prepared creates.created with
        refused | ⟨done, directory, delivers⟩
      · exact Or.inl refused
      · exact Or.inr ⟨done, octets, _, directory, encoded, delivers⟩

end Host

end NamespaceScan

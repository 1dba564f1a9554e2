import NamespaceScan.Proofs.CollectedPaths
import NamespaceScan.Proofs.DistinctNames
import NamespaceScan.Proofs.Writing

/-!
# Found files

Which files are found below a directory: those with a wanted extension to which names of
directories lead that are entered. The search goes through the members as they are listed;
what it finds is said here in terms of locations, so the order of the listing does not matter.
Links to directories are never passed, and the directory itself may be hidden or excluded.

Two limits show. A directory whose path is too long cannot be listed, so what is in it is not
found. And the search fails when more directories are entered one inside of the other than calls
can be nested.
-/

namespace NamespaceScan

/-! ## Extensions -/

/-- The extension of a file name is what stands from its last dot on. There is none without a
dot, and none when nothing stands before the last dot or behind it. -/
inductive HasExtension : Text → Text → Prop where
  | inside {front back : Text} (free : dot ∉ back) (before : front ≠ []) (behind : back ≠ []) :
      HasExtension (front ++ dot :: back) (dot :: back)
  | atEnd {front back : Text} (free : dot ∉ back) (bare : front = [] ∨ back = []) :
      HasExtension (front ++ dot :: back) []
  | noDot {name : Text} (free : dot ∉ name) : HasExtension name []

/-- What is behind the last dot, read backwards. -/
theorem takeWhile_reverse_of_free {back : Text} (free : dot ∉ back) (rest : Text) :
    (back.reverse ++ rest).takeWhile (· ≠ dot) = back.reverse ++ rest.takeWhile (· ≠ dot) := by
  apply List.takeWhile_append_of_pos
  intro c member
  rw [decide_eq_true_eq]
  rintro rfl
  exact free (List.mem_reverse.mp member)

theorem extension_of_not_mem {name : Text} (free : dot ∉ name) : extension name = [] := by
  have all : name.reverse.takeWhile (· ≠ dot) = name.reverse := by
    simpa only [List.append_nil, List.takeWhile_nil] using takeWhile_reverse_of_free free []
  unfold extension
  dsimp only
  rw [all, List.length_reverse, if_neg]
  rintro ⟨-, longer⟩
  omega

theorem extension_append {front back : Text} (free : dot ∉ back) :
    extension (front ++ dot :: back) = if front ≠ [] ∧ back ≠ [] then dot :: back else [] := by
  have backwards : (front ++ dot :: back).reverse = back.reverse ++ dot :: front.reverse := by
    simp
  have tail : (front ++ dot :: back).reverse.takeWhile (· ≠ dot) = back.reverse := by
    rw [backwards, takeWhile_reverse_of_free free, List.takeWhile_cons_of_neg (by simp),
      List.append_nil]
  have sides : back.reverse ≠ [] ∧ back.reverse.length + 1 < (front ++ dot :: back).length ↔
      front ≠ [] ∧ back ≠ [] := by
    rw [List.length_append, List.length_cons, List.length_reverse, ne_eq, List.reverse_eq_nil_iff,
      ← List.length_pos_iff, and_comm]
    refine and_congr_left fun _ => ?_
    omega
  unfold extension
  dsimp only
  rw [tail]
  simp only [sides, List.reverse_reverse]

/-- A text with a dot has a last one. -/
theorem exists_last_dot {name : Text} (member : dot ∈ name) :
    ∃ front back, name = front ++ dot :: back ∧ dot ∉ back := by
  obtain ⟨tail, head, split, free⟩ := List.eq_append_cons_of_mem (List.mem_reverse.mpr member)
  refine ⟨head.reverse, tail.reverse, ?_, by simpa using free⟩
  rw [← List.reverse_reverse name, split]
  simp

theorem extension_eq_iff {name ending : Text} :
    extension name = ending ↔ HasExtension name ending := by
  constructor
  · rintro rfl
    by_cases member : dot ∈ name
    · obtain ⟨front, back, rfl, free⟩ := exists_last_dot member
      rw [extension_append free]
      split
      · rename_i sides
        exact HasExtension.inside free sides.1 sides.2
      · rename_i oneSide
        exact HasExtension.atEnd free (or_iff_not_and_not.mpr oneSide)
    · rw [extension_of_not_mem member]
      exact HasExtension.noDot member
  · intro has
    cases has with
    | inside free before behind => rw [extension_append free, if_pos ⟨before, behind⟩]
    | atEnd free bare => rw [extension_append free, if_neg (or_iff_not_and_not.mp bare)]
    | noDot free => exact extension_of_not_mem free

namespace Search

variable {s : Search}

theorem enters_iff {name : Text} :
    s.enters name = true ↔ name ∉ s.excluded ∧ name.head? ≠ some dot := by
  have hidden : name.startsWith [dot] = true ↔ name.head? = some dot := by
    cases name with
    | nil => simp [Text.startsWith]
    | cons c rest => simp [Text.startsWith, eq_comm (a := dot)]
  rw [enters, Bool.and_eq_true, Bool.not_eq_true', Bool.not_eq_true', ← Bool.not_eq_true,
    ← Bool.not_eq_true, hidden, List.contains_iff_mem]

theorem wants_iff {name : Text} :
    s.wants name = true ↔
      ∃ ending wanted, HasExtension name ending ∧ wanted ∈ s.extensions ∧
        wanted.lower = ending.lower := by
  simp only [wants, List.contains_iff_mem, List.mem_map, ← extension_eq_iff]
  constructor
  · rintro ⟨wanted, listed, same⟩
    exact ⟨_, wanted, rfl, listed, same⟩
  · rintro ⟨ending, wanted, rfl, listed, same⟩
    exact ⟨wanted, listed, same⟩

/-! ## Members -/

/-- The entry is taken where it is met: it is no directory and no link to one, and its name has a
wanted extension. -/
structure Takes (s : Search) (leads : Location → Bool) (place : Location) (name : Text)
    (entry : Entry) : Prop where
  wanted : s.wants name = true
  notDirectory : entry.isDirectory = false
  notLeading : entry.isLink = true → leads (place ++ [name]) = false

variable {leads : Location → Bool} {place file : Location} {name : Text} {entry : Entry}
  {members : Members}

theorem takes_file_iff {octets : ByteArray} :
    s.Takes leads place name (.file octets) ↔ s.wants name = true :=
  ⟨Takes.wanted, fun wanted => ⟨wanted, rfl, nofun⟩⟩

theorem takes_link_iff {target : Text} :
    s.Takes leads place name (.link target) ↔
      s.wants name = true ∧ leads (place ++ [name]) = false :=
  ⟨fun takes => ⟨takes.wanted, takes.notLeading rfl⟩,
    fun ⟨wanted, notLeading⟩ => ⟨wanted, rfl, fun _ => notLeading⟩⟩

theorem not_takes_directory : ¬ s.Takes leads place name (.directory members) :=
  fun takes => Bool.noConfusion takes.notDirectory

/-- An entry that is no directory is found when it is taken. -/
theorem mem_found_iff_of_not_directory (notDirectory : entry.isDirectory = false) :
    file ∈ s.found leads place name entry ↔
      s.Takes leads place name entry ∧ file = place ++ [name] := by
  cases entry with
  | directory members => cases notDirectory
  | file octets =>
      rw [found, takes_file_iff]
      split <;> simp_all
  | link target =>
      rw [found, takes_link_iff]
      split <;> simp_all

theorem mem_found_directory_iff :
    file ∈ s.found leads place name (.directory members) ↔
      s.enters name = true ∧ lists (place ++ [name]) = true ∧
        file ∈ s.foundAmong leads (place ++ [name]) members := by
  rw [found]
  split <;> simp_all

mutual

/-- The location of what is found at a member leads through the name of the member. -/
theorem exists_of_mem_found : {place : Location} → {name : Text} → {entry : Entry} →
    file ∈ s.found leads place name entry → ∃ rest, file = place ++ name :: rest
  | _, _, .file _, member =>
      ⟨[], ((mem_found_iff_of_not_directory rfl).mp member).2⟩
  | _, _, .link _, member =>
      ⟨[], ((mem_found_iff_of_not_directory rfl).mp member).2⟩
  | place, name, .directory _, member => by
      obtain ⟨first, rest, rfl⟩ := exists_of_mem_foundAmong (mem_found_directory_iff.mp member).2.2
      exact ⟨first :: rest, (List.append_cons place name (first :: rest)).symm⟩

theorem exists_of_mem_foundAmong : {place : Location} → {members : List (Text × Entry)} →
    file ∈ s.foundAmong leads place members → ∃ first rest, file = place ++ first :: rest
  | _, [], member => by cases member
  | _, (name, _) :: _, member => by
      rw [foundAmong] at member
      rcases List.mem_append.mp member with here | there
      · exact ⟨name, exists_of_mem_found here⟩
      · exact exists_of_mem_foundAmong there

end

theorem mem_foundAmong_iff_exists :
    file ∈ s.foundAmong leads place members ↔
      ∃ name entry, (name, entry) ∈ members ∧ file ∈ s.found leads place name entry := by
  induction members with
  | nil => simp [foundAmong]
  | cons member rest ih =>
      obtain ⟨name, entry⟩ := member
      rw [foundAmong, List.mem_append, ih]
      constructor
      · rintro (here | ⟨other, below, member, inside⟩)
        · exact ⟨name, entry, List.mem_cons_self, here⟩
        · exact ⟨other, below, List.mem_cons_of_mem _ member, inside⟩
      · rintro ⟨other, below, member, inside⟩
        rcases List.mem_cons.mp member with same | later
        · cases same
          exact Or.inl inside
        · exact Or.inr ⟨other, below, later, inside⟩

/-- What is found among members with distinct names is found at the member with the first of the
names that lead to it. -/
theorem mem_foundAmong_cons_iff (distinct : Entry.areDistinct members = true)
    {rest : Location} :
    place ++ name :: rest ∈ s.foundAmong leads place members ↔
      ∃ entry, Members.get? members name = some entry ∧
        place ++ name :: rest ∈ s.found leads place name entry := by
  rw [mem_foundAmong_iff_exists]
  constructor
  · rintro ⟨other, entry, member, inside⟩
    obtain ⟨onward, same⟩ := exists_of_mem_found inside
    cases List.append_cancel_left same
    exact ⟨entry, (Entry.get?_eq_some_iff_mem distinct).mpr member, inside⟩
  · rintro ⟨entry, stands, inside⟩
    exact ⟨name, entry, (Entry.get?_eq_some_iff_mem distinct).mp stands, inside⟩

/-- Nothing but the member itself is found at its own location. -/
theorem mem_found_concat_iff :
    place ++ [name] ∈ s.found leads place name entry ↔ s.Takes leads place name entry := by
  cases isDirectory : entry.isDirectory with
  | false => rw [mem_found_iff_of_not_directory isDirectory, and_iff_left rfl]
  | true =>
      obtain ⟨members, rfl⟩ := Entry.isDirectory_iff.mp isDirectory
      refine iff_of_false ?_ not_takes_directory
      intro member
      obtain ⟨first, rest, same⟩ :=
        exists_of_mem_foundAmong (mem_found_directory_iff.mp member).2.2
      simp at same

/-- What is found further down is found below a directory that is entered. -/
theorem mem_found_append_iff {rest : Location} (some : rest ≠ []) :
    place ++ name :: rest ∈ s.found leads place name entry ↔
      s.enters name = true ∧ lists (place ++ [name]) = true ∧
        ∃ members, entry = .directory members ∧
          place ++ [name] ++ rest ∈ s.foundAmong leads (place ++ [name]) members := by
  rw [List.append_cons]
  cases isDirectory : entry.isDirectory with
  | false =>
      rw [mem_found_iff_of_not_directory isDirectory]
      refine iff_of_false ?_ ?_
      · rintro ⟨-, same⟩
        exact some (List.append_right_eq_self.mp same)
      · rintro ⟨-, -, members, rfl, -⟩
        cases isDirectory
  | true =>
      obtain ⟨members, rfl⟩ := Entry.isDirectory_iff.mp isDirectory
      rw [mem_found_directory_iff]
      refine and_congr_right fun _ => and_congr_right fun _ => ?_
      constructor
      · intro below
        exact ⟨members, rfl, below⟩
      · rintro ⟨_, ⟨⟩, below⟩
        exact below

theorem lists_of_append {more : Location} (listed : lists (place ++ more) = true) :
    lists place = true := by
  simp only [lists, Bool.not_eq_true', ← Bool.not_eq_true] at listed ⊢
  exact fun long => listed (Location.isLongPath_append more long)

/-- What is found below a directory that can be listed: names of directories that are entered lead
to it, all of which can be listed, and then the name of an entry that is taken. -/
theorem mem_foundAmong_iff {directories : Location}
    (distinct : Entry.areDistinct members = true) (listed : lists place = true) :
    place ++ (directories ++ [name]) ∈ s.foundAmong leads place members ↔
      (∀ d ∈ directories, s.enters d = true) ∧ lists (place ++ directories) = true ∧
        ∃ entry, (Entry.directory members).descend (directories ++ [name]) = some entry ∧
          s.Takes leads (place ++ directories) name entry := by
  induction directories generalizing place members with
  | nil =>
      rw [List.nil_append, mem_foundAmong_cons_iff distinct, List.append_nil]
      simp only [mem_found_concat_iff, Entry.descend_directory_cons, Entry.descend_nil,
        Option.bind_fun_some, List.not_mem_nil, false_implies, implies_true, true_and, listed]
  | cons first rest ih =>
      rw [List.cons_append, mem_foundAmong_cons_iff distinct, List.forall_mem_cons]
      simp only [mem_found_append_iff (List.concat_ne_nil name rest),
        Entry.descend_directory_cons]
      rw [List.append_cons place first rest]
      constructor
      · rintro ⟨_, stands, enters, listedThere, below, rfl, inside⟩
        have belowDistinct := Entry.isDistinct_of_mem distinct (Members.mem_of_get? stands)
        obtain ⟨all, listedBelow, entry, leads, takes⟩ :=
          (ih belowDistinct listedThere).mp inside
        rw [stands]
        exact ⟨⟨enters, all⟩, listedBelow, entry, leads, takes⟩
      · rintro ⟨⟨enters, all⟩, listedBelow, entry, leads, takes⟩
        obtain ⟨next, stands, onward⟩ := Option.bind_eq_some_iff.mp leads
        have listedThere := lists_of_append listedBelow
        obtain ⟨below, rfl⟩ :=
          Entry.exists_members_of_descend (List.concat_ne_nil name rest) onward
        have belowDistinct := Entry.isDistinct_of_mem distinct (Members.mem_of_get? stands)
        exact ⟨_, stands, enters, listedThere, below, rfl,
          (ih belowDistinct listedThere).mpr ⟨all, listedBelow, entry, onward, takes⟩⟩

theorem of_mem_foundAmong (member : file ∈ s.foundAmong leads place members) :
    ∃ directories name, file = place ++ (directories ++ [name]) := by
  obtain ⟨first, rest, rfl⟩ := exists_of_mem_foundAmong member
  obtain ⟨directories, name, same⟩ :=
    (List.eq_nil_or_concat' (first :: rest)).resolve_left (List.cons_ne_nil _ _)
  exact ⟨directories, name, congrArg (place ++ ·) same⟩

/-! ## Directories one inside of the other -/

theorem lt_depthAmong_iff_exists {n : Nat} :
    n < s.depthAmong place members ↔
      ∃ name entry, (name, entry) ∈ members ∧ n < s.depth place name entry := by
  induction members with
  | nil => simp [depthAmong]
  | cons member rest ih =>
      obtain ⟨name, entry⟩ := member
      have either : ∀ a b : Nat, n < max a b ↔ n < a ∨ n < b := by omega
      rw [depthAmong, either, ih]
      constructor
      · rintro (here | ⟨other, below, member, deep⟩)
        · exact ⟨name, entry, List.mem_cons_self, here⟩
        · exact ⟨other, below, List.mem_cons_of_mem _ member, deep⟩
      · rintro ⟨other, below, member, deep⟩
        rcases List.mem_cons.mp member with same | later
        · cases same
          exact Or.inl deep
        · exact Or.inr ⟨other, below, later, deep⟩

theorem depth_pos_iff :
    0 < s.depth place name entry ↔ s.enters name = true ∧ ∃ below, entry = .directory below := by
  cases entry with
  | file octets => simp [depth]
  | link target => simp [depth]
  | directory below =>
      cases enters : s.enters name <;> cases listed : lists (place ++ [name]) <;>
        simp [depth, enters, listed]

theorem succ_lt_depth_iff {n : Nat} :
    n + 1 < s.depth place name entry ↔
      s.enters name = true ∧ lists (place ++ [name]) = true ∧
        ∃ below, entry = .directory below ∧ n < s.depthAmong (place ++ [name]) below := by
  cases entry with
  | file octets => simp [depth]
  | link target => simp [depth]
  | directory below =>
      cases enters : s.enters name <;> cases listed : lists (place ++ [name]) <;>
        simp [depth, enters, listed]

/-- A directory is entered when one among the entries can be. -/
theorem depthAmong_pos_iff (distinct : Entry.areDistinct members = true) :
    0 < s.depthAmong place members ↔
      ∃ name below, Members.get? members name = some (.directory below) ∧
        s.enters name = true := by
  rw [lt_depthAmong_iff_exists]
  simp only [depth_pos_iff, Entry.get?_eq_some_iff_mem distinct]
  constructor
  · rintro ⟨name, _, member, enters, below, rfl⟩
    exact ⟨name, below, member, enters⟩
  · rintro ⟨name, below, member, enters⟩
    exact ⟨name, _, member, enters, below, rfl⟩

/-- Directories are entered further down when one that is entered can be listed. -/
theorem succ_lt_depthAmong_iff (distinct : Entry.areDistinct members = true) {n : Nat} :
    n + 1 < s.depthAmong place members ↔
      ∃ name below, Members.get? members name = some (.directory below) ∧
        s.enters name = true ∧ lists (place ++ [name]) = true ∧
          n < s.depthAmong (place ++ [name]) below := by
  rw [lt_depthAmong_iff_exists]
  simp only [succ_lt_depth_iff, Entry.get?_eq_some_iff_mem distinct]
  constructor
  · rintro ⟨name, _, member, enters, listed, below, rfl, deep⟩
    exact ⟨name, below, member, enters, listed, deep⟩
  · rintro ⟨name, below, member, enters, listed, deep⟩
    exact ⟨name, _, member, enters, listed, below, rfl, deep⟩

/-- Directories are entered one inside of the other as deep as names of directories lead that are
entered, when all of these but the last one can be listed. -/
theorem lt_depthAmong_iff (distinct : Entry.areDistinct members = true)
    (listed : lists place = true) {n : Nat} :
    n < s.depthAmong place members ↔
      ∃ directories, directories.length = n + 1 ∧ (∀ d ∈ directories, s.enters d = true) ∧
        (∃ below, (Entry.directory members).descend directories = some (.directory below)) ∧
        lists (place ++ directories.dropLast) = true := by
  induction n generalizing place members with
  | zero =>
      rw [depthAmong_pos_iff distinct]
      constructor
      · rintro ⟨name, below, stands, enters⟩
        refine ⟨[name], rfl, List.forall_mem_singleton.mpr enters, ⟨below, ?_⟩, ?_⟩
        · rw [Entry.descend_directory_cons, stands, Option.bind_some, Entry.descend_nil]
        · rwa [List.dropLast_singleton, List.append_nil]
      · rintro ⟨directories, one, entered, ⟨below, stands⟩, -⟩
        obtain ⟨name, rfl⟩ := List.length_eq_one_iff.mp one
        simp only [Entry.descend_directory_cons, Entry.descend_nil,
          Option.bind_fun_some] at stands
        exact ⟨name, below, stands, entered name List.mem_cons_self⟩
  | succ n ih =>
      rw [succ_lt_depthAmong_iff distinct]
      constructor
      · rintro ⟨name, below, stands, enters, listedThere, deep⟩
        have belowDistinct := Entry.isDistinct_of_mem distinct (Members.mem_of_get? stands)
        obtain ⟨rest, long, all, ⟨last, leads⟩, listedBelow⟩ :=
          (ih belowDistinct listedThere).mp deep
        have further : rest ≠ [] := List.ne_nil_of_length_eq_add_one long
        refine ⟨name :: rest, congrArg (· + 1) long, List.forall_mem_cons.mpr ⟨enters, all⟩,
          ⟨last, ?_⟩, ?_⟩
        · rw [Entry.descend_directory_cons, stands, Option.bind_some, leads]
        · rwa [List.dropLast_cons_of_ne_nil further, List.append_cons]
      · rintro ⟨_ | ⟨name, rest⟩, long, enters, ⟨last, leads⟩, listedBelow⟩
        · cases long
        · obtain ⟨entersFirst, all⟩ := List.forall_mem_cons.mp enters
          rw [List.length_cons, Nat.add_right_cancel_iff] at long
          have further : rest ≠ [] := List.ne_nil_of_length_eq_add_one long
          rw [List.dropLast_cons_of_ne_nil further, List.append_cons] at listedBelow
          rw [Entry.descend_directory_cons, Option.bind_eq_some_iff] at leads
          obtain ⟨entry, stands, onward⟩ := leads
          obtain ⟨below, rfl⟩ := Entry.exists_members_of_descend further onward
          have belowDistinct := Entry.isDistinct_of_mem distinct (Members.mem_of_get? stands)
          have listedThere := lists_of_append listedBelow
          exact ⟨name, below, stands, entersFirst, listedThere,
            (ih belowDistinct listedThere).mpr ⟨rest, long, all, ⟨last, onward⟩, listedBelow⟩⟩

/-! ## Hosts -/

variable {host : Host} {p : Path} {root real directories : Location}

/-- Names of directories lead down from a directory, and none of these is excluded or hidden. -/
def Enters (s : Search) (host : Host) (real directories : Location) : Prop :=
  ∀ front d, front ++ [d] <+: directories →
    (∃ members, host.files.get? (real ++ front ++ [d]) = some (.directory members)) ∧
      d ∉ s.excluded ∧ d.head? ≠ some dot

/-- Below the directory at a location, names of directories lead to an entry that is looked
for. None of the directories is excluded or hidden. The entry is a file, or a link that does not
lead to a directory, and it has a wanted extension, in letters of any case. -/
structure Finds (s : Search) (host : Host) (root real directories : Location) (name : Text) :
    Prop where
  entered : s.Enters host real directories
  entry : ∃ entry, host.files.get? (real ++ directories ++ [name]) = some entry ∧
    entry.isDirectory = false ∧
    (entry.isLink = true →
      host.hasDirectory (Path.ofLocation (root ++ directories ++ [name])) = false)
  wanted : ∃ ending wanted, HasExtension name ending ∧ wanted ∈ s.extensions ∧
    wanted.lower = ending.lower

/-- More directories are entered one inside of the other than calls can be nested. All but the last
one have paths that are not too long to be listed. -/
def TooDeep (s : Search) (host : Host) (root real : Location) : Prop :=
  ∃ directories, s.Enters host real directories ∧
    isLongPath (Location.toText (root ++ directories.dropLast)) = false ∧
    directories.length = host.nesting.directories + 1

theorem enters_of_mem (entered : s.Enters host real directories) :
    ∀ d ∈ directories, s.enters d = true := by
  intro d member
  obtain ⟨front, back, rfl⟩ := List.append_of_mem member
  exact enters_iff.mpr (entered front d ⟨back, by simp⟩).2

theorem enters_of_get? {rest : Location} {entry : Entry}
    (entered : ∀ d ∈ directories, s.enters d = true)
    (stands : host.files.get? (real ++ (directories ++ rest)) = some entry)
    (directory : rest ≠ [] ∨ entry.isDirectory = true) : s.Enters host real directories := by
  rintro front d ⟨back, rfl⟩
  refine ⟨?_, enters_iff.mp (entered d (by simp))⟩
  have within :
      real ++ (front ++ [d] ++ back ++ rest) = real ++ front ++ [d] ++ (back ++ rest) := by
    simp
  rw [within] at stands
  cases last : back ++ rest with
  | cons name more =>
      rw [last] at stands
      exact FileSystem.get?_of_get?_append_cons stands
  | nil =>
      obtain ⟨-, rfl⟩ := List.append_eq_nil_iff.mp last
      obtain ⟨members, rfl⟩ := Entry.isDirectory_iff.mp (directory.resolve_left (absurd rfl))
      rw [last, List.append_nil] at stands
      exact ⟨members, stands⟩

theorem finds_iff :
    s.Finds host root real directories name ↔
      (∀ d ∈ directories, s.enters d = true) ∧
        ∃ entry, host.files.get? (real ++ (directories ++ [name])) = some entry ∧
          s.Takes (fun place => host.hasDirectory (Path.ofLocation place)) (root ++ directories)
            name entry := by
  constructor
  · rintro ⟨entered, ⟨entry, stands, notDirectory, notLeading⟩, wanted⟩
    rw [List.append_assoc] at stands
    exact ⟨enters_of_mem entered, entry, stands, wants_iff.mpr wanted, notDirectory, notLeading⟩
  · rintro ⟨entered, entry, stands, wanted, notDirectory, notLeading⟩
    exact ⟨enters_of_get? entered stands (Or.inl (List.cons_ne_nil _ _)),
      ⟨entry, by rw [List.append_assoc, stands], notDirectory, notLeading⟩, wants_iff.mp wanted⟩

section Reached

variable (distinct : host.files.Distinct)
  (reached : host.find (Location.toText root) = .ok ⟨real, .directory members⟩)

include reached

theorem lists_of_find : lists root = true := by
  obtain ⟨-, -, short, -⟩ := Host.find_eq_ok_iff.mp reached
  rw [lists, short]
  rfl

include distinct

theorem areDistinct_of_find : Entry.areDistinct members = true :=
  Entry.isDistinct_of_descend distinct (Host.stands_of_find reached)

theorem tooDeep_iff :
    s.TooDeep host root real ↔ host.nesting.directories < s.depthAmong root members := by
  have stands : host.files.get? real = some (.directory members) := Host.stands_of_find reached
  rw [lt_depthAmong_iff (areDistinct_of_find distinct reached) (lists_of_find reached)]
  constructor
  · rintro ⟨directories, entered, short, long⟩
    have some := List.ne_nil_of_length_eq_add_one long
    have split := List.dropLast_concat_getLast some
    have whole : directories.dropLast ++ [directories.getLast some] <+: directories :=
      ⟨[], by rw [List.append_nil, split]⟩
    obtain ⟨⟨below, last⟩, -⟩ := entered _ _ whole
    rw [List.append_assoc, split, FileSystem.get?_append, stands] at last
    exact ⟨directories, long, enters_of_mem entered, ⟨below, last⟩, by simp [lists, short]⟩
  · rintro ⟨directories, long, entered, ⟨below, descends⟩, listed⟩
    have last : host.files.get? (real ++ (directories ++ [])) = some (.directory below) := by
      rw [List.append_nil, FileSystem.get?_append, stands, Option.bind_some, descends]
    refine ⟨directories, enters_of_get? entered last (Or.inr rfl), ?_, long⟩
    simpa [lists] using listed

/-- What is found below a directory, in terms of locations. -/
theorem mem_foundAmong_iff_finds {file : Location} :
    file ∈ s.foundAmong (fun place => host.hasDirectory (Path.ofLocation place)) root members ↔
      ∃ directories name, file = root ++ directories ++ [name] ∧
        s.Finds host root real directories name ∧
        isLongPath (Location.toText (root ++ directories)) = false := by
  have stands : host.files.get? real = some (.directory members) := Host.stands_of_find reached
  have below : ∀ directories name,
      root ++ directories ++ [name] ∈
          s.foundAmong (fun place => host.hasDirectory (Path.ofLocation place)) root members ↔
        s.Finds host root real directories name ∧
          isLongPath (Location.toText (root ++ directories)) = false := by
    intro directories name
    rw [List.append_assoc,
      mem_foundAmong_iff (areDistinct_of_find distinct reached) (lists_of_find reached), finds_iff,
      FileSystem.get?_append, stands, Option.bind_some, and_assoc, and_comm (b := _ = false)]
    simp only [lists, Bool.not_eq_true']
  constructor
  · intro member
    obtain ⟨directories, name, rfl⟩ := of_mem_foundAmong member
    rw [← List.append_assoc] at member ⊢
    exact ⟨directories, name, rfl, (below directories name).mp member⟩
  · rintro ⟨directories, name, rfl, finds⟩
    exact (below directories name).mpr finds

end Reached

theorem outcome_run_of_directory (resolved : host.resolve p = .ok root)
    (reached : host.find (Location.toText root) = .ok ⟨real, .directory members⟩) :
    (s.run host p).outcome =
      if host.nesting.directories < s.depthAmong root members then .error (.fault .tooDeep)
      else
        .ok (OrderedSet.ofList (s.foundAmong
          (fun place => host.hasDirectory (Path.ofLocation place)) root members)) := by
  have seen : host.look (Path.ofLocation root) = .ok (some ⟨real, .directory members⟩) :=
    Host.look_of_find reached
  have looked : host.at? (Path.ofLocation root) = some ⟨real, .directory members⟩ :=
    Host.at?_eq_some_iff.mpr reached
  rw [outcome_run, resolved]
  simp only [seen]
  rw [if_pos (by rfl), below, looked]
  dsimp only
  split <;> rfl

end Search

/-! ## The order of members -/

namespace Host

variable {host : Host} {other : FileSystem} {p : Path}

theorem hasDirectory_iff :
    host.hasDirectory p = true ↔ ∃ l members, host.find p.toText = .ok ⟨l, .directory members⟩ := by
  rw [hasDirectory, Option.any_eq_true]
  constructor
  · rintro ⟨⟨l, entry⟩, reached, isDirectory⟩
    obtain ⟨members, rfl⟩ := Entry.isDirectory_iff.mp isDirectory
    exact ⟨l, members, at?_eq_some_iff.mp reached⟩
  · rintro ⟨l, members, found⟩
    exact ⟨_, at?_eq_some_iff.mpr found, rfl⟩

theorem hasDirectory_of_keeps {old new : FileSystem} (kept : old.Keeps new)
    (leads : (host.withFiles old).hasDirectory p = true) :
    (host.withFiles new).hasDirectory p = true := by
  obtain ⟨l, members, found⟩ := hasDirectory_iff.mp leads
  obtain ⟨others, found⟩ := find_directory_of_keeps kept found
  exact hasDirectory_iff.mpr ⟨l, others, found⟩

theorem hasDirectory_congr (same : ∀ l, other.outline l = host.files.outline l) (p : Path) :
    (host.withFiles other).hasDirectory p = host.hasDirectory p := by
  have keeps : other.Keeps host.files := fun l _ stands => (same l).symm.trans stands
  have kept : host.files.Keeps other := fun l _ stands => (same l).trans stands
  exact Bool.eq_iff_iff.mpr ⟨hasDirectory_of_keeps keeps, hasDirectory_of_keeps kept⟩

/-- A path is resolved in the same way where the same entries stand. -/
theorem follow_congr (same : ∀ l, other.outline l = host.files.outline l) (p : Path) :
    (host.withFiles other).follow p = host.follow p := by
  have links : ∀ l, other.link? l = host.files.link? l := by
    intro l
    apply Option.ext
    intro target
    rw [FileSystem.link?_eq_some_iff, FileSystem.link?_eq_some_iff]
    exact FileSystem.get?_eq_some_iff_of_outline (same l) rfl
  have readers : (host.withFiles other).linkAt = host.linkAt := by
    funext q
    rw [linkAt, linkAt, files_withFiles, links]
    rfl
  rw [follow, follow, readers]
  rfl

end Host

namespace Search

variable {s : Search} {host : Host} {other : FileSystem} {p : Path} {members : Members}
  {root real directories : Location} {name : Text}

theorem Enters.congr (same : ∀ l, other.outline l = host.files.outline l)
    (entered : s.Enters host real directories) :
    s.Enters (host.withFiles other) real directories := by
  intro front d isPrefix
  obtain ⟨⟨members, stands⟩, notExcluded, notHidden⟩ := entered front d isPrefix
  refine ⟨FileSystem.outline_eq_directory_iff.mp ?_, notExcluded, notHidden⟩
  exact (same _).trans (FileSystem.outline_eq_directory_iff.mpr ⟨members, stands⟩)

/-- The same is found where the same entries stand. -/
theorem Finds.congr (same : ∀ l, other.outline l = host.files.outline l)
    (finds : s.Finds host root real directories name) :
    s.Finds (host.withFiles other) root real directories name where
  entered := finds.entered.congr same
  entry := by
    obtain ⟨entry, stands, notDirectory, notLeading⟩ := finds.entry
    refine ⟨entry, (FileSystem.get?_eq_some_iff_of_outline (same _) notDirectory).mpr stands,
      notDirectory, ?_⟩
    intro isLink
    rw [← notLeading isLink]
    exact Host.hasDirectory_congr same _
  wanted := finds.wanted

theorem tooDeep_congr (same : ∀ l, other.outline l = host.files.outline l) :
    s.TooDeep (host.withFiles other) root real ↔ s.TooDeep host root real :=
  exists_congr fun _ => and_congr_left fun _ =>
    ⟨Enters.congr fun l => (same l).symm, Enters.congr same⟩

/-- What a search gives does not depend on the order in which the members of directories are
listed. -/
theorem outcome_run_congr (distinct : host.files.Distinct) (otherDistinct : other.Distinct)
    (same : ∀ l, other.outline l = host.files.outline l)
    (resolved : host.resolve p = .ok root)
    (reached : host.find (Location.toText root) = .ok ⟨real, .directory members⟩) :
    (s.run (host.withFiles other) p).outcome = (s.run host p).outcome := by
  have kept : host.files.Keeps other := fun l _ stands => (same l).trans stands
  obtain ⟨others, otherReached⟩ := Host.find_directory_of_keeps kept reached
  have otherResolved : (host.withFiles other).resolve p = .ok root := by
    rw [Host.resolve_eq_ok_iff, Host.follow_congr same]
    exact ⟨(Host.resolve_eq_ok_iff.mp resolved).1, by simp [otherReached]⟩
  have deep : (host.withFiles other).nesting.directories < s.depthAmong root others ↔
      host.nesting.directories < s.depthAmong root members := by
    rw [← tooDeep_iff distinct reached, ← tooDeep_congr same]
    exact (tooDeep_iff otherDistinct otherReached).symm
  rw [outcome_run_of_directory otherResolved otherReached,
    outcome_run_of_directory resolved reached]
  simp only [deep]
  split
  · rfl
  · refine congrArg Except.ok (OrderedSet.ext_mem fun file => ?_)
    rw [OrderedSet.mem_ofList_iff, OrderedSet.mem_ofList_iff,
      mem_foundAmong_iff_finds otherDistinct otherReached,
      mem_foundAmong_iff_finds distinct reached]
    refine exists_congr fun directories => exists_congr fun name => and_congr_right fun _ =>
      and_congr_left fun _ => ?_
    exact ⟨Finds.congr fun l => (same l).symm, Finds.congr same⟩

/-- For a path that is resolved to a directory, exactly those files are returned that are looked
for and stand in directories that can be listed: each of them once, in increasing order. When too
many directories would have to be entered one inside of the other, that is a fault. It makes no
difference in which order the members of directories are listed. -/
theorem found_exactly (s : Search) (distinct : host.files.Distinct)
    (resolved : host.resolve p = .ok root)
    (reached : host.find (Location.toText root) = .ok ⟨real, .directory members⟩) :
    (¬ s.TooDeep host root real → ∃ files, (s.run host p).outcome = .ok files ∧
        (files.toList.map Path.ofLocation).Pairwise (· < ·) ∧
        ∀ file, file ∈ files ↔
          ∃ directories name, file = root ++ directories ++ [name] ∧
            s.Finds host root real directories name ∧
            isLongPath (Location.toText (root ++ directories)) = false) ∧
      (s.TooDeep host root real → (s.run host p).outcome = .error (.fault .tooDeep)) ∧
      ∀ other : FileSystem, other.Distinct → (∀ l, other.outline l = host.files.outline l) →
        (s.run (host.withFiles other) p).outcome = (s.run host p).outcome := by
  rw [outcome_run_of_directory resolved reached, tooDeep_iff distinct reached]
  refine ⟨?_, ?_, ?_⟩
  · intro flat
    rw [if_neg flat]
    refine ⟨_, rfl, OrderedSet.increasing_paths _, fun file => ?_⟩
    rw [OrderedSet.mem_ofList_iff, mem_foundAmong_iff_finds distinct reached]
  · intro deep
    rw [if_pos deep]
  · intro other otherDistinct same
    rw [outcome_run_congr distinct otherDistinct same resolved reached,
      outcome_run_of_directory resolved reached]

/-! ## Files, directories and links -/

/-- A hidden and an excluded directory, a link to a directory and one that leads nowhere, and a
file whose name ends in capitals. -/
def mixedMembers : Members :=
  [("lib", .directory [("Main.JS", .file "".toUTF8), (".js", .file "".toUTF8)]),
    (".git", .directory [("a.js", .file "".toUTF8)]),
    ("dist", .directory [("b.js", .file "".toUTF8)]),
    ("all.js", .link "lib"),
    ("gone.js", .link "nowhere")]

/-- The members, listed from first to last or from last to first. -/
def mixedHost (members : Members) : Host where
  files := { members }

def mixedSearch : Search where
  extensions := [".js"]
  excluded := ["dist"]

theorem found_exactly_mixedHost :
    (mixedHost mixedMembers).files.Distinct ∧
      (mixedHost mixedMembers).resolve (Path.ofText "/") = .ok [] ∧
      (mixedHost mixedMembers).find (Location.toText []) = .ok ⟨[], .directory mixedMembers⟩ ∧
      (mixedSearch.run (mixedHost mixedMembers) (Path.ofText "/")).outcome =
        .ok (OrderedSet.ofList [["lib", "Main.JS"], ["gone.js"]]) ∧
      (mixedSearch.run (mixedHost mixedMembers.reverse) (Path.ofText "/")).outcome =
        .ok (OrderedSet.ofList [["lib", "Main.JS"], ["gone.js"]]) := by
  have distinct : (mixedHost mixedMembers).files.Distinct := rfl
  have resolved : (mixedHost mixedMembers).resolve (Path.ofText "/") = .ok [] := rfl
  have leads : (mixedHost mixedMembers).find (Location.toText []) =
      .ok ⟨[], .directory mixedMembers⟩ := rfl
  have ran : (mixedSearch.run (mixedHost mixedMembers) (Path.ofText "/")).outcome =
      .ok (OrderedSet.ofList [["lib", "Main.JS"], ["gone.js"]]) := rfl
  obtain ⟨-, -, anyOrder⟩ := found_exactly mixedSearch distinct resolved leads
  refine ⟨distinct, resolved, leads, ran, ?_⟩
  rw [← ran]
  refine anyOrder { members := mixedMembers.reverse } rfl ?_
  exact Entry.outline_descend_of_same_members rfl rfl fun member => List.mem_reverse

/-- A file in a directory whose path is too long. -/
def deepMembers : Members := Host.nested [("f.js", .file "".toUTF8)] 17

/-- The directories above the file. -/
def deepDirectories : Location := List.replicate 17 Host.wideName

theorem get?_deepMembers :
    (mixedHost deepMembers).files.get? (deepDirectories ++ (["f.js"] : Location)) =
      some (.file "".toUTF8) :=
  Host.descend_nested [("f.js", .file "".toUTF8)] 17 ["f.js"]

/-- A file that is looked for is not found when its directory cannot be listed. -/
theorem not_found_deepMembers :
    (mixedHost deepMembers).files.Distinct ∧
      (mixedHost deepMembers).resolve (Path.ofText "/") = .ok [] ∧
      (mixedHost deepMembers).find (Location.toText []) = .ok ⟨[], .directory deepMembers⟩ ∧
      mixedSearch.Finds (mixedHost deepMembers) [] [] deepDirectories "f.js" ∧
      ∃ files, (mixedSearch.run (mixedHost deepMembers) (Path.ofText "/")).outcome = .ok files ∧
        deepDirectories ++ (["f.js"] : Location) ∉ files := by
  have distinct : (mixedHost deepMembers).files.Distinct := by
    rw [FileSystem.Distinct]
    decide +kernel
  have resolved : (mixedHost deepMembers).resolve (Path.ofText "/") = .ok [] := rfl
  have reached : (mixedHost deepMembers).find (Location.toText []) =
      .ok ⟨[], .directory deepMembers⟩ := rfl
  have entered : ∀ d ∈ deepDirectories, mixedSearch.enters d = true := by
    intro d member
    cases List.eq_of_mem_replicate member
    decide +kernel
  refine ⟨distinct, resolved, reached, ?_, ?_⟩
  · exact finds_iff.mpr ⟨entered, _, get?_deepMembers, ⟨by decide, rfl, by decide⟩⟩
  · rw [outcome_run_of_directory resolved reached, if_neg (by decide +kernel)]
    refine ⟨_, rfl, fun member => ?_⟩
    rw [OrderedSet.mem_ofList_iff, mem_foundAmong_iff_finds distinct reached] at member
    obtain ⟨directories, name, split, -, short⟩ := member
    obtain ⟨same, -⟩ := List.append_inj' split rfl
    rw [← same] at short
    have long : isLongPath (Location.toText deepDirectories) = true := by decide +kernel
    cases long.symm.trans short

end Search

end NamespaceScan

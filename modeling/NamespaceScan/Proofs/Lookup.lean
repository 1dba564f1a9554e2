import NamespaceScan.Proofs.Names

/-!
# Where names lead

Following names is a relation: `Leads` says which entry names lead to when a number of
links may be followed on the way. The executable walk succeeds exactly along this relation.
So what a path leads to depends only on the directories and links that it passes, and it
stays the same when other entries change.
-/

namespace NamespaceScan

/-- A link stands here. -/
def Entry.isLink : Entry → Bool
  | .link _ => true
  | _ => false

@[simp]
theorem Entry.isLink_outline (entry : Entry) : entry.outline.isLink = entry.isLink := by
  cases entry <;> rfl

/-- A name that is followed as it is, and not as a word for a directory. -/
def IsOrdinary (name : Text) : Prop := ¬ (name = [] ∨ name = here) ∧ name ≠ above

theorem IsName.isOrdinary {name : Text} (isName : IsName name) : IsOrdinary name :=
  ⟨not_or.mpr ⟨isName.nonempty, isName.notHere⟩, isName.notAbove⟩

/-- A name that is followed as it is, without a slash in it. -/
def IsPlainName (name : Text) : Prop := IsOrdinary name ∧ slash ∉ name

theorem IsName.isPlainName {name : Text} (isName : IsName name) : IsPlainName name :=
  ⟨isName.isOrdinary, isName.noSlash⟩

namespace Location

variable {place names : Location} {name : Text}

theorem step_of_isOrdinary (ordinary : IsOrdinary name) : step place name = place ++ [name] := by
  rw [step, if_neg ordinary.1, if_neg ordinary.2]

theorem step_above : step place above = place.dropLast := by
  have named : ¬ (above = [] ∨ above = here) := by decide
  rw [step, if_neg named, if_pos rfl]

theorem foldl_step_of_isOrdinary (ordinary : ∀ name ∈ names, IsOrdinary name) :
    names.foldl step place = place ++ names := by
  induction names generalizing place with
  | nil => rw [List.foldl_nil, List.append_nil]
  | cons name rest ih =>
      obtain ⟨first, others⟩ := List.forall_mem_cons.mp ordinary
      rw [List.foldl_cons, step_of_isOrdinary first, ih others, ← List.append_cons]

end Location

namespace FileSystem

/-- The first name on the way to an entry leads past no link, unless the entry is one. -/
theorem get?_of_get?_of_plain {fs : FileSystem} {place rest : Location} {name : Text}
    {entry : Entry} (stands : fs.get? (place ++ name :: rest) = some entry)
    (plain : entry.isLink = false) :
    ∃ next, fs.get? (place ++ [name]) = some next ∧ next.isLink = false := by
  cases rest with
  | nil => exact ⟨entry, stands, plain⟩
  | cons following rest =>
      rw [List.append_cons] at stands
      obtain ⟨members, directory⟩ := get?_of_get?_append_cons stands
      exact ⟨.directory members, directory, rfl⟩

/-- Names lead from a location to an entry, through at most the given number of links. -/
inductive Leads (fs : FileSystem) : Nat → Location → List Text → Spot → Prop where
  | arrived {links : Nat} {place : Location} {entry : Entry}
      (stands : fs.get? place = some entry) : Leads fs links place [] ⟨place, entry⟩
  | stay {links : Nat} {place : Location} {members : Members} {name : Text} {rest : List Text}
      {spot : Spot} (stands : fs.get? place = some (.directory members))
      (void : name = [] ∨ name = here) (onward : Leads fs links place rest spot) :
      Leads fs links place (name :: rest) spot
  | up {links : Nat} {place : Location} {members : Members} {rest : List Text} {spot : Spot}
      (stands : fs.get? place = some (.directory members))
      (onward : Leads fs links place.dropLast rest spot) :
      Leads fs links place (above :: rest) spot
  | down {links : Nat} {place : Location} {entry : Entry} {name : Text} {rest : List Text}
      {spot : Spot} (stands : fs.get? (place ++ [name]) = some entry)
      (plain : entry.isLink = false) (ordinary : IsOrdinary name)
      (short : isLongName name = false)
      (onward : Leads fs links (place ++ [name]) rest spot) :
      Leads fs links place (name :: rest) spot
  | follow {links : Nat} {place : Location} {target name : Text} {rest : List Text} {spot : Spot}
      (stands : fs.get? (place ++ [name]) = some (.link target)) (ordinary : IsOrdinary name)
      (short : isLongName name = false)
      (onward : Leads fs links (beginning place target) (components target ++ rest) spot) :
      Leads fs (links + 1) place (name :: rest) spot

/-- What is done at a link while the given number of links may be followed. -/
def entering (fs : FileSystem) : Nat → Location → Text → List Text → Except Obstacle Spot
  | 0, _, _, _ => .error .tooManyLinks
  | links + 1, place, target, rest =>
    fs.walk links (beginning place target) (components target ++ rest)

theorem walk_eq_walkFrom (fs : FileSystem) (links : Nat) (start : Location)
    (names : List Text) :
    fs.walk links start names = fs.walkFrom (fs.entering links) start names := by
  cases links <;> rfl

section WalkFrom

variable {fs : FileSystem} {enter : Location → Text → List Text → Except Obstacle Spot}
  {place : Location} {entry : Entry} {members : Members} {name : Text}

theorem walkFrom_nil (stands : fs.get? place = some entry) :
    fs.walkFrom enter place [] = .ok ⟨place, entry⟩ := by
  simp only [walkFrom, stands, walkWith]

theorem walkFrom_cons_void (stands : fs.get? place = some (.directory members))
    (void : name = [] ∨ name = here) (rest : List Text) :
    fs.walkFrom enter place (name :: rest) = fs.walkFrom enter place rest := by
  simp only [walkFrom, stands, walkWith, if_pos void]

theorem walkFrom_cons_above (stands : fs.get? place = some (.directory members))
    (rest : List Text) :
    fs.walkFrom enter place (above :: rest) = fs.walkFrom enter place.dropLast rest := by
  have named : ¬ (above = [] ∨ above = here) := by decide
  simp only [walkFrom, stands, walkWith, if_neg named, if_true]

theorem walkFrom_cons_ordinary (stands : fs.get? place = some (.directory members))
    (ordinary : IsOrdinary name) (rest : List Text) :
    fs.walkFrom enter place (name :: rest) =
      if isLongName name then .error .nameTooLong
      else
        match fs.get? (place ++ [name]) with
        | none => .error .notFound
        | some (.link target) => enter place target rest
        | some _ => fs.walkFrom enter (place ++ [name]) rest := by
  rw [get?_concat_of_directory stands]
  simp only [walkFrom, stands, walkWith, if_neg ordinary.1, if_neg ordinary.2,
    get?_concat_of_directory stands]
  split
  · rfl
  · split <;> rename_i found <;> simp [found]

theorem walkFrom_of_none (absent : fs.get? place = none) (names : List Text) :
    fs.walkFrom enter place names = .error .notFound := by
  simp only [walkFrom, absent]

theorem walkFrom_cons_of_not_isDirectory (stands : fs.get? place = some entry)
    (other : entry.isDirectory = false) (rest : List Text) :
    fs.walkFrom enter place (name :: rest) = .error .notDirectory := by
  cases entry with
  | directory members => cases other
  | file octets => simp only [walkFrom, stands, walkWith]
  | link target => simp only [walkFrom, stands, walkWith]

end WalkFrom

variable {fs : FileSystem} {links : Nat} {place : Location} {names : List Text} {spot : Spot}

theorem leads_nil_of_walkFrom {enter : Location → Text → List Text → Except Obstacle Spot}
    (walked : fs.walkFrom enter place [] = .ok spot) : fs.Leads links place [] spot := by
  cases found : fs.get? place with
  | none =>
      rw [walkFrom_of_none found] at walked
      cases walked
  | some entry =>
      rw [walkFrom_nil found] at walked
      cases walked
      exact Leads.arrived found

section Cons

variable {name : Text} {rest : List Text}

/-- An entry of a directory on a walk that succeeds, given that the walks from there on and from
the targets of links follow the relation. -/
theorem leads_ordinary_of_walkFrom {members : Members}
    (stands : fs.get? place = some (.directory members)) (ordinary : IsOrdinary name)
    (walked : fs.walkFrom (fs.entering links) place (name :: rest) = .ok spot)
    (onward : ∀ next, fs.walkFrom (fs.entering links) next rest = .ok spot →
      fs.Leads links next rest spot)
    (followed : ∀ fewer start names, links = fewer + 1 → fs.walk fewer start names = .ok spot →
      fs.Leads fewer start names spot) :
    fs.Leads links place (name :: rest) spot := by
  rw [walkFrom_cons_ordinary stands ordinary] at walked
  by_cases long : isLongName name = true
  · rw [if_pos long] at walked
    cases walked
  · rw [if_neg long] at walked
    rw [Bool.not_eq_true] at long
    split at walked
    · cases walked
    · rename_i target found
      cases links with
      | zero => cases walked
      | succ fewer => exact Leads.follow found ordinary long (followed fewer _ _ rfl walked)
    · rename_i entry notLink found
      refine Leads.down found ?_ ordinary long (onward _ walked)
      cases entry with
      | link target => exact absurd rfl (notLink target)
      | file octets => rfl
      | directory members => rfl

/-- One name of a walk that succeeds, given the same. -/
theorem leads_cons_of_walkFrom
    (walked : fs.walkFrom (fs.entering links) place (name :: rest) = .ok spot)
    (onward : ∀ next, fs.walkFrom (fs.entering links) next rest = .ok spot →
      fs.Leads links next rest spot)
    (followed : ∀ fewer start names, links = fewer + 1 → fs.walk fewer start names = .ok spot →
      fs.Leads fewer start names spot) :
    fs.Leads links place (name :: rest) spot := by
  cases stands : fs.get? place with
  | none =>
      rw [walkFrom_of_none stands] at walked
      cases walked
  | some entry =>
      by_cases directory : entry.isDirectory = true
      · obtain ⟨members, rfl⟩ := Entry.isDirectory_iff.mp directory
        by_cases void : name = [] ∨ name = here
        · rw [walkFrom_cons_void stands void] at walked
          exact Leads.stay stands void (onward place walked)
        · by_cases up : name = above
          · subst up
            rw [walkFrom_cons_above stands] at walked
            exact Leads.up stands (onward place.dropLast walked)
          · exact leads_ordinary_of_walkFrom stands ⟨void, up⟩ walked onward followed
      · rw [walkFrom_cons_of_not_isDirectory stands (by simpa using directory)] at walked
        cases walked

end Cons

theorem leads_of_walk (walked : fs.walk links place names = .ok spot) :
    fs.Leads links place names spot := by
  -- Each link that is entered leaves one link less to follow.
  induction links using Nat.strongRecOn generalizing place names with
  | ind links fewerLinks =>
      rw [walk_eq_walkFrom] at walked
      induction names generalizing place with
      | nil => exact leads_nil_of_walkFrom walked
      | cons name rest ih =>
          refine leads_cons_of_walkFrom walked (fun _ => ih) ?_
          rintro fewer start names rfl followed
          exact fewerLinks fewer (Nat.lt_succ_self fewer) followed

theorem walk_of_leads (leads : fs.Leads links place names spot) :
    fs.walk links place names = .ok spot := by
  induction leads with
  | arrived stands =>
      rw [walk_eq_walkFrom]
      exact walkFrom_nil stands
  | stay stands void _ ih =>
      rw [walk_eq_walkFrom] at ih ⊢
      rw [walkFrom_cons_void stands void]
      exact ih
  | up stands _ ih =>
      rw [walk_eq_walkFrom] at ih ⊢
      rw [walkFrom_cons_above stands]
      exact ih
  | down stands plain ordinary short _ ih =>
      rw [walk_eq_walkFrom] at ih ⊢
      obtain ⟨members, above⟩ := get?_of_get?_append_cons stands
      rw [walkFrom_cons_ordinary above ordinary, if_neg (by simp [short]), stands]
      split
      · rename_i none
        cases none
      · rename_i isLink
        cases isLink
        cases plain
      · exact ih
  | follow stands ordinary short _ ih =>
      rw [walk_eq_walkFrom]
      obtain ⟨members, above⟩ := get?_of_get?_append_cons stands
      rw [walkFrom_cons_ordinary above ordinary, if_neg (by simp [short]), stands]
      exact ih

/-- The walk succeeds exactly where names lead. -/
theorem walk_eq_ok_iff : fs.walk links place names = .ok spot ↔ fs.Leads links place names spot :=
  ⟨leads_of_walk, walk_of_leads⟩

namespace Leads

/-- What names lead to stands there. -/
theorem stands (leads : fs.Leads links place names spot) :
    fs.get? spot.location = some spot.entry := by
  induction leads with
  | arrived stands => exact stands
  | stay _ _ _ ih => exact ih
  | up _ _ ih => exact ih
  | down _ _ _ _ _ ih => exact ih
  | follow _ _ _ _ ih => exact ih

/-- More links may be followed than are needed. -/
theorem mono (leads : fs.Leads links place names spot) {more : Nat} (le : links ≤ more) :
    fs.Leads more place names spot := by
  induction leads generalizing more with
  | arrived stands => exact arrived stands
  | stay stands void _ ih => exact stay stands void (ih le)
  | up stands _ ih => exact up stands (ih le)
  | down stands plain ordinary short _ ih => exact down stands plain ordinary short (ih le)
  | follow stands ordinary short _ ih =>
      obtain ⟨fewer, rfl⟩ := Nat.exists_eq_add_of_le' (Nat.le_trans (Nat.le_add_left 1 _) le)
      exact follow stands ordinary short (ih (Nat.le_of_add_le_add_right le))

/-- Names behind others lead on from where those lead. -/
theorem append {middle : Spot} {more : List Text} (leads : fs.Leads links place names middle)
    (onward : fs.Leads 0 middle.location more spot) :
    fs.Leads links place (names ++ more) spot := by
  induction leads with
  | arrived stands => exact onward.mono (Nat.zero_le _)
  | stay stands void _ ih => exact stay stands void (ih onward)
  | up stands _ ih => exact up stands (ih onward)
  | down stands plain ordinary short _ ih => exact down stands plain ordinary short (ih onward)
  | follow stands ordinary short _ ih =>
      refine follow stands ordinary short ?_
      have onward := ih onward
      rwa [List.append_assoc] at onward

/-- Names are followed from a directory. -/
theorem begins (leads : fs.Leads links place names spot)
    (followed : names ≠ [] ∨ spot.entry.isDirectory = true) :
    ∃ members, fs.get? place = some (.directory members) := by
  cases leads with
  | arrived stands =>
      obtain ⟨members, rfl⟩ := Entry.isDirectory_iff.mp (followed.resolve_left (absurd rfl))
      exact ⟨members, stands⟩
  | stay stands _ _ => exact ⟨_, stands⟩
  | up stands _ => exact ⟨_, stands⟩
  | down stands _ _ _ _ => exact get?_of_get?_append_cons stands
  | follow stands _ _ _ => exact get?_of_get?_append_cons stands

/-- Void names in front lead nowhere else. -/
theorem of_voids {voids : List Text} (void : ∀ name ∈ voids, name = [] ∨ name = here)
    (leads : fs.Leads links place (voids ++ names) spot) : fs.Leads links place names spot := by
  induction voids with
  | nil => exact leads
  | cons name voids ih =>
      obtain ⟨first, others⟩ := List.forall_mem_cons.mp void
      cases leads with
      | stay _ _ onward => exact ih others onward
      | up _ _ => exact absurd first (by decide)
      | down _ _ ordinary _ _ => exact absurd first ordinary.1
      | follow _ ordinary _ _ => exact absurd first ordinary.1

theorem voids {members : Members} {voids : List Text}
    (void : ∀ name ∈ voids, name = [] ∨ name = here)
    (stands : fs.get? place = some (.directory members))
    (leads : fs.Leads links place names spot) : fs.Leads links place (voids ++ names) spot := by
  induction voids with
  | nil => exact leads
  | cons name voids ih =>
      obtain ⟨first, others⟩ := List.forall_mem_cons.mp void
      exact stay stands first (ih others)

end Leads

namespace Leads

/-- Names are followed from where something stands. -/
theorem exists_entry (leads : fs.Leads links place names spot) :
    ∃ entry, fs.get? place = some entry := by
  by_cases followed : names = []
  · subst followed
    cases leads with
    | arrived stands => exact ⟨_, stands⟩
  · obtain ⟨members, stands⟩ := leads.begins (Or.inl followed)
    exact ⟨_, stands⟩

theorem split_nil (leads : fs.Leads links place names spot) :
    ∃ middle, fs.Leads links place [] middle ∧ fs.Leads links middle.location names spot := by
  obtain ⟨entry, stands⟩ := leads.exists_entry
  exact ⟨⟨place, entry⟩, arrived stands, leads⟩

/-- The way through names passes where the first of them lead. -/
theorem split {first rest : List Text} (leads : fs.Leads links place (first ++ rest) spot) :
    ∃ middle, fs.Leads links place first middle ∧ fs.Leads links middle.location rest spot := by
  generalize joined : first ++ rest = names at leads
  induction leads generalizing first with
  | arrived stands =>
      obtain ⟨rfl, rfl⟩ := List.append_eq_nil_iff.mp joined
      exact split_nil (arrived stands)
  | stay stands void onward ih =>
      cases first with
      | nil =>
          cases joined
          exact split_nil (stay stands void onward)
      | cons name first =>
          cases joined
          obtain ⟨middle, way, later⟩ := ih rfl
          exact ⟨middle, stay stands void way, later⟩
  | up stands onward ih =>
      cases first with
      | nil =>
          cases joined
          exact split_nil (up stands onward)
      | cons name first =>
          cases joined
          obtain ⟨middle, way, later⟩ := ih rfl
          exact ⟨middle, up stands way, later⟩
  | down stands plain ordinary short onward ih =>
      cases first with
      | nil =>
          cases joined
          exact split_nil (down stands plain ordinary short onward)
      | cons name first =>
          cases joined
          obtain ⟨middle, way, later⟩ := ih rfl
          exact ⟨middle, down stands plain ordinary short way, later⟩
  | follow stands ordinary short onward ih =>
      cases first with
      | nil =>
          cases joined
          exact split_nil (follow stands ordinary short onward)
      | cons name first =>
          cases joined
          obtain ⟨middle, way, later⟩ := ih (List.append_assoc _ _ _)
          exact ⟨middle, follow stands ordinary short way, later.mono (Nat.le_succ _)⟩

/-- The first of the names that lead to a directory lead to a directory too. -/
theorem front {first rest : List Text} (leads : fs.Leads links place (first ++ rest) spot)
    (directory : spot.entry.isDirectory = true) :
    ∃ middle, fs.Leads links place first middle ∧ middle.entry.isDirectory = true := by
  obtain ⟨middle, way, later⟩ := leads.split
  obtain ⟨members, stands⟩ := later.begins (Or.inr directory)
  have same : middle.entry = .directory members :=
    Option.some.inj (way.stands.symm.trans stands)
  exact ⟨middle, way, Entry.isDirectory_iff.mpr ⟨members, same⟩⟩

/-- Names lead to one place. -/
theorem unique {other : Spot} {more : Nat} (leads : fs.Leads links place names spot)
    (otherLeads : fs.Leads more place names other) : spot = other := by
  have walked := walk_of_leads (leads.mono (Nat.le_max_left links more))
  have otherWalked := walk_of_leads (otherLeads.mono (Nat.le_max_right links more))
  exact Except.ok.inj (walked.symm.trans otherWalked)

end Leads

/-! ## Other file systems -/

/-- All directories of one file system stand in another one, where they may have other
members, and so do all links that lead to directories. -/
structure KeepsWays (fs other : FileSystem) : Prop where
  directory : ∀ l members, fs.get? l = some (.directory members) →
    ∃ members, other.get? l = some (.directory members)
  link : ∀ place name target spot, fs.get? (place ++ [name]) = some (.link target) →
    fs.Leads Host.linkLimit place [name] spot → spot.entry.isDirectory = true →
    other.get? (place ++ [name]) = some (.link target)

/-- Names that lead to a directory lead to it in every file system with the same
directories and links to directories. -/
theorem Leads.keepsWays {other : FileSystem} (kept : fs.KeepsWays other)
    (leads : fs.Leads links place names spot) (few : links ≤ Host.linkLimit)
    (directory : spot.entry.isDirectory = true) :
    ∃ members, other.Leads links place names ⟨spot.location, .directory members⟩ := by
  induction leads with
  | arrived stands =>
      obtain ⟨members, rfl⟩ := Entry.isDirectory_iff.mp directory
      obtain ⟨others, stands⟩ := kept.directory _ _ stands
      exact ⟨others, arrived stands⟩
  | stay stands void _ ih =>
      obtain ⟨members, onward⟩ := ih few directory
      obtain ⟨others, stands⟩ := kept.directory _ _ stands
      exact ⟨members, stay stands void onward⟩
  | up stands _ ih =>
      obtain ⟨members, onward⟩ := ih few directory
      obtain ⟨others, stands⟩ := kept.directory _ _ stands
      exact ⟨members, up stands onward⟩
  | down stands plain ordinary short leads ih =>
      obtain ⟨members, onward⟩ := ih few directory
      obtain ⟨inside, stands⟩ := leads.begins (Or.inr directory)
      obtain ⟨others, stands⟩ := kept.directory _ _ stands
      exact ⟨members, down stands rfl ordinary short onward⟩
  | follow stands ordinary short leads ih =>
      -- The names behind the link lead to a directory, so the link does.
      obtain ⟨members, onward⟩ := ih (Nat.le_of_succ_le few) directory
      obtain ⟨middle, way, isDirectory⟩ := leads.front directory
      rw [← List.append_nil (components _)] at way
      have linked := (follow stands ordinary short way).mono few
      exact ⟨members,
        follow (kept.link _ _ _ middle stands linked isDirectory) ordinary short onward⟩

/-- Everything in one file system stands in another one, where directories may have more
members. -/
def Keeps (fs other : FileSystem) : Prop :=
  ∀ l entry, fs.outline l = some entry → other.outline l = some entry

namespace Keeps

variable {other : FileSystem}

theorem refl (fs : FileSystem) : fs.Keeps fs := fun _ _ stands => stands

theorem trans {third : FileSystem} (first : fs.Keeps other) (second : other.Keeps third) :
    fs.Keeps third :=
  fun l entry stands => second l entry (first l entry stands)

theorem get? {l : Location} {entry : Entry} (kept : fs.Keeps other)
    (stands : fs.get? l = some entry) :
    ∃ now, other.get? l = some now ∧ now.outline = entry.outline := by
  have drawn : fs.outline l = some entry.outline := by rw [outline, stands, Option.map_some]
  exact Option.map_eq_some_iff.mp (kept l _ drawn)

theorem plain {l : Location} {entry : Entry} (kept : fs.Keeps other)
    (stands : fs.get? l = some entry) (notDirectory : entry.isDirectory = false) :
    other.get? l = some entry :=
  (outline_eq_some_iff notDirectory).mp (kept l _ ((outline_eq_some_iff notDirectory).mpr stands))

theorem keepsWays (kept : fs.Keeps other) : fs.KeepsWays other where
  directory l members stands :=
    outline_eq_directory_iff.mp (kept l _ (outline_eq_directory_iff.mpr ⟨members, stands⟩))
  link _ _ _ _ stands _ _ := kept.plain stands rfl

end Keeps

/-- Names lead to the same place in a file system that has more. -/
theorem Leads.keeps {other : FileSystem} (kept : fs.Keeps other)
    (leads : fs.Leads links place names spot) :
    ∃ now, other.Leads links place names ⟨spot.location, now⟩ ∧
      now.outline = spot.entry.outline := by
  induction leads with
  | arrived stands =>
      obtain ⟨now, stands, drawn⟩ := kept.get? stands
      exact ⟨now, arrived stands, drawn⟩
  | stay stands void _ ih =>
      obtain ⟨now, onward, drawn⟩ := ih
      obtain ⟨others, stands⟩ := kept.keepsWays.directory _ _ stands
      exact ⟨now, stay stands void onward, drawn⟩
  | up stands _ ih =>
      obtain ⟨now, onward, drawn⟩ := ih
      obtain ⟨others, stands⟩ := kept.keepsWays.directory _ _ stands
      exact ⟨now, up stands onward, drawn⟩
  | down stands plain ordinary short _ ih =>
      obtain ⟨now, onward, drawn⟩ := ih
      obtain ⟨next, stands, same⟩ := kept.get? stands
      refine ⟨now, down stands ?_ ordinary short onward, drawn⟩
      rw [← Entry.isLink_outline, same, Entry.isLink_outline, plain]
  | follow stands ordinary short _ ih =>
      obtain ⟨now, onward, drawn⟩ := ih
      exact ⟨now, follow (kept.plain stands rfl) ordinary short onward, drawn⟩

end FileSystem

/-! ## Paths -/

namespace Path

variable {p : Path}

/-- The text of a path spells its names, and void names before them. -/
theorem components_toText (spelled : p.Spelled) :
    ∃ voids, components p.toText = voids ++ p.names ∧ ∀ name ∈ voids, name = [] ∨ name = here := by
  obtain ⟨anchor, names⟩ := p
  cases names with
  | nil =>
      cases anchor with
      | relative => exact ⟨[here], rfl, by simp⟩
      | root => exact ⟨[[], []], rfl, by simp⟩
      | doubleRoot => exact ⟨[[], [], []], rfl, by simp⟩
  | cons name rest =>
      have joined : components (Text.joinWith [slash] (name :: rest)) = name :: rest :=
        Text.splitOn_joinWith (List.cons_ne_nil _ _) fun name member => (spelled name member).2.2
      cases anchor with
      | relative => exact ⟨[], joined, by simp⟩
      | root => exact ⟨[[]], congrArg ([] :: ·) joined, by simp⟩
      | doubleRoot => exact ⟨[[], []], congrArg ([] :: [] :: ·) joined, by simp⟩

theorem beginning_toText (spelled : p.Spelled) (cwd : Location) :
    beginning cwd p.toText = p.start cwd := by
  obtain ⟨anchor, names⟩ := p
  cases anchor with
  | root => cases names <;> rfl
  | doubleRoot => cases names <;> rfl
  | relative =>
      cases names with
      | nil => rfl
      | cons name rest => exact if_neg (head?_joinWith_ne spelled)

theorem toText_ne_nil (spelled : p.Spelled) : p.toText ≠ [] := by
  obtain ⟨anchor, names⟩ := p
  cases anchor with
  | root => cases names <;> exact List.cons_ne_nil _ _
  | doubleRoot => cases names <;> exact List.cons_ne_nil _ _
  | relative =>
      cases names with
      | nil => exact List.cons_ne_nil _ _
      | cons name rest =>
          obtain ⟨c, letters, rfl⟩ :=
            List.exists_cons_of_ne_nil (spelled name List.mem_cons_self).1
          simp [toText, Anchor.toText, Text.joinWith_cons]

end Path

namespace Host

variable {host : Host} {p : Path} {spot : Spot}

theorem find_eq_ok_iff {t : Text} :
    host.find t = .ok spot ↔
      t ≠ [] ∧ t.isNameable = true ∧ isLongPath t = false ∧
        host.files.Leads linkLimit (beginning host.cwd t) (components t) spot := by
  rw [find, ← FileSystem.walk_eq_ok_iff]
  by_cases void : t = []
  · simp [void]
  · by_cases nameable : t.isNameable = true
    · by_cases long : isLongPath t = true
      · simp [void, nameable, long]
      · simp [void, nameable, long]
    · simp [nameable]

/-- What a text leads to stands there. -/
theorem stands_of_find {t : Text} (found : host.find t = .ok spot) :
    host.files.get? spot.location = some spot.entry := by
  obtain ⟨-, -, -, leads⟩ := find_eq_ok_iff.mp found
  exact leads.stands

theorem isNameable_of_find {t : Text} (found : host.find t = .ok spot) : t.isNameable = true :=
  (find_eq_ok_iff.mp found).2.1

theorem at?_eq_some_iff : host.at? p = some spot ↔ host.find p.toText = .ok spot := by
  unfold at?
  cases host.find p.toText <;> simp [Except.toOption]

/-- What the text of a path leads to is what its names lead to. -/
theorem leads_of_find (spelled : p.Spelled) (found : host.find p.toText = .ok spot) :
    isLongPath p.toText = false ∧
      host.files.Leads linkLimit (p.start host.cwd) p.names spot := by
  obtain ⟨-, -, short, leads⟩ := find_eq_ok_iff.mp found
  obtain ⟨voids, split, void⟩ := Path.components_toText spelled
  rw [Path.beginning_toText spelled, split] at leads
  exact ⟨short, leads.of_voids void⟩

theorem find_of_leads (spelled : p.Spelled) (nameable : Nameable p.names)
    (short : isLongPath p.toText = false)
    (leads : host.files.Leads linkLimit (p.start host.cwd) p.names spot)
    (followed : p.names ≠ [] ∨ spot.entry.isDirectory = true) :
    host.find p.toText = .ok spot := by
  obtain ⟨voids, split, void⟩ := Path.components_toText spelled
  obtain ⟨members, stands⟩ := leads.begins followed
  refine find_eq_ok_iff.mpr
    ⟨Path.toText_ne_nil spelled, Path.isNameable_toText_iff.mpr nameable, short, ?_⟩
  rw [Path.beginning_toText spelled, split]
  exact leads.voids void stands

/-! ### Deep directories -/

/-- A name of as many octets as fit, with few characters. -/
def wideName : Text := List.replicate 63 0x10000

/-- Directories of that name, one inside of the other, with members of the last one. -/
def nested (members : Members) : Nat → Members
  | 0 => members
  | depth + 1 => [(wideName, .directory (nested members depth))]

theorem descend_nested (members : Members) (depth : Nat) (rest : Location) :
    (Entry.directory (nested members depth)).descend (List.replicate depth wideName ++ rest) =
      (Entry.directory members).descend rest := by
  induction depth with
  | zero => rfl
  | succ depth ih =>
      rw [nested, List.replicate_succ, List.cons_append, Entry.descend_directory_cons]
      simpa [Members.get?] using ih

/-- The path through some of them. -/
def nestedPath (depth : Nat) : Text := Text.joinWith [slash] (List.replicate depth wideName)

end Host

end NamespaceScan

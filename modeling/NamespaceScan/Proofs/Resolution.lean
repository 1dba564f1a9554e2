import NamespaceScan.Proofs.Lookup

/-!
# Resolved locations

A path is resolved to a location. Names that lead to an entry without passing a link are
resolved to themselves. In general a path is resolved by way of its own names and of the targets
of links, so when all of these can name files, the resolution fails at most because too many
links would have to be entered one inside of the other.
-/

namespace NamespaceScan

namespace Resolution

variable {ask : LinkReader} {enter : Path → Text → MetLinks → Except Fault Resolution}
  {place : Path} {links : MetLinks} {names : List Text}

/-! ## Names past no link -/

/-- Names are kept as they are when no link stands on their way. -/
theorem followWith_of_plain (ordinary : ∀ name ∈ names, IsOrdinary name)
    (plain : ∀ front, front <+: names →
      ask { place with names := place.names ++ front } = .ok none) :
    followWith ask enter place links names =
      .ok ⟨{ place with names := place.names ++ names }, true, links⟩ := by
  induction names generalizing place with
  | nil => rw [followWith, List.append_nil]
  | cons name rest ih =>
      obtain ⟨first, others⟩ := List.forall_mem_cons.mp ordinary
      have next : ask (place.child name) = .ok none :=
        plain [name] (List.cons_prefix_cons.mpr ⟨rfl, List.nil_prefix⟩)
      rw [followWith, if_neg first.1, if_neg first.2, next]
      refine (ih others fun front isFront => ?_).trans ?_
      · have longer := plain (name :: front) (List.cons_prefix_cons.mpr ⟨rfl, isFront⟩)
        rwa [List.append_cons] at longer
      · rw [Path.child, ← List.append_cons]

theorem follow_of_plain (depth : Nat) (ordinary : ∀ name ∈ names, IsOrdinary name)
    (plain : ∀ front, front <+: names →
      ask { place with names := place.names ++ front } = .ok none) :
    follow ask depth place names links =
      .ok ⟨{ place with names := place.names ++ names }, true, links⟩ := by
  cases depth <;> exact followWith_of_plain ordinary plain

/-! ## Names along the way -/

section Within

variable (good : Text → Prop) (expected : Fault → Prop)

/-- All that is known of links leads to places with good names. -/
def LinksWithin (links : MetLinks) : Prop :=
  ∀ known ∈ links, ∀ p, known.2 = some p → ∀ name ∈ p.names, good name

variable {good expected}

theorem names_up (placeGood : ∀ name ∈ place.names, good name) (goodAbove : good above) :
    ∀ name ∈ place.up.names, good name := by
  have more : ∀ name ∈ (place.child above).names, good name :=
    List.forall_mem_append.mpr ⟨placeGood, List.forall_mem_singleton.mpr goodAbove⟩
  unfold Path.up
  split
  · split
    · exact placeGood
    · exact more
  · split
    · exact more
    · exact fun name member => placeGood name ((List.dropLast_sublist _).subset member)

theorem names_toward (placeGood : ∀ name ∈ place.names, good name) (target : Text) :
    ∀ name ∈ (place.toward target).names, good name := by
  unfold Path.toward
  split
  · exact List.forall_mem_nil _
  · exact placeGood

theorem LinksWithin.cons {p : Path} {known : Option Path} (within : LinksWithin good links)
    (new : ∀ q, known = some q → ∀ name ∈ q.names, good name) :
    LinksWithin good ((p, known) :: links) :=
  List.forall_mem_cons.mpr ⟨new, within⟩

end Within

end Resolution

namespace FileSystem

variable {fs : FileSystem} {place : Location} {entry : Entry}

/-- Following the names of a location stops at most because one of them is too long. -/
theorem walkFrom_of_get? {enter : Location → Text → List Text → Except Obstacle Spot}
    {back : Location} (stands : fs.get? (place ++ back) = some entry)
    (plain : entry.isLink = false) (ordinary : ∀ name ∈ back, IsOrdinary name) :
    fs.walkFrom enter place back = .ok ⟨place ++ back, entry⟩ ∨
      fs.walkFrom enter place back = .error .nameTooLong := by
  induction back generalizing place with
  | nil =>
      rw [List.append_nil] at stands ⊢
      exact Or.inl (walkFrom_nil stands)
  | cons name rest ih =>
      obtain ⟨first, others⟩ := List.forall_mem_cons.mp ordinary
      obtain ⟨members, directory⟩ := get?_of_get?_append_cons stands
      obtain ⟨next, found, passed⟩ := get?_of_get?_of_plain stands plain
      rw [walkFrom_cons_ordinary directory first]
      by_cases long : isLongName name = true
      · exact Or.inr (if_pos long)
      · rw [if_neg long, found]
        rw [List.append_cons] at stands
        rw [List.append_cons place name rest]
        cases next with
        | link target => cases passed
        | file octets => exact ih stands others
        | directory members => exact ih stands others

theorem walkFrom_voids {enter : Location → Text → List Text → Except Obstacle Spot}
    {members : Members} {voids : List Text} (stands : fs.get? place = some (.directory members))
    (void : ∀ name ∈ voids, name = [] ∨ name = here) (names : List Text) :
    fs.walkFrom enter place (voids ++ names) = fs.walkFrom enter place names := by
  induction voids with
  | nil => rfl
  | cons name voids ih =>
      obtain ⟨first, others⟩ := List.forall_mem_cons.mp void
      rw [List.cons_append, walkFrom_cons_void stands first, ih others]

theorem link?_eq_some_iff {l : Location} {target : Text} :
    fs.link? l = some target ↔ fs.get? l = some (.link target) := by
  unfold link?
  split
  · rename_i stands
    simp [stands]
  · rename_i noLink
    exact iff_of_false nofun (noLink target)

theorem link?_of_not_isLink {l : Location} (stands : fs.get? l = some entry)
    (plain : entry.isLink = false) : fs.link? l = none := by
  rw [link?, stands]
  cases entry with
  | link target => cases plain
  | file octets => rfl
  | directory members => rfl

/-- No link stands on the way to what is none itself. -/
theorem link?_of_prefix {front l : Location} (stands : fs.get? l = some entry)
    (plain : entry.isLink = false) (isFront : front <+: l) : fs.link? front = none := by
  obtain ⟨rest, rfl⟩ := isFront
  cases rest with
  | nil =>
      rw [List.append_nil] at stands
      exact link?_of_not_isLink stands plain
  | cons name rest =>
      obtain ⟨members, directory⟩ := get?_of_get?_append_cons stands
      exact link?_of_not_isLink directory rfl

end FileSystem

/-! ## Hosts -/

theorem Location.of_mem_foldl_step {names : List Text} {place : Location} {name : Text}
    (member : name ∈ names.foldl step place) : name ∈ place ∨ name ∈ names := by
  induction names generalizing place with
  | nil => exact Or.inl member
  | cons next rest ih =>
      rcases ih member with before | later
      · unfold step at before
        split at before
        · exact Or.inl before
        · split at before
          · exact Or.inl ((List.dropLast_sublist place).subset before)
          · rcases List.mem_append.mp before with old | new
            · exact Or.inl old
            · exact Or.inr (List.mem_singleton.mp new ▸ List.mem_cons_self)
      · exact Or.inr (List.mem_cons_of_mem next later)

namespace Host

variable {host : Host} {p : Path} {l : Location} {entry : Entry} {fault : Fault}
  {good : Text → Prop} {expected : Fault → Prop}

theorem linkAt_of_nameable (nameable : Nameable p.names) :
    host.linkAt p =
      .ok (if isLongPath p.toText then none else host.files.link? (p.reach host.cwd)) := by
  rw [linkAt, pathFault?_eq_none_iff.mpr (Path.isNameable_toText_iff.mpr nameable)]

theorem follow_ofLocation (stands : host.files.get? l = some entry)
    (plain : entry.isLink = false) (named : ∀ name ∈ l, IsName name) :
    host.follow (Path.ofLocation l) = .ok l := by
  have ordinary : ∀ name ∈ l, IsOrdinary name := fun name member => (named name member).isOrdinary
  have nameable : Nameable l := Path.nameable_of_isName named
  have reached : ∀ front : Location, front <+: l →
      ({ anchor := .root, names := front } : Path).reach host.cwd = front := by
    intro front isFront
    exact Location.foldl_step_of_isOrdinary fun name member => ordinary name (isFront.subset member)
  have noLink : ∀ front : Location, front <+: l →
      host.linkAt { anchor := .root, names := [] ++ front } = .ok none := by
    intro front isFront
    rw [linkAt_of_nameable fun name member => nameable name (isFront.subset member),
      List.nil_append, reached front isFront, FileSystem.link?_of_prefix stands plain isFront,
      ite_self]
  have resolved : Resolution.follow host.linkAt host.nesting.links { anchor := .root } l [] =
      .ok ⟨{ anchor := .root, names := [] ++ l }, true, []⟩ :=
    Resolution.follow_of_plain host.nesting.links ordinary noLink
  unfold follow followWith
  rw [show (Path.ofLocation l).origin = { anchor := .root } from rfl,
    show (Path.ofLocation l).names = l from rfl, resolved]
  dsimp only [List.nil_append]
  rw [reached l (List.prefix_refl l),
    pathFault?_eq_none_iff.mpr (Location.isNameable_toText_iff.mpr nameable)]

theorem resolve_eq_ok_iff :
    host.resolve p = .ok l ↔
      host.follow p = .ok l ∧ host.find (Location.toText l) ≠ .error .tooManyLinks := by
  unfold resolve
  cases host.follow p with
  | error fault => simp
  | ok location =>
      dsimp only
      split
      · rename_i loops
        refine iff_of_false nofun ?_
        rintro ⟨⟨⟩, reached⟩
        exact reached loops
      · rename_i reached
        rw [Except.ok.injEq]
        refine ⟨?_, And.left⟩
        rintro rfl
        exact ⟨rfl, reached⟩

/-- The text of a location leads to what stands there, unless it is too long. -/
theorem find_toText_of_get? (stands : host.files.get? l = some entry)
    (plain : entry.isLink = false) (named : ∀ name ∈ l, IsName name) :
    host.find (Location.toText l) = .ok ⟨l, entry⟩ ∨
      host.find (Location.toText l) = .error .nameTooLong := by
  have spelled := Path.spelled_ofLocation named
  have start := Path.beginning_toText spelled host.cwd
  obtain ⟨voids, split, void⟩ := Path.components_toText spelled
  rw [Path.toText_ofLocation] at start split
  have usable : ¬ (Location.toText l = [] ∨ (Location.toText l).isNameable = false) := by
    have nameable : (Location.toText l).isNameable = true :=
      Location.isNameable_toText_iff.mpr (Path.nameable_of_isName named)
    rw [nameable]
    exact not_or.mpr ⟨List.cons_ne_nil _ _, nofun⟩
  by_cases long : isLongPath (Location.toText l) = true
  · right
    rw [find, if_neg usable, if_pos long]
  · rw [find, if_neg usable, if_neg long, start, split, FileSystem.walk_eq_walkFrom]
    have root : host.files.get? [] = some (.directory host.files.members) := rfl
    have ordinary : ∀ name ∈ l, IsOrdinary name := fun name member =>
      (named name member).isOrdinary
    rw [show (Path.ofLocation l).start host.cwd = [] from rfl,
      FileSystem.walkFrom_voids root void]
    have fromRoot : host.files.get? ([] ++ l) = some entry := stands
    exact FileSystem.walkFrom_of_get? fromRoot plain ordinary

/-- A location where something stands that is no link is resolved to itself. -/
theorem resolve_ofLocation (stands : host.files.get? l = some entry)
    (plain : entry.isLink = false) (named : ∀ name ∈ l, IsName name) :
    host.resolve (Path.ofLocation l) = .ok l := by
  refine resolve_eq_ok_iff.mpr ⟨follow_ofLocation stands plain named, ?_⟩
  rcases find_toText_of_get? stands plain named with reached | long
  · simp [reached]
  · simp [long]

end Host

end NamespaceScan

import Mathlib.Data.Nat.Find
import NamespaceScan.Proofs.Resolution

/-!
# Resolved paths

A path that leads to an entry is resolved to the location of the entry, if all links on its way
can be seen. The two ways to follow links differ in how they end: one gives up after a number of
links, the other one at a link that is met while it is being followed. On a way that leads
somewhere no link is met inside of itself, because it would have to be followed with fewer links
than it takes. Nor do the calls become too deep: each link that is entered leaves one less to
follow, and enough of them can be entered for every way that is not given up.
-/

namespace NamespaceScan

/-! ## Written paths -/

namespace Path

variable {p : Path} {cwd : Location} {name target : Text}

/-- The path is written with names of entries and double dots only. -/
def Walked (p : Path) : Prop := ∀ name ∈ p.names, IsOrdinary name ∨ name = above

theorem walked_origin (p : Path) : p.origin.Walked := List.forall_mem_nil _

theorem Walked.child (walked : p.Walked) (ordinary : IsOrdinary name) : (p.child name).Walked :=
  List.forall_mem_append.mpr ⟨walked, List.forall_mem_singleton.mpr (Or.inl ordinary)⟩

theorem Walked.up (walked : p.Walked) : p.up.Walked := Resolution.names_up walked (Or.inr rfl)

theorem Walked.toward (walked : p.Walked) (target : Text) : (p.toward target).Walked :=
  Resolution.names_toward walked target

theorem reach_origin (p : Path) (cwd : Location) : p.origin.reach cwd = p.start cwd := by
  unfold reach origin start isAbsolute
  split <;> simp_all

theorem reach_child (p : Path) (cwd : Location) (name : Text) :
    (p.child name).reach cwd = Location.step (p.reach cwd) name :=
  List.foldl_append

theorem reach_child_of_isOrdinary (p : Path) (cwd : Location) (ordinary : IsOrdinary name) :
    (p.child name).reach cwd = p.reach cwd ++ [name] := by
  rw [reach_child, Location.step_of_isOrdinary ordinary]

theorem reach_child_above (p : Path) (cwd : Location) :
    (p.child above).reach cwd = (p.reach cwd).dropLast := by
  rw [reach_child, Location.step_above]

/-- A double dot leads one directory up on a path that is written in this way. -/
theorem Walked.reach_up (walked : p.Walked) (cwd : Location) :
    p.up.reach cwd = (p.reach cwd).dropLast := by
  unfold Path.up
  split
  · rename_i none
    rw [List.getLast?_eq_none_iff] at none
    split
    · rename_i absolute
      simp [reach, none, start, absolute]
    · exact reach_child_above p cwd
  · rename_i last some
    split
    · exact reach_child_above p cwd
    · rename_i notAbove
      obtain ⟨front, names⟩ := List.getLast?_eq_some_iff.mp some
      have listed : last ∈ p.names := names ▸ List.mem_append_right front List.mem_cons_self
      have split : p.names = p.names.dropLast ++ [last] := by rw [names, List.dropLast_concat]
      have whole : p = p.parent.child last := congrArg (Path.mk p.anchor) split
      have ordinary : IsOrdinary last := (walked last listed).resolve_right notAbove
      have shorter := congrArg List.dropLast (reach_child_of_isOrdinary p.parent cwd ordinary)
      rw [List.dropLast_concat, ← whole] at shorter
      exact shorter.symm

theorem reach_toward (p : Path) (cwd : Location) (target : Text) :
    (p.toward target).reach cwd = beginning (p.reach cwd) target := by
  unfold toward beginning
  split
  · rfl
  · rfl

end Path

namespace Resolution

variable {ask : LinkReader} {links : MetLinks} {p place other : Path} {known : Option Path}
  {name target : Text} {rest : List Text} {depth : Nat}

/-! ## One name -/

@[simp]
theorem known?_nil : known? [] p = none :=
  rfl

@[simp]
theorem known?_cons_self : known? ((p, known) :: links) p = some known := by
  simp [known?]

theorem known?_cons_of_ne (apart : other ≠ p) :
    known? ((p, known) :: links) other = known? links other := by
  simp [known?, apart.symm]

/-- What is done at a link that was not met before. -/
def entering (ask : LinkReader) : Nat → Path → Text → MetLinks → Except Fault Resolution
  | 0, _, _, _ => .error .tooDeep
  | depth + 1, place, target, links =>
    follow ask depth (place.toward target) (components target) links

theorem follow_eq_followWith (ask : LinkReader) (depth : Nat) (place : Path) (names : List Text)
    (links : MetLinks) :
    follow ask depth place names links =
      followWith ask (entering ask depth) place links names := by
  cases depth <;> rfl

theorem follow_nil : follow ask depth place [] links = .ok ⟨place, true, links⟩ := by
  rw [follow_eq_followWith, followWith]

theorem follow_cons_void (void : name = [] ∨ name = here) :
    follow ask depth place (name :: rest) links = follow ask depth place rest links := by
  rw [follow_eq_followWith, follow_eq_followWith, followWith, if_pos void]

theorem follow_cons_above :
    follow ask depth place (above :: rest) links = follow ask depth place.up rest links := by
  have named : ¬ (above = [] ∨ above = here) := by decide
  rw [follow_eq_followWith, follow_eq_followWith, followWith, if_neg named, if_pos rfl]

theorem follow_cons_plain (ordinary : IsOrdinary name) (plain : ask (place.child name) = .ok none) :
    follow ask depth place (name :: rest) links =
      follow ask depth (place.child name) rest links := by
  rw [follow_eq_followWith, follow_eq_followWith, followWith, if_neg ordinary.1,
    if_neg ordinary.2, plain]

theorem follow_cons_known (ordinary : IsOrdinary name)
    (isLink : ask (place.child name) = .ok (some target))
    (met : known? links (place.child name) = some (some other)) :
    follow ask depth place (name :: rest) links = follow ask depth other rest links := by
  rw [follow_eq_followWith, follow_eq_followWith, followWith, if_neg ordinary.1,
    if_neg ordinary.2, isLink]
  simp only [met]

theorem follow_cons_new {inner : MetLinks} (ordinary : IsOrdinary name)
    (isLink : ask (place.child name) = .ok (some target))
    (new : known? links (place.child name) = none)
    (entered : follow ask depth (place.toward target) (components target)
      ((place.child name, none) :: links) = .ok ⟨other, true, inner⟩) :
    follow ask (depth + 1) place (name :: rest) links =
      follow ask (depth + 1) other rest ((place.child name, some other) :: inner) := by
  rw [follow_eq_followWith, follow_eq_followWith, followWith, if_neg ordinary.1,
    if_neg ordinary.2, isLink]
  simp only [new, entering, entered, if_true]

end Resolution

namespace FileSystem

open Resolution

variable {fs : FileSystem} {cwd l : Location} {links : MetLinks} {pending : List Path}
  {p place : Path} {name target : Text} {rest names : List Text} {depth budget : Nat} {spot : Spot}

/-- Tells of the link at every path, however long it is. -/
def linkReader (fs : FileSystem) (cwd : Location) : LinkReader :=
  fun p => .ok (fs.link? (p.reach cwd))

/-! ## Links that are being followed -/

/-- The target of the link at a location leads nowhere with fewer links than the given number. -/
def Stalls (fs : FileSystem) (budget : Nat) (l : Location) : Prop :=
  ∀ place name target, l = place ++ [name] → fs.get? l = some (.link target) →
    ∀ fewer < budget, ∀ spot, ¬ fs.Leads fewer (beginning place target) (components target) spot

/-- The target of the link at a location leads to another one. -/
def LinksTo (fs : FileSystem) (l other : Location) : Prop :=
  ∀ place name target, l = place ++ [name] → fs.get? l = some (.link target) →
    ∃ enough spot, fs.Leads enough (beginning place target) (components target) spot ∧
      spot.location = other

/-- What is known of links is right: those of which only that is known that they were met are
being followed, and the others lead where they are said to lead. -/
structure Records (fs : FileSystem) (cwd : Location) (links : MetLinks) (pending : List Path) :
    Prop where
  entered : ∀ p, known? links p = some none → p ∈ pending
  settled : ∀ p other, known? links p = some (some other) →
    other.Walked ∧ fs.LinksTo (p.reach cwd) (other.reach cwd)

theorem records_nil : fs.Records cwd [] [] := ⟨nofun, nofun⟩

/-- Names that lead somewhere do so with a least number of links. -/
theorem Leads.exists_least (leads : fs.Leads budget l names spot) :
    ∃ least ≤ budget, fs.Leads least l names spot ∧
      ∀ fewer < least, ∀ other, ¬ fs.Leads fewer l names other := by
  classical
  have somewhere : ∃ enough other, fs.Leads enough l names other := ⟨budget, spot, leads⟩
  obtain ⟨other, way⟩ := Nat.find_spec somewhere
  cases leads.unique way
  refine ⟨Nat.find somewhere, Nat.find_min' somewhere ⟨spot, leads⟩, way, ?_⟩
  intro fewer less other way
  exact Nat.find_min somewhere less ⟨other, way⟩

theorem Stalls.mono (stalls : fs.Stalls budget l) {fewer : Nat} (le : fewer ≤ budget) :
    fs.Stalls fewer l :=
  fun place name target ends isLink few lt =>
    stalls place name target ends isLink few (Nat.lt_of_lt_of_le lt le)

theorem stalls_concat (isLink : fs.get? (l ++ [name]) = some (.link target))
    (minimal : ∀ fewer < budget, ∀ spot,
      ¬ fs.Leads fewer (beginning l target) (components target) spot) :
    fs.Stalls budget (l ++ [name]) := by
  intro place other otherTarget ends stands
  obtain ⟨rfl, sameName⟩ := List.append_inj' ends rfl
  cases sameName
  cases isLink.symm.trans stands
  exact minimal

theorem linksTo_concat {enough : Nat} (isLink : fs.get? (l ++ [name]) = some (.link target))
    (way : fs.Leads enough (beginning l target) (components target) spot) :
    fs.LinksTo (l ++ [name]) spot.location := by
  intro place other otherTarget ends stands
  obtain ⟨rfl, sameName⟩ := List.append_inj' ends rfl
  cases sameName
  cases isLink.symm.trans stands
  exact ⟨enough, spot, way, rfl⟩

/-- A link is met for the first time. -/
theorem Records.enter (records : fs.Records cwd links pending) (p : Path) :
    fs.Records cwd ((p, none) :: links) (p :: pending) where
  entered other met := by
    by_cases same : other = p
    · exact same ▸ List.mem_cons_self
    · rw [known?_cons_of_ne same] at met
      exact List.mem_cons_of_mem p (records.entered other met)
  settled other known met := by
    by_cases same : other = p
    · subst same
      simp at met
    · rw [known?_cons_of_ne same] at met
      exact records.settled other known met

/-- A link was followed to its end. -/
theorem Records.settle {known : Path} (records : fs.Records cwd links (p :: pending))
    (walked : known.Walked) (way : fs.LinksTo (p.reach cwd) (known.reach cwd)) :
    fs.Records cwd ((p, some known) :: links) pending where
  entered other met := by
    by_cases same : other = p
    · subst same
      simp at met
    · rw [known?_cons_of_ne same] at met
      exact (List.mem_cons.mp (records.entered other met)).resolve_left same
  settled other place met := by
    by_cases same : other = p
    · subst same
      rw [known?_cons_self, Option.some.injEq, Option.some.injEq] at met
      exact met ▸ ⟨walked, way⟩
    · rw [known?_cons_of_ne same] at met
      exact records.settled other place met

/-! ## Ways -/

/-- The names are resolved from a path to another one that leads to the entry. -/
def ResolvesTo (fs : FileSystem) (cwd : Location) (depth : Nat) (place : Path) (names : List Text)
    (links : MetLinks) (pending : List Path) (spot : Spot) : Prop :=
  ∃ p later, follow (fs.linkReader cwd) depth place names links = .ok ⟨p, true, later⟩ ∧
    p.Walked ∧ p.reach cwd = spot.location ∧ fs.Records cwd later pending

/-- Ways with at most so many links are resolved. -/
def ResolvesUpTo (fs : FileSystem) (cwd : Location) (budget : Nat) : Prop :=
  ∀ few ≤ budget, ∀ {depth place links names pending spot},
    fs.Leads few (place.reach cwd) names spot → place.Walked →
      (∀ p ∈ pending, fs.Stalls few (p.reach cwd)) → fs.Records cwd links pending →
        few ≤ depth → fs.ResolvesTo cwd depth place names links pending spot

section Link

variable {fewer : Nat} {middle : Spot} (shorter : fs.ResolvesUpTo cwd fewer)
  (isLink : fs.get? (place.reach cwd ++ [name]) = some (.link target))
  (ordinary : IsOrdinary name)
  (way : fs.Leads fewer (beginning (place.reach cwd) target) (components target) middle)
  (behind : fs.Leads fewer middle.location rest spot)
  (stalls : ∀ p ∈ pending, fs.Stalls fewer (p.reach cwd))
  (records : fs.Records cwd links pending) (deep : fewer + 1 ≤ depth)

include shorter isLink ordinary way behind stalls records deep

/-- A link that was followed before is not followed again. -/
theorem resolvesTo_of_settled {known : Path}
    (met : known? links (place.child name) = some (some known)) :
    fs.ResolvesTo cwd depth place (name :: rest) links pending spot := by
  have reached := Path.reach_child_of_isOrdinary place cwd ordinary
  have told : fs.linkReader cwd (place.child name) = .ok (some target) := by
    rw [linkReader, reached, link?_eq_some_iff.mpr isLink]
  obtain ⟨knownWalked, linked⟩ := records.settled _ _ met
  rw [reached] at linked
  obtain ⟨enough, spot, same, ends⟩ := linked _ _ _ rfl isLink
  cases way.unique same
  rw [ends] at behind
  have resolved := shorter fewer (Nat.le_refl _) behind knownWalked stalls records
    (Nat.le_of_succ_le deep)
  rwa [ResolvesTo, ← follow_cons_known ordinary told met] at resolved

/-- A link that was not met before is followed with the least number of links that is enough. -/
theorem resolvesTo_of_unmet (walked : place.Walked)
    (met : known? links (place.child name) = none) :
    fs.ResolvesTo cwd depth place (name :: rest) links pending spot := by
  have reached := Path.reach_child_of_isOrdinary place cwd ordinary
  have told : fs.linkReader cwd (place.child name) = .ok (some target) := by
    rw [linkReader, reached, link?_eq_some_iff.mpr isLink]
  obtain ⟨least, le, shortest, minimal⟩ := way.exists_least
  obtain ⟨deeper, rfl⟩ : ∃ deeper, depth = deeper + 1 :=
    Nat.exists_eq_add_of_le' (Nat.le_trans (Nat.le_add_left 1 fewer) deep)
  have room : fewer ≤ deeper := Nat.le_of_succ_le_succ deep
  have inside : ∀ p ∈ place.child name :: pending, fs.Stalls least (p.reach cwd) := by
    refine List.forall_mem_cons.mpr ⟨?_, fun p member => (stalls p member).mono le⟩
    rw [reached]
    exact stalls_concat isLink minimal
  rw [← Path.reach_toward] at shortest
  obtain ⟨p, inner, entered, pWalked, ends, innerRecords⟩ :=
    shorter least le shortest (walked.toward target) inside (records.enter _)
      (Nat.le_trans le room)
  have linked : fs.LinksTo ((place.child name).reach cwd) (p.reach cwd) := by
    rw [reached, ends]
    exact linksTo_concat isLink way
  rw [← ends] at behind
  have resolved := shorter fewer (Nat.le_refl _) behind pWalked stalls
    (innerRecords.settle pWalked linked) (Nat.le_of_succ_le deep)
  rwa [ResolvesTo, ← follow_cons_new ordinary told met entered] at resolved

end Link

/-- One link on a way, given that ways with fewer links are resolved. -/
theorem resolvesTo_cons_of_follow {fewer : Nat} (shorter : fs.ResolvesUpTo cwd fewer)
    (isLink : fs.get? (place.reach cwd ++ [name]) = some (.link target))
    (ordinary : IsOrdinary name)
    (onward : fs.Leads fewer (beginning (place.reach cwd) target) (components target ++ rest) spot)
    (walked : place.Walked) (stalls : ∀ p ∈ pending, fs.Stalls (fewer + 1) (p.reach cwd))
    (records : fs.Records cwd links pending) (deep : fewer + 1 ≤ depth) :
    fs.ResolvesTo cwd depth place (name :: rest) links pending spot := by
  obtain ⟨middle, way, behind⟩ := onward.split
  have fewerStalls : ∀ p ∈ pending, fs.Stalls fewer (p.reach cwd) :=
    fun p member => (stalls p member).mono (Nat.le_succ fewer)
  cases met : known? links (place.child name) with
  | none =>
      exact resolvesTo_of_unmet shorter isLink ordinary way behind fewerStalls records deep
        walked met
  | some known =>
      cases known with
      | some known =>
          exact resolvesTo_of_settled shorter isLink ordinary way behind fewerStalls records deep
            met
      | none =>
          -- The link is met inside of itself, although it can be followed.
          have stuck := stalls _ (records.entered _ met)
          rw [Path.reach_child_of_isOrdinary place cwd ordinary] at stuck
          exact absurd way (stuck _ _ _ rfl isLink fewer (Nat.lt_succ_self _) middle)

/-- Names that lead to an entry are resolved to its location, whatever is known of links. -/
theorem resolvesTo_of_leads (leads : fs.Leads budget (place.reach cwd) names spot)
    (walked : place.Walked) (stalls : ∀ p ∈ pending, fs.Stalls budget (p.reach cwd))
    (records : fs.Records cwd links pending) (deep : budget ≤ depth) :
    fs.ResolvesTo cwd depth place names links pending spot := by
  -- A link is entered with fewer links to follow; other names are passed one at a time.
  induction budget using Nat.strongRecOn generalizing depth place names links pending spot with
  | ind budget shorter =>
      induction names generalizing place with
      | nil =>
          generalize reached : place.reach cwd = l at leads
          cases leads with
          | arrived stands => exact ⟨place, links, follow_nil, walked, reached, records⟩
      | cons name rest ih =>
          generalize reached : place.reach cwd = l at leads
          cases leads with
          | stay stands void onward =>
              have resolved := ih (reached ▸ onward) walked
              rwa [ResolvesTo, ← follow_cons_void void] at resolved
          | up stands onward =>
              rw [← reached, ← walked.reach_up cwd] at onward
              have resolved := ih onward walked.up
              rwa [ResolvesTo, ← follow_cons_above] at resolved
          | down stands plain ordinary short onward =>
              rw [← reached, ← Path.reach_child_of_isOrdinary place cwd ordinary] at stands onward
              have told : fs.linkReader cwd (place.child name) = .ok none := by
                rw [linkReader, link?_of_not_isLink stands plain]
              have resolved := ih onward (walked.child ordinary)
              rwa [ResolvesTo, ← follow_cons_plain ordinary told] at resolved
          | @follow fewer _ target _ _ _ stands ordinary short onward =>
              subst reached
              refine resolvesTo_cons_of_follow ?_ stands ordinary onward walked stalls records deep
              intro few le depth place links names pending spot leads walked stalls records deep
              exact shorter few (Nat.lt_succ_of_le le) leads walked stalls records deep

end FileSystem

/-! ## Hosts -/

namespace Host

variable {host : Host} {p : Path} {spot : Spot}

/-- The length of paths hides no link from the resolution of a path. -/
def SeesLinks (host : Host) (p : Path) : Prop :=
  host.follow p = host.followWith (host.files.linkReader host.cwd) p

/-- A path that leads to an entry is resolved to the location of the entry, when the links on its
way are seen. -/
theorem follow_of_find (spelled : p.Spelled) (found : host.find p.toText = .ok spot)
    (nameable : Nameable spot.location) (sees : host.SeesLinks p) :
    host.follow p = .ok spot.location := by
  obtain ⟨-, leads⟩ := leads_of_find spelled found
  rw [← Path.reach_origin] at leads
  obtain ⟨place, later, resolved, -, ends, -⟩ := FileSystem.resolvesTo_of_leads leads
    p.walked_origin (List.forall_mem_nil _) FileSystem.records_nil host.nesting.enough
  rw [sees, followWith, resolved]
  dsimp only
  rw [ends, pathFault?_eq_none_iff.mpr (Location.isNameable_toText_iff.mpr nameable)]

end Host

end NamespaceScan

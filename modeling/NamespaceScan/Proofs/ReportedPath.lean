import Mathlib.Data.List.Induction
import NamespaceScan.Dependencies
import NamespaceScan.Proofs.Lookup

/-!
# Reported paths lead back

A file is reported by the way from a base to it: up to where the ways to both part, then down.
Behind the names of the base, these names lead to the file again when links do not matter. So the
report names the file, and two files have the same report only if they have the same path.
-/

namespace NamespaceScan

namespace Location

variable {place front base target up names : Location} {name : Text}

/-! ## Following names -/

/-- As many double dots as there are names behind the others lead up to those. -/
theorem foldl_step_replicate_above :
    (List.replicate up.length above).foldl step (front ++ up) = front := by
  induction up using List.reverseRecOn with
  | nil => rw [List.length_nil, List.replicate_zero, List.foldl_nil, List.append_nil]
  | append_singleton up name ih =>
      rw [List.length_append, List.length_singleton, List.replicate_succ, List.foldl_cons,
        step_above, ← List.append_assoc, List.dropLast_concat, ih]

theorem collapse_append (front back : List Text) :
    collapse (front ++ back) = back.foldl step (collapse front) :=
  List.foldl_append

theorem collapse_of_isOrdinary (ordinary : ∀ name ∈ names, IsOrdinary name) :
    collapse names = names :=
  foldl_step_of_isOrdinary ordinary

/-! ## The way from a base -/

/-- The place where the ways to two locations part: the names that both begin with. -/
structure IsFork (front base target : Location) : Prop where
  toBase : front <+: base
  toTarget : front <+: target
  deepest : ∀ other : Location, other <+: base → other <+: target → other <+: front

theorem IsFork.cons (fork : IsFork front base target) (name : Text) :
    IsFork (name :: front) (name :: base) (name :: target) where
  toBase := List.cons_prefix_cons.mpr ⟨rfl, fork.toBase⟩
  toTarget := List.cons_prefix_cons.mpr ⟨rfl, fork.toTarget⟩
  deepest other isBase isTarget := by
    cases other with
    | nil => exact List.nil_prefix
    | cons first rest =>
        obtain ⟨rfl, restBase⟩ := List.cons_prefix_cons.mp isBase
        obtain ⟨-, restTarget⟩ := List.cons_prefix_cons.mp isTarget
        exact List.cons_prefix_cons.mpr ⟨rfl, fork.deepest rest restBase restTarget⟩

/-- The ways part at the root when the locations begin with different names, or one has none. -/
theorem isFork_nil (apart : ∀ name more others, base = name :: more → target ≠ name :: others) :
    IsFork [] base target where
  toBase := List.nil_prefix
  toTarget := List.nil_prefix
  deepest other isBase isTarget := by
    cases other with
    | nil => exact List.nil_prefix
    | cons name rest =>
        obtain ⟨more, rfl⟩ := isBase
        obtain ⟨others, rfl⟩ := isTarget
        exact absurd rfl (apart name (rest ++ more) (rest ++ others) rfl)

/-- The steps lead up to the fork by double dots, and down from there by names. -/
theorem steps_cases (base target : Location) :
    ∃ front up down, IsFork front base target ∧ base = front ++ up ∧ target = front ++ down ∧
      steps base target = List.replicate up.length above ++ down := by
  fun_induction steps base target with
  | case1 target => exact ⟨[], [], target, isFork_nil nofun, rfl, rfl, rfl⟩
  | case2 base _ =>
      refine ⟨[], base, [], isFork_nil fun _ _ _ _ => nofun, rfl, rfl, ?_⟩
      rw [List.append_nil]
  | case3 base name target ih =>
      obtain ⟨front, up, down, fork, rfl, rfl, way⟩ := ih
      exact ⟨name :: front, up, down, fork.cons name, rfl, rfl, way⟩
  | case4 first base second target differ =>
      refine ⟨[], first :: base, second :: target, isFork_nil ?_, rfl, rfl, rfl⟩
      rintro name more others ⟨⟩ ⟨⟩
      exact differ rfl

theorem steps_self (base : Location) : steps base base = [] := by
  induction base with
  | nil => rfl
  | cons name rest ih => rw [steps, if_pos rfl, ih]

/-- No steps are needed from a base to itself only. -/
theorem steps_eq_nil_iff : steps base target = [] ↔ target = base := by
  constructor
  · intro stays
    obtain ⟨front, up, down, -, rfl, rfl, way⟩ := steps_cases base target
    obtain ⟨noneUp, rfl⟩ := List.append_eq_nil_iff.mp (way.symm.trans stays)
    rw [List.replicate_eq_nil_iff, List.length_eq_zero_iff] at noneUp
    rw [noneUp]
  · rintro rfl
    exact steps_self target

/-- The steps from a base, followed from the base, end at the target. -/
theorem collapse_append_steps (plainBase : ∀ name ∈ base, IsOrdinary name)
    (plain : ∀ name ∈ target, IsOrdinary name) : collapse (base ++ steps base target) = target := by
  obtain ⟨front, up, down, -, rfl, rfl, way⟩ := steps_cases base target
  obtain ⟨-, downPlain⟩ := List.forall_mem_append.mp plain
  rw [way, collapse_append, collapse_of_isOrdinary plainBase, List.foldl_append,
    foldl_step_replicate_above, foldl_step_of_isOrdinary downPlain]

end Location

/-! ## Reports -/

/-- The text of a relative path with names spells exactly these. -/
theorem Path.components_relative {names : List Text} (some : names ≠ [])
    (free : ∀ name ∈ names, slash ∉ name) : components (Path.toText { names }) = names := by
  have written : Path.toText { names } = Text.joinWith [slash] names := by
    rw [toText, if_neg fun void => some void.2]
    rfl
  rw [written, components, Text.splitOn_joinWith some free]

namespace Dependencies

variable {base target : Location} {d : Dependencies}

/-- The path of the file as it is reported from a base. -/
def reportFrom (cwd base : Location) (d : Dependencies) : Text :=
  (d.reportedPath cwd (some (Path.ofLocation base))).toText

section Placed

variable (cwd : Location) (placed : d.path = Path.ofLocation target)
  (plainBase : ∀ name ∈ base, IsPlainName name) (plain : ∀ name ∈ target, IsPlainName name)

include placed plainBase plain

theorem reportFrom_eq :
    d.reportFrom cwd base = Path.toText { names := Location.steps base target } := by
  have baseStands : (Path.ofLocation base).locate cwd = base :=
    Location.collapse_of_isOrdinary fun name member => (plainBase name member).1
  have targetStands : (Path.ofLocation target).locate cwd = target :=
    Location.collapse_of_isOrdinary fun name member => (plain name member).1
  rw [reportFrom, reportedPath, placed]
  dsimp only [Path.relativeTo]
  rw [baseStands, targetStands]

/-- A file is reported from its own place by a dot, and from any other base by the steps. -/
theorem reportFrom_cases :
    target = base ∧ d.reportFrom cwd base = here ∨
      target ≠ base ∧ components (d.reportFrom cwd base) = Location.steps base target := by
  rw [reportFrom_eq cwd placed plainBase plain]
  by_cases same : target = base
  · left
    rw [Location.steps_eq_nil_iff.mpr same]
    exact ⟨same, rfl⟩
  · right
    refine ⟨same, Path.components_relative (mt Location.steps_eq_nil_iff.mp same) ?_⟩
    obtain ⟨front, up, down, -, rfl, rfl, way⟩ := Location.steps_cases base target
    rw [way]
    refine List.forall_mem_append.mpr ⟨?_, fun name member => ?_⟩
    · intro name member
      rw [List.eq_of_mem_replicate member]
      decide
    · exact (plain name (List.mem_append_right front member)).2

/-- The report, followed from the base, ends at the file. -/
theorem collapse_reportFrom :
    Location.collapse (base ++ components (d.reportFrom cwd base)) = target := by
  have ordinaryBase : ∀ name ∈ base, IsOrdinary name := fun name member => (plainBase name member).1
  rcases reportFrom_cases cwd placed plainBase plain with ⟨rfl, dotted⟩ | ⟨-, spelt⟩
  · rw [dotted, Location.collapse_append, Location.collapse_of_isOrdinary ordinaryBase]
    rfl
  · rw [spelt]
    exact Location.collapse_append_steps ordinaryBase fun name member => (plain name member).1

theorem reportFrom_eq_here_iff : d.reportFrom cwd base = here ↔ target = base := by
  rcases reportFrom_cases cwd placed plainBase plain with ⟨same, dotted⟩ | ⟨apart, spelt⟩
  · exact iff_of_true dotted same
  · refine iff_of_false (fun dotted => ?_) apart
    -- A dot is none of the steps.
    have member : here ∈ Location.steps base target := by
      rw [← spelt, dotted]
      decide
    obtain ⟨front, up, down, -, rfl, rfl, way⟩ := Location.steps_cases base target
    rw [way] at member
    rcases List.mem_append.mp member with up | down
    · exact absurd (List.eq_of_mem_replicate up) (by decide)
    · exact (plain here (List.mem_append_right front down)).1.1 (Or.inr rfl)

end Placed

/-- A report names the file by the way from the base. Followed from the base it ends at the file; it
is a dot for the base itself and otherwise has a double dot for each name of the base beyond the
place where the ways part, then only plain names; and no file with another path has the same
report. -/
theorem report_leads_back (cwd base target : Location) (d : Dependencies)
    (placed : d.path = Path.ofLocation target) (plainBase : ∀ name ∈ base, IsPlainName name)
    (plain : ∀ name ∈ target, IsPlainName name) :
    Location.collapse (base ++ components (d.reportFrom cwd base)) = target ∧
      (d.reportFrom cwd base = here ↔ target = base) ∧
      (∃ front names, Location.IsFork front base target ∧
        (∀ name ∈ names, IsPlainName name) ∧
        (target ≠ base → components (d.reportFrom cwd base) =
          List.replicate (base.length - front.length) above ++ names)) ∧
      ∀ (other : Dependencies) (place : Location), other.path = Path.ofLocation place →
        (∀ name ∈ place, IsPlainName name) → other.reportFrom cwd base = d.reportFrom cwd base →
          other.path = d.path := by
  have leadsBack := collapse_reportFrom cwd placed plainBase plain
  refine ⟨leadsBack, reportFrom_eq_here_iff cwd placed plainBase plain, ?_, ?_⟩
  · have spelt : target ≠ base → components (d.reportFrom cwd base) = Location.steps base target :=
      fun apart => ((reportFrom_cases cwd placed plainBase plain).resolve_left fun own =>
        apart own.1).2
    obtain ⟨front, up, down, fork, rfl, rfl, way⟩ := Location.steps_cases base target
    refine ⟨front, down, fork, (List.forall_mem_append.mp plain).2, fun apart => ?_⟩
    rw [spelt apart, way, List.length_append, Nat.add_sub_cancel_left]
  · intro other place otherPlaced otherPlain same
    have otherLeadsBack := collapse_reportFrom cwd otherPlaced plainBase otherPlain
    rw [same, leadsBack] at otherLeadsBack
    rw [placed, otherPlaced, otherLeadsBack]

/-- A directory to report from. -/
def libraryBase : Location := ["app", "lib", "src"]

/-- A place beside it, in a directory whose name begins like the other one's. -/
def libraryPlace : Location := ["app", "library", "goog.js"]

theorem report_leads_back_libraryPlace :
    (∀ name ∈ libraryBase, IsName name) ∧ (∀ name ∈ libraryPlace, IsName name) ∧
      reportFrom [] libraryBase ⟨Path.ofLocation libraryPlace, ∅, []⟩ =
        "../../library/goog.js" ∧
      Location.collapse (libraryBase ++ components "../../library/goog.js") = libraryPlace := by
  have shown : reportFrom [] libraryBase ⟨Path.ofLocation libraryPlace, ∅, []⟩ =
      "../../library/goog.js" := by decide
  have namedBase : ∀ name ∈ libraryBase, IsName name := by decide
  have named : ∀ name ∈ libraryPlace, IsName name := by decide
  refine ⟨namedBase, named, shown, ?_⟩
  rw [← shown]
  exact (report_leads_back [] libraryBase libraryPlace _ rfl
    (fun name member => (namedBase name member).isPlainName)
    (fun name member => (named name member).isPlainName)).1

end Dependencies

end NamespaceScan

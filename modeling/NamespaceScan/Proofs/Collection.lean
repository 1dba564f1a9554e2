import NamespaceScan.Proofs.OrderedSet
import NamespaceScan.Proofs.Reading
import NamespaceScan.Proofs.Resolution
import NamespaceScan.Proofs.Traced
import NamespaceScan.Scanner

/-!
# Collected files

The files that paths stand for, in terms of what the host answers: a path is resolved and
looked at, and then it stands for itself or for what is found below it. Whatever is found
below a directory is made of names of the file system.
-/

namespace NamespaceScan

/-! ## Searching -/

namespace Search

variable {s : Search} {leads : Location → Bool}

mutual

/-- What is found at or below a member lies there under names. -/
theorem named_of_mem_found : {place : Location} → {name : Text} → {entry : Entry} →
    IsName name → entry.isWellNamed = true → ∀ file ∈ s.found leads place name entry,
      ∃ rest, file = place ++ rest ∧ ∀ other ∈ rest, IsName other
  | place, name, .file _, isName, _, file, member => by
      rw [found] at member
      split at member
      · exact ⟨[name], List.mem_singleton.mp member, List.forall_mem_singleton.mpr isName⟩
      · cases member
  | place, name, .link _, isName, _, file, member => by
      rw [found] at member
      split at member
      · exact ⟨[name], List.mem_singleton.mp member, List.forall_mem_singleton.mpr isName⟩
      · cases member
  | place, name, .directory members, isName, named, file, member => by
      rw [found] at member
      split at member
      · obtain ⟨rest, rfl, below⟩ := named_of_mem_foundAmong named file member
        exact ⟨name :: rest, by simp, List.forall_mem_cons.mpr ⟨isName, below⟩⟩
      · cases member

theorem named_of_mem_foundAmong : {place : Location} → {members : List (Text × Entry)} →
    Entry.areWellNamed members = true → ∀ file ∈ s.foundAmong leads place members,
      ∃ rest, file = place ++ rest ∧ ∀ other ∈ rest, IsName other
  | _, [], _, _, member => by cases member
  | _, (name, entry) :: rest, named, file, member => by
      obtain ⟨first, later⟩ := Bool.and_eq_true_iff.mp named
      obtain ⟨isName, below⟩ := Bool.and_eq_true_iff.mp first
      rw [foundAmong] at member
      rcases List.mem_append.mp member with here | there
      · exact named_of_mem_found (of_decide_eq_true isName) below file here
      · exact named_of_mem_foundAmong later file there

end

theorem outcome_run (s : Search) (host : Host) (p : Path) :
    (s.run host p).outcome =
      match host.resolve p with
      | .error fault => .error (.fault fault)
      | .ok l =>
        match host.look (Path.ofLocation l) with
        | .error fault => .error (.fault fault)
        | .ok spot =>
          if spot.any (·.entry.isDirectory) then (s.below host l).mapError .fault else .ok ∅ := by
  unfold run
  cases host.resolve p with
  | error fault => rfl
  | ok l =>
      cases seen : host.look (Path.ofLocation l) with
      | error fault => simp only [seen, Except.mapError, Traced.outcome_bind,
          Traced.outcome_ofExcept, Except.bind]
      | ok spot =>
          simp only [seen, Except.mapError, Traced.outcome_bind, Traced.outcome_ofExcept,
            Except.bind]
          split
          · cases s.below host l <;> rfl
          · rfl

end Search

/-! ## Paths -/

namespace Scanner

variable {s : Scanner} {host : Host}

theorem outcome_filesOf (s : Scanner) (host : Host) (raw : Text) :
    (s.filesOf host raw).outcome =
      match host.validate (Path.ofText raw) with
      | .error fault => .error (.fault fault)
      | .ok location =>
        match host.look (Path.ofLocation location) with
        | .error fault => .error (.fault fault)
        | .ok spot =>
          if spot.any (·.entry.isDirectory) then
            (s.search.run host (Path.ofLocation location)).outcome
          else if spot.any (·.entry.isFile) then .ok (OrderedSet.ofList [location])
          else .error (.failure (missing raw)) := by
  unfold filesOf
  cases host.validate (Path.ofText raw) with
  | error fault => rfl
  | ok location =>
      cases seen : host.look (Path.ofLocation location) with
      | error fault => simp only [seen, Except.mapError, Traced.outcome_bind,
          Traced.outcome_ofExcept, Except.bind]
      | ok spot =>
          simp only [seen, Except.mapError, Traced.outcome_bind, Traced.outcome_ofExcept,
            Except.bind]
          split
          · rw [Traced.outcome_bind]
            cases (s.search.run host (Path.ofLocation location)).outcome with
            | error problem => rfl
            | ok files =>
                simp only [Except.bind]
                split <;> rfl
          · split <;> rfl

theorem outcome_collect (s : Scanner) (host : Host) (paths : List Text) :
    (s.collect host paths).outcome =
      (Traced.forEach (s.filesOf host) paths).outcome.map (·.foldl OrderedSet.union ∅) := by
  rw [collect, Traced.outcome_bind]
  cases (Traced.forEach (s.filesOf host) paths).outcome <;> rfl

/-- Paths are collected when each of them stands for files, and then these are the collected
files. -/
theorem outcome_collect_eq_ok_iff {paths : List Text} {files : OrderedSet Location} :
    (s.collect host paths).outcome = .ok files ↔
      (∀ raw ∈ paths, ∃ found, (s.filesOf host raw).outcome = .ok found) ∧
        ∀ l, l ∈ files ↔
          ∃ raw ∈ paths, ∃ found, (s.filesOf host raw).outcome = .ok found ∧ l ∈ found := by
  rw [outcome_collect, ← Traced.exists_outcome_forEach_iff]
  cases each : (Traced.forEach (s.filesOf host) paths).outcome with
  | error problem => simp [Except.map]
  | ok sets =>
      have members : ∀ l, l ∈ sets.foldl OrderedSet.union ∅ ↔
          ∃ raw ∈ paths, ∃ found, (s.filesOf host raw).outcome = .ok found ∧ l ∈ found := by
        intro l
        rw [OrderedSet.mem_foldl_union_iff, or_iff_right (OrderedSet.not_mem_empty l)]
        constructor
        · rintro ⟨found, listed, inside⟩
          obtain ⟨raw, given, stood⟩ := (Traced.mem_of_outcome_forEach each).mp listed
          exact ⟨raw, given, found, stood, inside⟩
        · rintro ⟨raw, given, found, stood, inside⟩
          exact ⟨found, (Traced.mem_of_outcome_forEach each).mpr ⟨raw, given, stood⟩, inside⟩
      rw [Except.map, Except.ok.injEq, and_iff_right ⟨sets, rfl⟩]
      constructor
      · rintro rfl
        exact members
      · intro same
        exact OrderedSet.ext_mem fun l => (members l).trans (same l).symm

end Scanner

end NamespaceScan

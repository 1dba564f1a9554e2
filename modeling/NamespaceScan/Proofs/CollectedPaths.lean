import NamespaceScan.Proofs.ScanOrder
import NamespaceScan.Proofs.Collection

/-!
# Paths that are collected together

Which files are collected depends on which paths are given, not on their order or on how often
each of them is given. Two lists of paths stand together for the files that one of them stands
for. Where they overlap, nothing is added twice: a file that was found in a directory is
collected under the location that it is resolved to when it is named.
-/

namespace NamespaceScan

/-- Locations in order are paths in order. -/
theorem OrderedSet.increasing_paths (files : OrderedSet Location) :
    (files.toList.map Path.ofLocation).Pairwise (· < ·) := by
  rw [List.pairwise_map]
  exact files.increasing.imp Path.ofLocation_lt_ofLocation

/-- The text of a location is validated to the location, when something that is no link stands
there. -/
theorem Host.validate_toText {host : Host} {l : Location} {entry : Entry}
    (stands : host.files.get? l = some entry) (plain : entry.isLink = false)
    (named : ∀ name ∈ l, IsName name) :
    host.validate (Path.ofText (Location.toText l)) = .ok l := by
  rw [validate, Path.ofText_toText_ofLocation named]
  exact resolve_ofLocation stands plain named

namespace Scanner

variable {s : Scanner} {host : Host} {paths others : List Text} {files : OrderedSet Location}

/-- A file that is named by the text of its location stands for itself. -/
theorem outcome_filesOf_toText {file : Location} {octets : ByteArray}
    (named : host.files.WellNamed)
    (found : host.find (Location.toText file) = .ok ⟨file, .file octets⟩) :
    (s.filesOf host (Location.toText file)).outcome = .ok (OrderedSet.ofList [file]) := by
  have stands : host.files.get? file = some (.file octets) := Host.stands_of_find found
  have seen : host.look (Path.ofLocation file) = .ok (some ⟨file, .file octets⟩) :=
    Host.look_of_find found
  rw [outcome_filesOf, Host.validate_toText stands rfl (named.isName stands)]
  simp only [seen]
  rfl

theorem outcome_collect_congr (same : ∀ raw, raw ∈ paths ↔ raw ∈ others) :
    (s.collect host paths).outcome = .ok files ↔ (s.collect host others).outcome = .ok files := by
  simp only [outcome_collect_eq_ok_iff, same]

theorem exists_outcome_collect_iff :
    (∃ files, (s.collect host paths).outcome = .ok files) ↔
      ∀ raw ∈ paths, ∃ found, (s.filesOf host raw).outcome = .ok found := by
  rw [← Traced.exists_outcome_forEach_iff, outcome_collect]
  cases (Traced.forEach (s.filesOf host) paths).outcome <;> simp [Except.map]

/-- Two lists of paths together stand for what is collected for one of them. -/
theorem outcome_collect_append_iff :
    (s.collect host (paths ++ others)).outcome = .ok files ↔
      ∃ some more, (s.collect host paths).outcome = .ok some ∧
        (s.collect host others).outcome = .ok more ∧
        ∀ l, l ∈ files ↔ l ∈ some ∨ l ∈ more := by
  constructor
  · intro collected
    obtain ⟨each, members⟩ := outcome_collect_eq_ok_iff.mp collected
    obtain ⟨eachFirst, eachSecond⟩ := List.forall_mem_append.mp each
    obtain ⟨some, first⟩ := exists_outcome_collect_iff.mpr eachFirst
    obtain ⟨more, second⟩ := exists_outcome_collect_iff.mpr eachSecond
    refine ⟨some, more, first, second, ?_⟩
    intro l
    rw [members, (outcome_collect_eq_ok_iff.mp first).2, (outcome_collect_eq_ok_iff.mp second).2]
    simp only [List.mem_append, or_and_right, exists_or]
  · rintro ⟨some, more, first, second, members⟩
    obtain ⟨eachFirst, membersFirst⟩ := outcome_collect_eq_ok_iff.mp first
    obtain ⟨eachSecond, membersSecond⟩ := outcome_collect_eq_ok_iff.mp second
    refine outcome_collect_eq_ok_iff.mpr
      ⟨List.forall_mem_append.mpr ⟨eachFirst, eachSecond⟩, ?_⟩
    intro l
    rw [members, membersFirst, membersSecond]
    simp only [List.mem_append, or_and_right, exists_or]

/-- Paths that stand for nothing new change nothing. -/
theorem outcome_collect_append_of_subset {some more : OrderedSet Location}
    (first : (s.collect host paths).outcome = .ok some)
    (second : (s.collect host others).outcome = .ok more) (within : ∀ l ∈ more, l ∈ some) :
    (s.collect host (paths ++ others)).outcome = .ok some := by
  refine outcome_collect_append_iff.mpr ⟨some, more, first, second, ?_⟩
  intro l
  exact (or_iff_left_of_imp (within l)).symm

/-- A file that was collected can be named in addition. -/
theorem outcome_collect_append_toText {file : Location} {octets : ByteArray}
    (named : host.files.WellNamed) (first : (s.collect host paths).outcome = .ok files)
    (member : file ∈ files)
    (found : host.find (Location.toText file) = .ok ⟨file, .file octets⟩) :
    (s.collect host (paths ++ [Location.toText file])).outcome = .ok files := by
  have alone := outcome_filesOf_toText (s := s) named found
  have second : (s.collect host [Location.toText file]).outcome =
      .ok (OrderedSet.ofList [file]) := by
    refine outcome_collect_eq_ok_iff.mpr
      ⟨List.forall_mem_singleton.mpr ⟨_, alone⟩, ?_⟩
    intro l
    simp [alone]
  refine outcome_collect_append_of_subset first second ?_
  intro l only
  rw [OrderedSet.mem_ofList_iff, List.mem_singleton] at only
  exact only ▸ member

/-- What is collected depends only on the set of the paths, and it is in strictly increasing
order. Two lists of paths that can each be collected can be collected together; the result has
the files of both, so paths that overlap, and files that are named although they were found,
add nothing. -/
theorem collected_of_path_set (s : Scanner) (host : Host) :
    (∀ paths others : List Text, (∀ raw, raw ∈ paths ↔ raw ∈ others) → ∀ files,
      (s.collect host paths).outcome = .ok files ↔ (s.collect host others).outcome = .ok files) ∧
      (∀ (paths : List Text) (files : OrderedSet Location),
        (s.collect host paths).outcome = .ok files →
          (files.toList.map Path.ofLocation).Pairwise (· < ·)) ∧
      (∀ (paths others : List Text) (some more : OrderedSet Location),
        (s.collect host paths).outcome = .ok some → (s.collect host others).outcome = .ok more →
          ∃ files, (s.collect host (paths ++ others)).outcome = .ok files ∧
            (files.toList.map Path.ofLocation).Pairwise (· < ·) ∧
            (∀ l, l ∈ files ↔ l ∈ some ∨ l ∈ more) ∧
            ((∀ l ∈ more, l ∈ some) → files = some)) ∧
      ∀ (paths : List Text) (files : OrderedSet Location) (file : Location) (octets : ByteArray),
        host.files.WellNamed → (s.collect host paths).outcome = .ok files → file ∈ files →
          host.find (Location.toText file) = .ok ⟨file, .file octets⟩ →
          (s.collect host (paths ++ [Location.toText file])).outcome = .ok files := by
  refine ⟨?_, ?_, ?_, ?_⟩
  · intro paths others same files
    exact outcome_collect_congr same
  · intro paths files _
    exact files.increasing_paths
  · intro paths others some more first second
    have members : ∀ l, l ∈ some.union more ↔ l ∈ some ∨ l ∈ more := fun l =>
      OrderedSet.mem_union_iff.trans or_comm
    refine ⟨some.union more, ?_, (some.union more).increasing_paths, members, ?_⟩
    · exact outcome_collect_append_iff.mpr ⟨some, more, first, second, members⟩
    · intro within
      apply OrderedSet.ext_mem
      intro l
      rw [members]
      exact or_iff_left_of_imp (within l)
  · intro paths files file octets named first member found
    exact outcome_collect_append_toText named first member found

/-- The root directory twice, and one of its files by name and by its location. -/
theorem collected_of_path_set_twoFiles :
    (∀ raw, raw ∈ (["/", "/"] : List Text) ↔ raw ∈ (["/"] : List Text)) ∧
      (octetScanner.collect twoFiles ["/", "/"]).outcome =
        .ok (OrderedSet.ofList [["a.js"], ["b.js"]]) ∧
      (∃ files, (octetScanner.collect twoFiles ["/", "a.js"]).outcome = .ok files ∧
        files = OrderedSet.ofList ([["a.js"], ["b.js"]] : List Location)) ∧
      (octetScanner.collect twoFiles ["/", "/b.js"]).outcome =
        .ok (OrderedSet.ofList [["a.js"], ["b.js"]]) := by
  have same : ∀ raw, raw ∈ (["/", "/"] : List Text) ↔ raw ∈ (["/"] : List Text) := by simp
  have one : (octetScanner.collect twoFiles ["a.js"]).outcome =
      .ok (OrderedSet.ofList [["a.js"]]) := rfl
  obtain ⟨sets, -, unions, named⟩ := collected_of_path_set octetScanner twoFiles
  refine ⟨same, ?_, ?_, ?_⟩
  · exact (sets ["/", "/"] ["/"] same _).mpr collected_twoFiles
  · obtain ⟨files, collected, -, -, subset⟩ := unions _ _ _ _ collected_twoFiles one
    refine ⟨files, collected, subset ?_⟩
    simp
  · exact named _ _ ["b.js"] ")".toUTF8 rfl collected_twoFiles (by simp) rfl

end Scanner

end NamespaceScan

import NamespaceScan.Proofs.Resolution
import NamespaceScan.Proofs.Strictness

/-!
# The order of scanned files

The files to scan are collected in increasing order, each of them once. A record carries the
location that its file is resolved to, so the records are in increasing order, and no file has
two of them, when each collected location holds the file itself. It is different with links:
a link is collected under its own name and recorded under the name of the file behind it.
-/

namespace NamespaceScan

theorem Path.ofLocation_lt_ofLocation {l other : Location} (smaller : l < other) :
    Path.ofLocation l < Path.ofLocation other :=
  List.cons_lt_cons_self.mpr smaller

namespace Scanner

/-- There is one record for each collected file, with the location that it is resolved to. -/
theorem resolved_of_scan {s : Scanner} {host : Host} {paths : List Text}
    {files : OrderedSet Location} {records : List Dependencies}
    (collected : (s.collect host paths).outcome = .ok files)
    (scanned : (s.scan host paths).outcome = .ok records) :
    List.Forall₂
      (fun file d => ∃ location, host.resolve (Path.ofLocation file) = .ok location ∧
        d.path = Path.ofLocation location)
      files.toList records := by
  rw [outcome_scan, collected] at scanned
  exact (Traced.outcome_forEach_eq_ok_iff.mp scanned).imp fun _ _ => resolved_of_outcome_scanFile

/-- Files that are resolved to themselves are recorded under their own locations. -/
theorem paths_eq_of_resolved {host : Host} {files : List Location} {records : List Dependencies}
    (resolved : List.Forall₂
      (fun file d => ∃ location, host.resolve (Path.ofLocation file) = .ok location ∧
        d.path = Path.ofLocation location)
      files records)
    (fixed : ∀ file ∈ files, host.resolve (Path.ofLocation file) = .ok file) :
    records.map (·.path) = files.map Path.ofLocation := by
  induction resolved with
  | nil => rfl
  | cons first _ ih =>
      obtain ⟨own, others⟩ := List.forall_mem_cons.mp fixed
      obtain ⟨location, leads, recorded⟩ := first
      cases own.symm.trans leads
      rw [List.map_cons, List.map_cons, recorded, ih others]

/-- Where each collected location holds a file, the records have just these locations for
paths, in strictly increasing order. -/
theorem increasing_paths_of_scan {s : Scanner} {host : Host} {paths : List Text}
    {files : OrderedSet Location} {records : List Dependencies}
    (named : host.files.WellNamed)
    (collected : (s.collect host paths).outcome = .ok files)
    (plain : ∀ file ∈ files, ∃ octets, host.files.get? file = some (.file octets))
    (scanned : (s.scan host paths).outcome = .ok records) :
    records.map (·.path) = files.toList.map Path.ofLocation ∧
      (records.map (·.path)).Pairwise (· < ·) := by
  have fixed : ∀ file ∈ files, host.resolve (Path.ofLocation file) = .ok file := by
    intro file member
    obtain ⟨octets, stands⟩ := plain file member
    exact Host.resolve_ofLocation stands rfl (named.isName stands)
  have same := paths_eq_of_resolved (resolved_of_scan collected scanned) fixed
  refine ⟨same, ?_⟩
  rw [same, List.pairwise_map]
  exact files.increasing.imp Path.ofLocation_lt_ofLocation

theorem leniently_of_not_strict {s : Scanner} (lenient : s.strict = false) :
    s.leniently = s := by
  cases s
  cases lenient
  rfl

/-- The record of a file that can be read, in a scan that is not strict. -/
theorem outcome_scanFile_of_not_strict {s : Scanner} (lenient : s.strict = false) (host : Host)
    (file location : Location) {text : Text} {data : ByteArray}
    (resolved : host.resolve (Path.ofLocation file) = .ok location)
    (read : host.readSource (Path.ofLocation location) = .ok text)
    (encoded : Utf8.encode text = .ok data) :
    (s.scanFile host file).outcome =
      .ok (Dependencies.ofSource (Path.ofLocation location)
        { root := (s.grammar data).convert data, errorLines := (s.grammar data).errorLines }) := by
  have scanned := outcome_scanFile_leniently (s := s) resolved read encoded
  rwa [leniently_of_not_strict lenient] at scanned

/-- The records of a scan whose files and their records are known. -/
theorem outcome_scan_of_forall₂ {s : Scanner} {host : Host} {paths : List Text}
    {files : OrderedSet Location} {records : List Dependencies}
    (collected : (s.collect host paths).outcome = .ok files)
    (each : List.Forall₂ (fun file d => (s.scanFile host file).outcome = .ok d)
      files.toList records) :
    (s.scan host paths).outcome = .ok records := by
  rw [outcome_scan, collected]
  exact Traced.outcome_forEach_eq_ok_iff.mpr each

theorem plain_twoFiles :
    ∀ file ∈ (OrderedSet.ofList [["a.js"], ["b.js"]] : OrderedSet Location),
      ∃ octets, twoFiles.files.get? file = some (.file octets) := by
  intro file member
  have listed : file ∈ ([["a.js"], ["b.js"]] : List Location) := member
  rcases List.mem_cons.mp listed with rfl | later
  · exact ⟨_, rfl⟩
  · cases List.mem_singleton.mp later
    exact ⟨_, rfl⟩

theorem increasing_paths_of_scan_twoFiles :
    (∀ file ∈ (OrderedSet.ofList [["a.js"], ["b.js"]] : OrderedSet Location),
        ∃ octets, twoFiles.files.get? file = some (.file octets)) ∧
      ∃ records, (octetScanner.scan twoFiles ["/"]).outcome = .ok records ∧
        records.map (·.path) = [Path.ofLocation ["a.js"], Path.ofLocation ["b.js"]] ∧
        (records.map (·.path)).Pairwise (· < ·) := by
  have named : twoFiles.files.WellNamed := rfl
  have lenient : octetScanner.strict = false := rfl
  have firstRead : twoFiles.readSource (Path.ofLocation ["a.js"]) = .ok "" := rfl
  have secondRead : twoFiles.readSource (Path.ofLocation ["b.js"]) = .ok ")" := rfl
  have first := outcome_scanFile_of_not_strict lenient twoFiles ["a.js"] ["a.js"] rfl firstRead rfl
  have second := outcome_scanFile_of_not_strict lenient twoFiles ["b.js"] ["b.js"] rfl secondRead
    rfl
  have scanned := outcome_scan_of_forall₂ collected_twoFiles
    (List.Forall₂.cons first (List.Forall₂.cons second List.Forall₂.nil))
  exact ⟨plain_twoFiles, _, scanned,
    increasing_paths_of_scan named collected_twoFiles plain_twoFiles scanned⟩

/-! ## A link beside its file -/

/-- A host with a link to one of its two files. -/
def linkedFile : Host where
  files :=
    { members :=
        [("a.js", .link "c.js"), ("b.js", .file "".toUTF8), ("c.js", .file "".toUTF8)] }

theorem collected_linkedFile :
    (octetScanner.collect linkedFile ["/"]).outcome =
      .ok (OrderedSet.ofList [["a.js"], ["b.js"], ["c.js"]]) :=
  rfl

/-- The file behind the link is recorded twice, and once before a file that comes earlier. -/
theorem repeated_path_linkedFile :
    ∃ records, (octetScanner.scan linkedFile ["/"]).outcome = .ok records ∧
      records.map (·.path) =
        [Path.ofLocation ["c.js"], Path.ofLocation ["b.js"], Path.ofLocation ["c.js"]] ∧
      ¬ (records.map (·.path)).Pairwise (· < ·) := by
  have lenient : octetScanner.strict = false := rfl
  have read : ∀ name : Text, name = "b.js" ∨ name = "c.js" →
      linkedFile.readSource (Path.ofLocation [name]) = .ok "" := by
    rintro _ (rfl | rfl) <;> rfl
  have linked := outcome_scanFile_of_not_strict lenient linkedFile ["a.js"] ["c.js"] rfl
    (read _ (Or.inr rfl)) rfl
  have second := outcome_scanFile_of_not_strict lenient linkedFile ["b.js"] ["b.js"] rfl
    (read _ (Or.inl rfl)) rfl
  have third := outcome_scanFile_of_not_strict lenient linkedFile ["c.js"] ["c.js"] rfl
    (read _ (Or.inr rfl)) rfl
  have scanned := outcome_scan_of_forall₂ collected_linkedFile
    (List.Forall₂.cons linked (List.Forall₂.cons second
      (List.Forall₂.cons third List.Forall₂.nil)))
  refine ⟨_, scanned, rfl, ?_⟩
  intro increasing
  obtain ⟨below, -⟩ := List.pairwise_cons.mp increasing
  exact absurd (below (Path.ofLocation ["b.js"]) (by simp [Dependencies.ofSource])) (by decide)

end Scanner

end NamespaceScan

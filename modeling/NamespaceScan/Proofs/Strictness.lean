import NamespaceScan.Proofs.Traced
import NamespaceScan.Scanner

/-!
# Strict and lenient scans

A strict scan is a lenient scan with a check behind every file: a record with syntax
errors becomes a failure that names the file and the lines. A strict scan therefore
returns what the lenient scan returns, unless a record has errors, and it stops at the
first file that cannot be scanned or that has errors, whichever it is.

The grammar is any function from octets to concrete trees.
-/

namespace NamespaceScan

namespace ParsedSource

/-- A source that a strict reading accepts; one with errors is refused. -/
def checked (path : Option Text) (source : ParsedSource) : Except Problem ParsedSource :=
  if source.errorLines = [] then .ok source
  else .error (.failure (refusal path source.errorLines))

/-- A lenient reading takes every tree as it is. -/
theorem outcome_ofOctets_lenient (grammar : Grammar) (path : Option Text) (data : ByteArray) :
    (ofOctets grammar false path data).outcome =
      .ok { root := (grammar data).convert data, errorLines := (grammar data).errorLines } := by
  by_cases clean : (grammar data).errorLines = []
  · simp [ofOctets, clean, Traced.outcome_bind, Except.bind]
  · simp [ofOctets, clean, Traced.outcome_bind, Except.bind]

theorem outcome_ofOctets_strict (grammar : Grammar) (path : Option Text) (data : ByteArray) :
    (ofOctets grammar true path data).outcome =
      (ofOctets grammar false path data).outcome.bind (checked path) := by
  rw [outcome_ofOctets_lenient]
  by_cases clean : (grammar data).errorLines = []
  · simp [ofOctets, clean, Traced.outcome_bind, Except.bind, checked]
  · simp [ofOctets, clean, Traced.outcome_bind, Except.bind, checked]

theorem outcome_ofText_strict (grammar : Grammar) (path : Option Text) (source : Text) :
    (ofText grammar true path source).outcome =
      (ofText grammar false path source).outcome.bind (checked path) := by
  rw [ofText, ofText]
  cases Utf8.encode source with
  | error error => rfl
  | ok data => exact outcome_ofOctets_strict grammar path data

end ParsedSource

namespace Scanner

/-- The same scanner, stopping at syntax errors. -/
def strictly (s : Scanner) : Scanner := { s with strict := true }

/-- The same scanner, taking recovered trees as they are. -/
def leniently (s : Scanner) : Scanner := { s with strict := false }

theorem outcome_parseFile_strict (grammar : Grammar) (host : Host) (path : Path) :
    (parseFile grammar true host path).outcome =
      (parseFile grammar false host path).outcome.bind
        (ParsedSource.checked (some path.toText)) := by
  simp only [parseFile, Traced.outcome_bind, Traced.outcome_ofExcept]
  cases host.readSource path with
  | error problem => rfl
  | ok text => exact ParsedSource.outcome_ofText_strict grammar (some path.toText) text

/-- What a strict scan makes of the record of a lenient one. -/
def checked (d : Dependencies) : Except Problem Dependencies :=
  if d.errorLines = [] then .ok d
  else .error (.failure (ParsedSource.refusal (some d.path.toText) d.errorLines))

theorem outcome_scanFile_strictly (s : Scanner) (host : Host) (file : Location) :
    (s.strictly.scanFile host file).outcome =
      (s.leniently.scanFile host file).outcome.bind checked := by
  simp only [scanFile, Traced.outcome_bind, Traced.outcome_ofExcept, strictly, leniently]
  cases (host.resolve (Path.ofLocation file)).mapError Problem.fault with
  | error problem => rfl
  | ok location =>
      simp only [Except.bind, outcome_parseFile_strict]
      cases (parseFile s.grammar false host (Path.ofLocation location)).outcome with
      | error problem => rfl
      | ok source =>
          by_cases clean : source.errorLines = []
          · simp [ParsedSource.checked, checked, Dependencies.ofSource, clean]
          · simp [ParsedSource.checked, checked, Dependencies.ofSource, clean]

theorem outcome_scanFile_strictly_eq_ok_iff {s : Scanner} {host : Host} {file : Location}
    {d : Dependencies} :
    (s.strictly.scanFile host file).outcome = .ok d ↔
      (s.leniently.scanFile host file).outcome = .ok d ∧ d.errorLines = [] := by
  rw [outcome_scanFile_strictly]
  cases (s.leniently.scanFile host file).outcome with
  | error problem => simp [Except.bind]
  | ok record =>
      by_cases clean : record.errorLines = []
      · simp only [Except.bind, checked, if_pos clean, Except.ok.injEq, iff_self_and]
        rintro rfl
        exact clean
      · simp only [Except.bind, checked, if_neg clean, reduceCtorEq, Except.ok.injEq, false_iff,
          not_and]
        rintro rfl
        exact clean

theorem resolved_of_outcome_scanFile {s : Scanner} {host : Host} {file : Location}
    {d : Dependencies} (scanned : (s.scanFile host file).outcome = .ok d) :
    ∃ location, host.resolve (Path.ofLocation file) = .ok location ∧
      d.path = Path.ofLocation location := by
  obtain ⟨location, resolved, parsed⟩ := Traced.outcome_bind_eq_ok_iff.mp scanned
  obtain ⟨source, -, noted⟩ := Traced.outcome_bind_eq_ok_iff.mp parsed
  obtain ⟨-, -, returned⟩ := Traced.outcome_bind_eq_ok_iff.mp noted
  cases returned
  refine ⟨location, ?_, rfl⟩
  rw [Traced.outcome_ofExcept] at resolved
  cases found : host.resolve (Path.ofLocation file) with
  | error fault =>
      rw [found] at resolved
      cases resolved
  | ok actual =>
      rw [found] at resolved
      cases resolved
      rfl

/-- The problem with a file in a strict scan: that of the lenient scan, or the syntax
errors that the lenient scan records. -/
inductive Objects (s : Scanner) (host : Host) (file : Location) : Problem → Prop where
  | failed {problem : Problem}
      (unscanned : (s.leniently.scanFile host file).outcome = .error problem) :
      Objects s host file problem
  | malformed {d : Dependencies} {location : Location}
      (scanned : (s.leniently.scanFile host file).outcome = .ok d) (faulty : d.errorLines ≠ [])
      (resolved : host.resolve (Path.ofLocation file) = .ok location) :
      Objects s host file
        (.failure (.parse (.text ("Syntax errors in " ++ (Path.ofLocation location).toText))
          (some (Path.ofLocation location).toText) (d.errorLines.map Int.ofNat)))

theorem refusal_ofLocation (location : Location) (lines : List Nat) :
    ParsedSource.refusal (some (Path.ofLocation location).toText) lines =
      .parse (.text ("Syntax errors in " ++ (Path.ofLocation location).toText))
        (some (Path.ofLocation location).toText) (lines.map Int.ofNat) := by
  rfl

theorem outcome_scanFile_strictly_eq_error_iff {s : Scanner} {host : Host} {file : Location}
    {problem : Problem} :
    (s.strictly.scanFile host file).outcome = .error problem ↔ s.Objects host file problem := by
  rw [outcome_scanFile_strictly]
  constructor
  · intro raised
    cases scanned : (s.leniently.scanFile host file).outcome with
    | error other =>
        rw [scanned] at raised
        cases raised
        exact Objects.failed scanned
    | ok d =>
        rw [scanned] at raised
        by_cases clean : d.errorLines = []
        · simp [Except.bind, checked, clean] at raised
        · obtain ⟨location, resolved, pathEq⟩ := resolved_of_outcome_scanFile scanned
          simp only [Except.bind, checked, if_neg clean, pathEq, refusal_ofLocation,
            Except.error.injEq] at raised
          rw [← raised]
          exact Objects.malformed scanned clean resolved
  · rintro (unscanned | ⟨scanned, faulty, resolved⟩)
    · rw [unscanned]
      rfl
    · obtain ⟨location, same, pathEq⟩ := resolved_of_outcome_scanFile scanned
      rw [resolved] at same
      cases same
      simp only [scanned, Except.bind, checked, if_neg faulty, pathEq, refusal_ofLocation]

theorem outcome_scan (s : Scanner) (host : Host) (paths : List Text) :
    (s.scan host paths).outcome =
      (s.collect host paths).outcome.bind fun files =>
        (Traced.forEach (s.scanFile host) files.toList).outcome := by
  simp only [scan, Traced.outcome_bind, Traced.outcome_note, Traced.outcome_pure]
  cases (s.collect host paths).outcome with
  | error problem => rfl
  | ok files =>
      simp only [Except.bind]
      cases (Traced.forEach (s.scanFile host) files.toList).outcome <;> rfl

/-- For paths whose files can be found: the strict scan returns some records exactly when
the lenient scan returns them and none has syntax errors. It ends with a problem exactly
when this is the problem with the first file that is not scanned without errors. -/
theorem outcome_scan_strictly (s : Scanner) (host : Host) (paths : List Text)
    {files : OrderedSet Location} (collected : (s.collect host paths).outcome = .ok files) :
    (∀ records, (s.strictly.scan host paths).outcome = .ok records ↔
      (s.leniently.scan host paths).outcome = .ok records ∧ ∀ d ∈ records, d.errorLines = []) ∧
      ∀ problem, (s.strictly.scan host paths).outcome = .error problem ↔
        ∃ front file back, files.toList = front ++ file :: back ∧
          (∀ earlier ∈ front, ∃ d, (s.leniently.scanFile host earlier).outcome = .ok d ∧
            d.errorLines = []) ∧
          s.Objects host file problem := by
  have strictly : (s.strictly.scan host paths).outcome =
      (Traced.forEach (s.strictly.scanFile host) files.toList).outcome := by
    rw [outcome_scan]
    exact congrArg (Except.bind · _) collected
  have leniently : (s.leniently.scan host paths).outcome =
      (Traced.forEach (s.leniently.scanFile host) files.toList).outcome := by
    rw [outcome_scan]
    exact congrArg (Except.bind · _) collected
  rw [strictly, leniently]
  constructor
  · intro records
    exact Traced.outcome_forEach_eq_ok_iff_of_check fun _ _ => outcome_scanFile_strictly_eq_ok_iff
  · intro problem
    simp only [Traced.outcome_forEach_eq_error_iff, outcome_scanFile_strictly_eq_ok_iff,
      outcome_scanFile_strictly_eq_error_iff]

/-! ## One clean file and one with an error -/

/-- The record of a file that can be read, in a lenient scan. -/
theorem outcome_scanFile_leniently {s : Scanner} {host : Host} {file location : Location}
    {text : Text} {data : ByteArray}
    (resolved : host.resolve (Path.ofLocation file) = .ok location)
    (read : host.readSource (Path.ofLocation location) = .ok text)
    (encoded : Utf8.encode text = .ok data) :
    (s.leniently.scanFile host file).outcome =
      .ok (Dependencies.ofSource (Path.ofLocation location)
        { root := (s.grammar data).convert data, errorLines := (s.grammar data).errorLines }) := by
  have parsed : (parseFile s.grammar false host (Path.ofLocation location)).outcome =
      .ok { root := (s.grammar data).convert data
            errorLines := (s.grammar data).errorLines } := by
    simp only [parseFile, ParsedSource.ofText, Traced.outcome_bind, Traced.outcome_ofExcept, read,
      encoded, Except.bind, ParsedSource.outcome_ofOctets_lenient]
  simp only [scanFile, leniently, Traced.outcome_bind, Traced.outcome_ofExcept, resolved,
    Except.mapError, Except.bind, parsed, Traced.outcome_note, Traced.outcome_pure]

/-- A grammar for which every octet is an error. -/
def noOctets : Grammar := fun data =>
  if data.size = 0 then { type := "program" } else { type := "ERROR", hasError := true }

/-- A host with an empty file and one that is not empty. -/
def twoFiles : Host where
  files := { members := [("a.js", .file "".toUTF8), ("b.js", .file ")".toUTF8)] }

/-- A scanner for that grammar. -/
def octetScanner : Scanner where
  grammar := noOctets
  extensions := [".js"]
  excluded := []
  strict := false

theorem collected_twoFiles :
    (octetScanner.collect twoFiles ["/"]).outcome =
      .ok (OrderedSet.ofList [["a.js"], ["b.js"]]) :=
  rfl

theorem scanned_empty :
    ∃ d, (octetScanner.leniently.scanFile twoFiles ["a.js"]).outcome = .ok d ∧
      d.errorLines = [] := by
  have resolved : twoFiles.resolve (Path.ofLocation ["a.js"]) = .ok ["a.js"] := rfl
  have read : twoFiles.readSource (Path.ofLocation ["a.js"]) = .ok "" := rfl
  have encoded : Utf8.encode "" = .ok "".toUTF8 := rfl
  exact ⟨_, outcome_scanFile_leniently resolved read encoded, rfl⟩

theorem objects_nonempty :
    octetScanner.Objects twoFiles ["b.js"]
      (.failure (.parse (.text "Syntax errors in /b.js") (some "/b.js") [1])) := by
  have resolved : twoFiles.resolve (Path.ofLocation ["b.js"]) = .ok ["b.js"] := rfl
  have read : twoFiles.readSource (Path.ofLocation ["b.js"]) = .ok ")" := rfl
  have encoded : Utf8.encode ")" = .ok ")".toUTF8 := rfl
  have scanned := outcome_scanFile_leniently (s := octetScanner) resolved read encoded
  have refused : octetScanner.grammar ")".toUTF8 = { type := "ERROR", hasError := true } := rfl
  have lines : (octetScanner.grammar ")".toUTF8).errorLines = [1] := by
    rw [refused]
    cbv
  simp only [lines] at scanned
  exact Objects.malformed scanned (List.cons_ne_nil _ _) resolved

theorem outcome_scan_strictly_twoFiles :
    (octetScanner.collect twoFiles ["/"]).outcome =
        .ok (OrderedSet.ofList [["a.js"], ["b.js"]]) ∧
      (octetScanner.strictly.scan twoFiles ["/"]).outcome =
        .error (.failure (.parse (.text "Syntax errors in /b.js") (some "/b.js") [1])) := by
  refine ⟨collected_twoFiles, ?_⟩
  refine ((outcome_scan_strictly octetScanner twoFiles ["/"] collected_twoFiles).2 _).mpr
    ⟨[["a.js"]], ["b.js"], [], rfl, ?_, objects_nonempty⟩
  intro earlier member
  cases List.mem_singleton.mp member
  exact scanned_empty

end Scanner

end NamespaceScan

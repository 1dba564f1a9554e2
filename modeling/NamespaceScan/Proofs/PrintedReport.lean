import NamespaceScan.Proofs.Collection
import NamespaceScan.Proofs.ReportCharacters
import NamespaceScan.Proofs.Recognition
import NamespaceScan.Proofs.ScanCall
import NamespaceScan.Proofs.ScanOrder
import NamespaceScan.Toml.Document

/-!
# Reports that are printed

A lenient scan of sources that are named one by one always succeeds, whatever string literals
stand in them. Its report is printed whenever it can be encoded: as a document always, as a
list or as registration lines exactly when no namespace has a surrogate. A report that cannot
be encoded ends the run with a failure and prints nothing.
-/

namespace NamespaceScan

/-! ## Named sources -/

namespace Host

/-- The text of the location leads to a file that stands there and can be read. -/
def IsSource (host : Host) (l : Location) : Prop :=
  ∃ octets text, host.find (Location.toText l) = .ok ⟨l, .file octets⟩ ∧
    (octets.size : Int) ≤ sizeLimit ∧ Utf8.decode octets = .ok text

variable {host : Host} {l : Location}

theorem IsSource.stands (source : host.IsSource l) :
    ∃ octets, host.files.get? l = some (.file octets) := by
  obtain ⟨octets, text, found, -, -⟩ := source
  exact ⟨octets, stands_of_find found⟩

theorem IsSource.isName (source : host.IsSource l) (named : host.files.WellNamed) :
    ∀ name ∈ l, IsName name := by
  obtain ⟨octets, stands⟩ := source.stands
  exact named.isName stands

theorem IsSource.resolve (source : host.IsSource l) (named : host.files.WellNamed) :
    host.resolve (Path.ofLocation l) = .ok l := by
  obtain ⟨octets, stands⟩ := source.stands
  exact resolve_ofLocation stands rfl (named.isName stands)

theorem IsSource.pathFault?_toText (source : host.IsSource l) (named : host.files.WellNamed) :
    pathFault? (Location.toText l) = none :=
  pathFault?_eq_none_iff.mpr
    (Location.isNameable_toText_iff.mpr (Path.nameable_of_isName (source.isName named)))

end Host

namespace Scanner

variable {s : Scanner} {host : Host} {files : List Location}

/-- A source stands for itself. -/
theorem outcome_filesOf_source {l : Location} (source : host.IsSource l)
    (named : host.files.WellNamed) :
    (s.filesOf host (Location.toText l)).outcome = .ok (OrderedSet.ofList [l]) := by
  have valid : host.validate (Path.ofLocation l) = .ok l := source.resolve named
  have isName := source.isName named
  obtain ⟨octets, text, found, -, -⟩ := source
  have seen : host.look (Path.ofLocation l) = .ok (some ⟨l, .file octets⟩) :=
    Host.look_of_find found
  rw [outcome_filesOf, Path.ofText_toText_ofLocation isName, valid]
  simp only [seen]
  rfl

/-- Named sources are collected as they are. -/
theorem outcome_collect_sources (sources : ∀ l ∈ files, host.IsSource l)
    (named : host.files.WellNamed) :
    (s.collect host (files.map Location.toText)).outcome = .ok (OrderedSet.ofList files) := by
  have each : (Traced.forEach (s.filesOf host) (files.map Location.toText)).outcome =
      .ok (files.map fun l => OrderedSet.ofList [l]) := by
    refine Traced.outcome_forEach_eq_ok_iff.mpr ?_
    rw [List.forall₂_map_left_iff, List.forall₂_map_right_iff, List.forall₂_same]
    exact fun l member => outcome_filesOf_source (sources l member) named
  rw [outcome_collect, each]
  refine congrArg Except.ok (OrderedSet.ext_mem fun l => ?_)
  simp [OrderedSet.mem_foldl_union_iff]

theorem outcome_scanFile_source (lenient : s.strict = false) {l : Location}
    (source : host.IsSource l) (named : host.files.WellNamed) :
    ∃ d, (s.scanFile host l).outcome = .ok d := by
  have resolved := source.resolve named
  obtain ⟨octets, text, found, fits, decoded⟩ := source
  have read : host.readSource (Path.ofLocation l) = .ok text.unifyLines :=
    Host.readSource_of_find found resolved (Host.look_of_find found) fits decoded
  exact ⟨_, outcome_scanFile_of_not_strict lenient host l l resolved read
    (Host.encode_of_readSource read)⟩

/-- A lenient scan of named sources succeeds, with one record for each of them. -/
theorem outcome_scan_sources (lenient : s.strict = false)
    (sources : ∀ l ∈ files, host.IsSource l) (named : host.files.WellNamed) :
    ∃ records, (s.scan host (files.map Location.toText)).outcome = .ok records ∧
      records.map (·.path) = (OrderedSet.ofList files).toList.map Path.ofLocation := by
  have collected : (s.collect host (files.map Location.toText)).outcome =
      .ok (OrderedSet.ofList files) :=
    outcome_collect_sources sources named
  have sources : ∀ l ∈ (OrderedSet.ofList files).toList, host.IsSource l :=
    fun l member => sources l (OrderedSet.mem_ofList_iff.mp member)
  have finished : ∃ records,
      (Traced.forEach (s.scanFile host) (OrderedSet.ofList files).toList).outcome =
        .ok records := by
    cases each : (Traced.forEach (s.scanFile host) (OrderedSet.ofList files).toList).outcome with
    | ok records => exact ⟨records, rfl⟩
    | error problem =>
        obtain ⟨front, l, back, listed, -, failed⟩ := Traced.outcome_forEach_eq_error_iff.mp each
        obtain ⟨d, scanned⟩ := outcome_scanFile_source lenient
          (sources l (listed ▸ List.mem_append_right front List.mem_cons_self)) named
        cases failed.symm.trans scanned
  obtain ⟨records, each⟩ := finished
  have scanned : (s.scan host (files.map Location.toText)).outcome = .ok records := by
    rw [outcome_scan, collected]
    exact each
  exact ⟨records, scanned, paths_eq_of_resolved (resolved_of_scan collected scanned)
    fun l member => (sources l member).resolve named⟩

end Scanner

namespace Command

/-! ## Words -/

/-- The words of a scan of named files. -/
def scanWords (format : Format) (files : List Location) : List Text :=
  "scan" :: "--format" :: format.word :: files.map Location.toText

/-- The options of that scan. -/
def scanOf (format : Format) (files : List Location) : ScanOptions where
  paths := files.map Path.ofLocation
  format := format

/-- Files that are named from the root are no options. -/
theorem read_locations (switches : List (Switch ScanKey)) (files : List Location) :
    CommandLine.read switches true (files.map Location.toText) =
      .ok { words := files.map Location.toText } := by
  induction files with
  | nil => rfl
  | cons l rest ih =>
      have notTerminator : Location.toText l ≠ CommandLine.terminator := by
        intro same
        exact absurd (List.cons.inj same).1 (by decide)
      have notOption : CommandLine.isOption (Location.toText l) = false := rfl
      rw [List.map_cons, CommandLine.read, if_neg notTerminator, notOption, ih]
      rfl

variable {host : Host} {files : List Location}

theorem Format.ofWord?_word (format : Format) : Format.ofWord? format.word = some format := by
  cases format <;> decide

/-- Nothing speaks against a source that is named. -/
theorem objection?_source {l : Location} (source : host.IsSource l)
    (named : host.files.WellNamed) :
    objection? host .anything true (Location.toText l) = none := by
  have noFault := source.pathFault?_toText named
  obtain ⟨octets, text, found, -, -⟩ := source
  simp [objection?, noFault, found]

/-- The words behind the command are read as a scan of the files. -/
theorem read_scanOf (format : Format) (sources : ∀ l ∈ files, host.IsSource l)
    (named : host.files.WellNamed) :
    ScanOptions.read host ("--format" :: format.word :: files.map Location.toText) =
      .ok (scanOf format files) := by
  have spelled : CommandLine.spell ScanOptions.switches "--format" =
      .ok { open? := some ⟨"--format", .format, true⟩ } := rfl
  have line : CommandLine.read ScanOptions.switches true
      ("--format" :: format.word :: files.map Location.toText) =
        .ok { options := [⟨.format, format.word⟩], words := files.map Location.toText } := by
    rw [CommandLine.read, if_neg (by decide), if_pos rfl, spelled]
    simp only [read_locations]
    rfl
  have known := Format.ofWord?_word format
  have accepted : ScanOptions.firstObjection? host
      { options := [⟨.format, format.word⟩], words := files.map Location.toText } = none := by
    have paths : ((files.map Location.toText).findSome? fun raw =>
        (objection? host .anything true raw).map (("'[PATHS]...'" : Text), ·)) = none := by
      rw [List.findSome?_map, List.findSome?_eq_none_iff]
      intro l member
      rw [Function.comp_apply, objection?_source (sources l member) named]
      rfl
    simp [ScanOptions.firstObjection?, ScanOptions.valuesOf, CommandLine.values,
      ScanOptions.optionObjection?, known, paths]
  have paths : (files.map Location.toText).map Path.ofText = files.map Path.ofLocation := by
    rw [List.map_map]
    exact List.map_congr_left fun l member =>
      Path.ofText_toText_ofLocation ((sources l member).isName named)
  simp only [ScanOptions.read, line, accepted]
  simp [CommandLine.first?, ScanOptions.ofLine, ScanOptions.valuesOf, CommandLine.values, known,
    paths, scanOf]

namespace Machine

variable {m : Machine} {settings : Settings}

/-- The standard frontend understands the words of a scan of named sources as that scan. -/
theorem callsScan_scanWords (format : Format) (standard : m.frontend = .standard)
    (noFile : m.environment.content? "CLOSUREDEPS_CONFIG" = none)
    (noColor : m.environment.content? "CLOSUREDEPS_COLOR" = none)
    (loaded : (Settings.load m.reader m.host none).outcome = .ok settings)
    (sources : ∀ l ∈ files, m.host.IsSource l) (named : m.host.files.WellNamed) :
    m.CallsScan (scanWords format files) {} settings (scanOf format files) where
  understood := by
    have line : CommandLine.read ProgramOptions.switches false (scanWords format files) =
        .ok { words := scanWords format files } := by
      rw [scanWords, CommandLine.read, if_neg (by decide), if_neg (by decide)]
      rfl
    have config : ProgramOptions.configOf m.host m.environment
        { words := scanWords format files } = .ok none := by
      simp [ProgramOptions.configOf, CommandLine.values, noFile]
    have color : ProgramOptions.colorOf m.environment { words := scanWords format files } =
        .ok true := by
      simp [ProgramOptions.colorOf, CommandLine.values, noColor]
    have some : scanWords format files ≠ [] := List.cons_ne_nil _ _
    have program : ProgramOptions.read m.host m.environment (scanWords format files) =
        .ok ({}, scanWords format files) := by
      rw [ProgramOptions.read, if_neg some, line]
      simp only [CommandLine.first?, List.findSome?_nil, config, color]
      rfl
    rw [standard]
    refine ⟨"--format" :: format.word :: files.map Location.toText, ?_,
      read_scanOf format sources named⟩
    simp only [Frontend.standard, program]
    rfl
  loaded := loaded

end Machine

/-! ## Printing -/

namespace ScanOptions

/-- What a report comes to that is printed: as it is echoed it is the result if it can be
encoded; otherwise the run fails, and there is no result. -/
theorem run_of_print {context : ScanContext} {options : ScanOptions}
    {render : Location → Path → List Dependencies → Text} {base : Location}
    {records : List Dependencies} (noFile : options.output = none)
    (rendered : options.format.render? = some render)
    (resolved : host.resolve (options.base.getD (Path.ofLocation host.cwd)) = .ok base)
    (scanned : ((options.scanner context).scan host options.targets).outcome = .ok records)
    (env : Environment) :
    ((context.screen.echoed false
        (render host.cwd (Path.ofLocation base) (options.listed records))).IsEncodable →
        (options.run context host).ending.exit.number = 0 ∧
          resultsOf context.screen env ((options.run context host).events ++
            (options.run context host).ending.events) =
              context.screen.echoed false
                (render host.cwd (Path.ofLocation base) (options.listed records))) ∧
      (¬(context.screen.echoed false
        (render host.cwd (Path.ofLocation base) (options.listed records))).IsEncodable →
        (options.run context host).ending.exit.number = 1 ∧
          resultsOf context.screen env ((options.run context host).events ++
            (options.run context host).ending.events) = []) := by
  rw [run_eq_present rendered resolved scanned]
  simp only [present, rendered, noFile]
  constructor
  · intro encodable
    rw [print_of_isEncodable encodable]
    refine ⟨rfl, ?_⟩
    simp only [resultsOf_append, resultsOf_records]
    simp [resultsOf, Event.output, Ending.done, Ending.events]
  · intro surrogates
    obtain ⟨message, printed⟩ := print_of_not_isEncodable surrogates ([], .done)
    rw [printed]
    refine ⟨rfl, ?_⟩
    simp only [resultsOf_append, resultsOf_records]
    rfl

end ScanOptions

/-- Records without namespaces mention nothing. -/
theorem exists_listed_mentions_iff {records : List Dependencies} {c : CodePoint} :
    (∃ d ∈ records.filter (·.hasNames), d.found.Mentions c) ↔
      ∃ d ∈ records, d.found.Mentions c := by
  constructor
  · rintro ⟨d, member, mentioned⟩
    exact ⟨d, (List.mem_filter.mp member).1, mentioned⟩
  · rintro ⟨d, member, mentioned⟩
    refine ⟨d, List.mem_filter.mpr ⟨member, ?_⟩, mentioned⟩
    simp only [Dependencies.hasNames, Extraction.isEmpty, OrderedSet.isEmpty, Bool.not_and,
      Bool.or_eq_true, Bool.not_eq_true', List.isEmpty_eq_false_iff_exists_mem]
    rcases mentioned with ⟨name, provided, -⟩ | ⟨name, required, -⟩
    · exact Or.inl ⟨name, provided⟩
    · exact Or.inr ⟨name, required⟩

namespace Format

variable {format : Format} {render : Location → Path → List Dependencies → Text}
  {records : List Dependencies} {c : CodePoint}

/-- A rare character that stands in no file name is in a report of the files if a namespace
has it, unless the report is a document. -/
theorem mem_report_iff (rendered : format.render? = some render) (rare : ¬c.isCommon)
    (paths : records.map (·.path) = (OrderedSet.ofList files).toList.map Path.ofLocation)
    (outside : ∀ l ∈ files, ∀ name ∈ l, c ∉ name) (cwd : Location) (base : Path) :
    c ∈ render cwd base (records.filter (·.hasNames)) ↔
      format ≠ .json ∧ ∃ d ∈ records, d.found.Mentions c := by
  have notReported : ∀ d ∈ records.filter (·.hasNames),
      c ∉ (d.reportedPath cwd (some base)).toText := by
    intro d member inside
    have recorded : d.path ∈ records.map (·.path) :=
      List.mem_map_of_mem (List.mem_filter.mp member).1
    rw [paths] at recorded
    obtain ⟨l, listed, same⟩ := List.mem_map.mp recorded
    rw [Dependencies.reportedPath, ← same] at inside
    obtain ⟨name, named, within⟩ := Path.exists_name_of_mem_relativeTo rare inside
    exact outside l (OrderedSet.mem_ofList_iff.mp listed) name named within
  have mentioned : (∃ d ∈ records.filter (·.hasNames),
      c ∈ (d.reportedPath cwd (some base)).toText ∨ d.found.Mentions c) ↔
        ∃ d ∈ records, d.found.Mentions c := by
    rw [← exists_listed_mentions_iff]
    exact exists_congr fun d =>
      and_congr_right fun member => or_iff_right (notReported d member)
  cases format with
  | table => cases rendered
  | json =>
      cases rendered
      simp [(Report.isCommon_json cwd base _).not_mem rare]
  | simple =>
      cases rendered
      rw [Report.mem_simple_iff rare, mentioned]
      simp
  | deps =>
      cases rendered
      rw [Report.mem_deps_iff rare, mentioned]
      simp

/-- What is echoed of a report can be encoded if the report is a document, or if all its
namespaces can be. -/
theorem isEncodable_echoed {screen : Console.Screen} (echoes : screen.Echoes)
    (rendered : format.render? = some render)
    (paths : records.map (·.path) = (OrderedSet.ofList files).toList.map Path.ofLocation)
    (encodable : ∀ l ∈ files, ∀ name ∈ l, name.IsEncodable) (cwd : Location) (base : Path) :
    (screen.echoed false (render cwd base (records.filter (·.hasNames)))).IsEncodable ↔
      format = .json ∨ ∀ d ∈ records, d.found.IsEncodable := by
  have inside : ∀ c : CodePoint, c.isSurrogate →
      (c ∈ screen.echoed false (render cwd base (records.filter (·.hasNames))) ↔
        format ≠ .json ∧ ∃ d ∈ records, d.found.Mentions c) := by
    intro c surrogate
    rw [echoes.surrogates _ _ c surrogate]
    refine mem_report_iff rendered (CodePoint.not_isCommon_of_isSurrogate surrogate) paths ?_ _ _
    exact fun l listed name named within => encodable l listed name named c within surrogate
  constructor
  · intro whole
    by_contra refuted
    obtain ⟨notDocument, some⟩ := not_or.mp refuted
    simp only [Extraction.IsEncodable, not_forall, not_not] at some
    obtain ⟨d, member, c, mentioned, surrogate⟩ := some
    exact whole c ((inside c surrogate).mpr ⟨notDocument, d, member, mentioned⟩) surrogate
  · intro given c member surrogate
    obtain ⟨notDocument, d, recorded, mentioned⟩ := (inside c surrogate).mp member
    exact (given.resolve_left notDocument) d recorded c mentioned surrogate

/-- A report is echoed as it is if it is a document, or if no escape character stands in the
names of the files or in the namespaces. -/
theorem echoed_report {screen : Console.Screen} (echoes : screen.Echoes)
    (rendered : format.render? = some render)
    (paths : records.map (·.path) = (OrderedSet.ofList files).toList.map Path.ofLocation)
    (free : format = .json ∨ (∀ l ∈ files, ∀ name ∈ l, Console.escapeCharacter ∉ name) ∧
      ∀ d ∈ records, ¬d.found.Mentions Console.escapeCharacter) (cwd : Location) (base : Path) :
    screen.echoed false (render cwd base (records.filter (·.hasNames))) =
      render cwd base (records.filter (·.hasNames)) := by
  refine echoes.plain _ _ fun inside => ?_
  rcases free with rfl | ⟨outside, unmentioned⟩
  · cases rendered
    exact (Report.isCommon_json cwd base _).not_mem Console.not_isCommon_escapeCharacter inside
  · obtain ⟨-, d, member, mentioned⟩ := (mem_report_iff rendered
      Console.not_isCommon_escapeCharacter paths outside cwd base).mp inside
    exact unmentioned d member mentioned

end Format

namespace Machine

variable {m : Machine} {arguments : List Text} {options : ProgramOptions} {settings : Settings}
  {format : Format} {render : Location → Path → List Dependencies → Text}

/-- The end and the results of a scan of named sources. -/
theorem run_scanOf {records : List Dependencies} (sound : m.host.Sound)
    (echoes : m.screen.Echoes)
    (called : m.CallsScan arguments options settings (scanOf format files))
    (rendered : format.render? = some render) (given : files ≠ [])
    (encodable : ∀ l ∈ files, ∀ name ∈ l, name.IsEncodable)
    (scanned : (((scanOf format files).scanner (m.context settings options)).scan m.host
      (files.map Location.toText)).outcome = .ok records)
    (paths : records.map (·.path) = (OrderedSet.ofList files).toList.map Path.ofLocation) :
    ((format = .json ∨ ∀ d ∈ records, d.found.IsEncodable) →
        (m.run arguments).exit.number = 0 ∧
          (m.run arguments).output.results =
            m.screen.echoed false
              (render m.host.cwd (Path.ofLocation m.host.cwd) (records.filter (·.hasNames)))) ∧
      (¬(format = .json ∨ ∀ d ∈ records, d.found.IsEncodable) →
        (m.run arguments).exit.number = 1 ∧ (m.run arguments).output.results = []) := by
  have targets : (scanOf format files).targets = files.map Location.toText := by
    simp [ScanOptions.targets, scanOf, given, Path.toText_ofLocation]
  have resolved : m.host.resolve (Path.ofLocation m.host.cwd) = .ok m.host.cwd := by
    obtain ⟨members, stands⟩ := sound.cwd
    exact Host.resolve_ofLocation stands rfl (sound.wellNamed.isName stands)
  rw [called.exit_run, called.results_run,
    ← Format.isEncodable_echoed echoes rendered paths encodable m.host.cwd
      (Path.ofLocation m.host.cwd)]
  exact ScanOptions.run_of_print rfl rendered resolved (targets ▸ scanned) _

/-- A lenient run that scans named sources and prints a report. The scan succeeds, with one
record for each source. If the report is a document, or no namespace has a surrogate, the run
succeeds and prints the report as the screen echoes it; otherwise it ends with a failure and
prints no report. The report is echoed as it is when it is a document, or when no escape character
stands in a file name or a namespace. -/
theorem printed_of_run (sound : m.host.Sound) (echoes : m.screen.Echoes)
    (called : m.CallsScan arguments options settings (scanOf format files))
    (lenient : settings.strict = false) (rendered : format.render? = some render)
    (given : files ≠ []) (sources : ∀ l ∈ files, m.host.IsSource l)
    (encodable : ∀ l ∈ files, ∀ name ∈ l, name.IsEncodable) :
    ∃ records report,
      (((scanOf format files).scanner (m.context settings options)).scan m.host
          (files.map Location.toText)).outcome = .ok records ∧
        records.map (·.path) = (OrderedSet.ofList files).toList.map Path.ofLocation ∧
        report =
          render m.host.cwd (Path.ofLocation m.host.cwd) (records.filter (·.hasNames)) ∧
        ((format = .json ∨ ∀ d ∈ records, d.found.IsEncodable) →
          (m.run arguments).exit.number = 0 ∧
            (m.run arguments).output.results = m.screen.echoed false report) ∧
        (¬(format = .json ∨ ∀ d ∈ records, d.found.IsEncodable) →
          (m.run arguments).exit.number = 1 ∧ (m.run arguments).output.results = []) ∧
        ((format = .json ∨ (∀ l ∈ files, ∀ name ∈ l, Console.escapeCharacter ∉ name) ∧
            ∀ d ∈ records, ¬d.found.Mentions Console.escapeCharacter) →
          m.screen.echoed false report = report) := by
  have notStrict : ((scanOf format files).scanner (m.context settings options)).strict = false :=
    lenient
  obtain ⟨records, scanned, paths⟩ :=
    Scanner.outcome_scan_sources notStrict sources sound.wellNamed
  obtain ⟨printed, failed⟩ := run_scanOf sound echoes called rendered given encodable scanned paths
  exact ⟨records, _, scanned, paths, rfl, printed, failed,
    fun free => Format.echoed_report echoes rendered paths free _ _⟩

/-! ## Half of a pair -/

/-- A source whose literal spells half of a surrogate pair. -/
def halfPair : Text := "goog.provide('\\ud800');"

/-- The call in that source. -/
def halfPairCall : Concrete where
  type := "call_expression"
  stop := 22
  children :=
    [{ type := "member_expression", stop := 12, field := some "function",
        children :=
          [{ type := "identifier", stop := 4, field := some "object" },
            { type := ".", start := 4, stop := 5, named := false },
            { type := "property_identifier", start := 5, stop := 12,
              field := some "property" }] },
      { type := "arguments", start := 12, stop := 22, field := some "arguments",
        children :=
          [{ type := "(", start := 12, stop := 13, named := false },
            { type := "string", start := 13, stop := 21 },
            { type := ")", start := 21, stop := 22, named := false }] }]

/-- The statement in that source. -/
def halfPairStatement : Concrete where
  type := "expression_statement"
  stop := 23
  children := [halfPairCall, { type := ";", start := 22, stop := 23, named := false }]

/-- The tree of that source. -/
def halfPairTree : Concrete where
  type := "program"
  stop := 23
  children := [halfPairStatement]

/-- A machine with that source. -/
def halfPairMachine : Machine where
  host := { files := { members := [("m.js", .file (Utf8.octets halfPair))] } }
  environment := {}
  grammar := fun _ => halfPairTree
  reader := Toml.load
  frontend := .standard
  screen := .standard
  around := { time := "", trace := "" }
  salt := "12345678"

theorem sound_halfPairMachine : halfPairMachine.host.Sound where
  wellNamed := rfl
  cwd := ⟨_, rfl⟩
  home := by decide
  accounts := List.forall_mem_nil _

theorem isSource_halfPair :
    ∀ l ∈ ([["m.js"]] : List Location), halfPairMachine.host.IsSource l := by
  intro l member
  cases List.mem_singleton.mp member
  exact ⟨Utf8.octets halfPair, halfPair, rfl, by decide, rfl⟩

theorem isEncodable_halfPair :
    ∀ l ∈ ([["m.js"]] : List Location), ∀ name ∈ l, name.IsEncodable := by
  intro l member name inside
  cases List.mem_singleton.mp member
  cases List.mem_singleton.mp inside
  exact Text.IsCommon.isEncodable (by decide)

theorem declares_halfPairCall :
    halfPairCall.Declares (Utf8.octets halfPair) "provide" [0xD800] where
  isCall := rfl
  callee := by
    refine ⟨_, _, rfl, Concrete.Unwraps.of_type (by decide), rfl, ⟨_, rfl, by decide⟩, by decide,
      ?_⟩
    exact ⟨_, _, rfl, Concrete.Unwraps.of_type (by decide), rfl, by decide⟩
  argument :=
    ⟨_, _, Concrete.FirstArgument.listed rfl rfl rfl, Concrete.Unwraps.of_type (by decide), rfl,
      by decide +kernel⟩

theorem regular_halfPairTree : halfPairTree.Regular (Utf8.octets halfPair) := by
  refine Concrete.Regular.of_children (by decide) (by decide) ?_
  simp only [halfPairTree, List.mem_singleton, forall_eq]
  refine Concrete.Regular.of_children (by decide) (by decide) ?_
  simp only [halfPairStatement, List.mem_cons, List.not_mem_nil, or_false, forall_eq_or_imp,
    forall_eq]
  refine ⟨Concrete.Regular.of_children (fun _ => ⟨_, rfl, by decide⟩) (by decide) ?_,
    Concrete.Regular.of_children (by decide) (by decide) (by simp)⟩
  simp only [halfPairCall, List.mem_cons, List.not_mem_nil, or_false, forall_eq_or_imp, forall_eq]
  constructor
  · refine Concrete.Regular.of_children (by decide) (by decide) ?_
    simp only [List.mem_cons, List.not_mem_nil, or_false, forall_eq_or_imp, forall_eq]
    refine ⟨?_, ?_, ?_⟩ <;> exact Concrete.Regular.of_children (by decide) (by decide) (by simp)
  · refine Concrete.Regular.of_children (by decide) (by decide) ?_
    simp only [List.mem_cons, List.not_mem_nil, or_false, forall_eq_or_imp, forall_eq]
    refine ⟨?_, ?_, ?_⟩ <;> exact Concrete.Regular.of_children (by decide) (by decide) (by simp)

theorem reaches_halfPairCall : halfPairTree.Reaches halfPairCall := by
  have statement : halfPairTree.Descends halfPairStatement :=
    ⟨_, Concrete.Takes.child (by decide) List.mem_cons_self rfl, by decide,
      Concrete.Unwraps.of_type (by decide)⟩
  have call : halfPairStatement.Descends halfPairCall :=
    ⟨_, Concrete.Takes.child (by decide) List.mem_cons_self rfl, by decide,
      Concrete.Unwraps.of_type (by decide)⟩
  exact Relation.ReflTransGen.head statement (Relation.ReflTransGen.single call)

/-- The record of the source has half of a pair for a namespace. -/
theorem scanned_halfPair (format : Format) :
    ∃ d, (((scanOf format [["m.js"]]).scanner (halfPairMachine.context {} {})).scan
        halfPairMachine.host ["/m.js"]).outcome = .ok [d] ∧
      d.path = Path.ofLocation ["m.js"] ∧ ¬d.found.IsEncodable := by
  have lenient : ((scanOf format [["m.js"]]).scanner (halfPairMachine.context {} {})).strict =
      false := rfl
  have collected : (((scanOf format [["m.js"]]).scanner (halfPairMachine.context {} {})).collect
      halfPairMachine.host ["/m.js"]).outcome = .ok (OrderedSet.ofList [["m.js"]]) := rfl
  have read : halfPairMachine.host.readSource (Path.ofLocation ["m.js"]) = .ok halfPair := rfl
  have source := Scanner.outcome_scanFile_of_not_strict lenient halfPairMachine.host ["m.js"]
    ["m.js"] rfl read rfl
  refine ⟨_, Scanner.outcome_scan_of_forall₂ collected
    (List.Forall₂.cons source List.Forall₂.nil), rfl, ?_⟩
  intro encodable
  have provided : ([0xD800] : Text) ∈
      (Extraction.ofTree (halfPairTree.convert (Utf8.octets halfPair))).names .provide :=
    (Concrete.mem_names_ofTree_convert_iff regular_halfPairTree .provide _).mpr
      ⟨_, reaches_halfPairCall, declares_halfPairCall⟩
  exact encodable 0xD800 (Or.inl ⟨_, provided, List.mem_cons_self⟩) (by decide)

/-- The words of a scan of the source come to that scan. -/
theorem callsScan_halfPair (format : Format) :
    halfPairMachine.CallsScan (scanWords format [["m.js"]]) {} {} (scanOf format [["m.js"]]) :=
  callsScan_scanWords format rfl rfl rfl rfl isSource_halfPair sound_halfPairMachine.wellNamed

/-- As a document the report is printed. -/
theorem printed_of_run_halfPair :
    halfPairMachine.host.Sound ∧
      (Settings.load Toml.load halfPairMachine.host none).outcome = .ok {} ∧
      (∀ l ∈ ([["m.js"]] : List Location), halfPairMachine.host.IsSource l) ∧
      ∃ records,
        (((scanOf .json [["m.js"]]).scanner (halfPairMachine.context {} {})).scan
            halfPairMachine.host ["/m.js"]).outcome = .ok records ∧
          records.map (·.path) = [Path.ofLocation ["m.js"]] ∧
          (halfPairMachine.run ["scan", "--format", "json", "/m.js"]).exit.number = 0 ∧
          (halfPairMachine.run ["scan", "--format", "json", "/m.js"]).output.results =
            Report.json [] (Path.ofLocation []) (records.filter (·.hasNames)) := by
  have rendered : Format.json.render? = some Report.json := rfl
  obtain ⟨records, report, scanned, paths, rfl, printed, -, whole⟩ :=
    printed_of_run sound_halfPairMachine Console.Screen.echoes_standard (callsScan_halfPair .json)
      rfl rendered (List.cons_ne_nil _ _) isSource_halfPair isEncodable_halfPair
  rw [whole (Or.inl rfl)] at printed
  exact ⟨sound_halfPairMachine, rfl, isSource_halfPair, records, scanned, paths,
    printed (Or.inl rfl)⟩

/-- As a list the report cannot be printed, and the run fails. -/
theorem unprinted_halfPair :
    halfPairMachine.host.Sound ∧
      (Settings.load Toml.load halfPairMachine.host none).outcome = .ok {} ∧
      (∀ l ∈ ([["m.js"]] : List Location), halfPairMachine.host.IsSource l) ∧
      (halfPairMachine.run ["scan", "--format", "simple", "/m.js"]).exit.number = 1 ∧
      (halfPairMachine.run ["scan", "--format", "simple", "/m.js"]).output.results = [] := by
  obtain ⟨d, scanned, path, surrogate⟩ := scanned_halfPair .simple
  have ended := run_scanOf sound_halfPairMachine Console.Screen.echoes_standard
    (callsScan_halfPair .simple) rfl (List.cons_ne_nil _ _) isEncodable_halfPair scanned
    (by rw [List.map_singleton, path]; rfl)
  refine ⟨sound_halfPairMachine, rfl, isSource_halfPair, ended.2 ?_⟩
  simp [surrogate]

end Machine

end Command

end NamespaceScan

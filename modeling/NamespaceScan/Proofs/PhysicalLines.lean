import NamespaceScan.Proofs.LiteralRoundTrip
import NamespaceScan.Proofs.Reading
import NamespaceScan.Proofs.ReportCharacters

/-!
# The lines of a file of registration lines

A line of a text ends in a line feed, in a carriage return, or in both together. A namespace can
hold either character, because a literal can spell it. Quoting escapes the line feeds of a
namespace and keeps its carriage returns, although no literal may hold one.

A record therefore takes one line more for each carriage return in its namespaces. A file of
registration lines has one line for each record exactly when no namespace holds one.
-/

namespace NamespaceScan

open Literal (lineFeed carriageReturn backslash singleQuote)

namespace Text

/-- No line ends inside of the text. -/
structure IsOneLine (t : Text) : Prop where
  noFeed : lineFeed ∉ t
  noReturn : carriageReturn ∉ t

/-- The lines of a text, whatever ends them. The last one is what stands behind the last end. -/
def physicalLines (t : Text) : List Text := splitOn lineFeed (unifyLines t)

theorem unifyLines_cons_of_ne {c : CodePoint} (differ : c ≠ carriageReturn) (rest : Text) :
    unifyLines (c :: rest) = c :: unifyLines rest := by
  have notPair : ∀ later, c = 0x0D → rest = 0x0A :: later → False :=
    fun _ same => absurd same differ
  rw [unifyLines.eq_3 c rest notPair]
  exact congrArg (· :: unifyLines rest) (if_neg differ)

theorem unifyLines_carriageReturn {rest : Text} (noFeed : rest.head? ≠ some lineFeed) :
    unifyLines (carriageReturn :: rest) = lineFeed :: unifyLines rest := by
  have notPair : ∀ later, carriageReturn = 0x0D → rest = 0x0A :: later → False := by
    rintro later - rfl
    exact noFeed rfl
  rw [unifyLines.eq_3 carriageReturn rest notPair]
  rfl

theorem physicalLines_lineFeed (rest : Text) :
    physicalLines (lineFeed :: rest) = [] :: physicalLines rest := by
  rw [physicalLines, unifyLines_cons_of_ne (by decide), splitOn_cons_self, physicalLines]

theorem physicalLines_carriageReturn {rest : Text} (noFeed : rest.head? ≠ some lineFeed) :
    physicalLines (carriageReturn :: rest) = [] :: physicalLines rest := by
  rw [physicalLines, unifyLines_carriageReturn noFeed, splitOn_cons_self, physicalLines]

theorem physicalLines_cons {c : CodePoint} (noFeed : c ≠ lineFeed) (noReturn : c ≠ carriageReturn)
    {rest line : Text} {others : List Text} (split : physicalLines rest = line :: others) :
    physicalLines (c :: rest) = (c :: line) :: others := by
  rw [physicalLines, unifyLines_cons_of_ne noReturn]
  exact splitOn_cons_of_ne noFeed split

/-- Before a line feed that no carriage return precedes, only carriage returns end lines. -/
theorem physicalLines_append {t : Text} (noFeed : lineFeed ∉ t)
    (ending : t.getLast? ≠ some carriageReturn) (rest : Text) :
    physicalLines (t ++ lineFeed :: rest) = splitOn carriageReturn t ++ physicalLines rest := by
  induction t with
  | nil => exact physicalLines_lineFeed rest
  | cons c t ih =>
      rw [List.mem_cons, not_or] at noFeed
      obtain ⟨notFeed, noFeed⟩ := noFeed
      by_cases isReturn : c = carriageReturn
      · subst isReturn
        obtain ⟨d, later, rfl⟩ : ∃ d later, t = d :: later := by
          refine List.exists_cons_of_ne_nil ?_
          rintro rfl
          exact ending rfl
        have next : d ≠ lineFeed := by
          rintro rfl
          exact noFeed List.mem_cons_self
        rw [List.getLast?_cons_cons] at ending
        rw [List.cons_append, physicalLines_carriageReturn (by simpa using next),
          ih noFeed ending, splitOn_cons_self, List.cons_append]
      · have endingRest : t.getLast? ≠ some carriageReturn := by
          cases t with
          | nil => simp
          | cons d later => rwa [List.getLast?_cons_cons] at ending
        obtain ⟨piece, pieces, split⟩ :=
          List.exists_cons_of_ne_nil (splitOn_ne_nil carriageReturn t)
        have behind := ih noFeed endingRest
        rw [split, List.cons_append] at behind
        rw [splitOn_cons_of_ne isReturn split]
        exact physicalLines_cons (Ne.symm notFeed) isReturn behind

/-- Texts with a line feed behind each of them have the lines that carriage returns end in
them. -/
theorem physicalLines_lines {texts : List Text} (noFeed : ∀ t ∈ texts, lineFeed ∉ t)
    (ending : ∀ t ∈ texts, t.getLast? ≠ some carriageReturn) :
    physicalLines (Report.lines texts) = texts.flatMap (splitOn carriageReturn) ++ [[]] := by
  induction texts with
  | nil => rfl
  | cons t texts ih =>
      obtain ⟨first, others⟩ := List.forall_mem_cons.mp noFeed
      obtain ⟨endingFirst, endingOthers⟩ := List.forall_mem_cons.mp ending
      have spelt : Report.lines (t :: texts) = t ++ lineFeed :: Report.lines texts := by
        simp [Report.lines, lineFeed]
      rw [spelt, physicalLines_append first endingFirst, ih others endingOthers,
        List.flatMap_cons, List.append_assoc]

end Text

open Text

/-! ## Registration lines -/

theorem Literal.lineFeed_not_mem_quote (value : Text) : lineFeed ∉ quote value := by
  have noFeed : lineFeed ∉ escaped value := by
    rw [escaped, List.mem_flatMap]
    rintro ⟨c, -, inside⟩
    split at inside
    · exact absurd inside (by decide)
    · split at inside
      · exact absurd inside (by decide)
      · split at inside
        · exact absurd inside (by decide)
        · rename_i other
          exact other (List.mem_singleton.mp inside).symm
  simpa [quote, noFeed] using (by decide : lineFeed ≠ singleQuote)

namespace Dependencies

theorem lineFeed_not_mem_literals (names : Names) : lineFeed ∉ literals names := by
  intro member
  rcases mem_of_mem_joinWith member with between | ⟨literal, listed, inside⟩
  · exact absurd between (by decide)
  · obtain ⟨name, -, rfl⟩ := List.mem_map.mp listed
    exact Literal.lineFeed_not_mem_quote name inside

/-- The line feeds of a registration line are those of its path. -/
theorem lineFeed_mem_line_iff {cwd : Location} {base : Option Path} {d : Dependencies} :
    lineFeed ∈ d.line cwd base ↔ lineFeed ∈ (d.reportedPath cwd base).toText := by
  have notBegin : lineFeed ∉ ("goog.addDependency('" : Text) := by decide
  have notFirst : lineFeed ∉ ("', [" : Text) := by decide
  have notSecond : lineFeed ∉ ("], [" : Text) := by decide
  have notEnd : lineFeed ∉ ("]);" : Text) := by decide
  have onlyPath : lineFeed ∈ quotable (d.reportedPath cwd base).toText ↔
      lineFeed ∈ (d.reportedPath cwd base).toText :=
    mem_substitute_iff (by decide) (by decide)
  simp [line, concat, notBegin, notFirst, notSecond, notEnd, lineFeed_not_mem_literals, onlyPath]

theorem getLast?_line (cwd : Location) (base : Option Path) (d : Dependencies) :
    (d.line cwd base).getLast? = some 0x3B := by
  have last : ("]);" : Text) = ("])" : Text) ++ [0x3B] := rfl
  simp [line, concat, last, ← List.append_assoc]

end Dependencies

namespace Report

/-- The lines at the beginning of a file of registration lines. -/
def headerLines : List Text :=
  ["// This file was autogenerated by closuredeps.", "// Please do not edit.", ""]

theorem deps_eq_lines (cwd : Location) (base : Path) (records : List Dependencies) :
    deps cwd base records = lines (headerLines ++ records.map (·.line cwd (some base))) := by
  have headerEq : header = lines headerLines := by decide +kernel
  rw [deps, headerEq, lines, lines, lines, List.flatMap_append]

/-- Without line feeds in the paths, a record takes one line and one more for each carriage
return. -/
theorem physicalLines_deps {cwd : Location} {base : Path} {records : List Dependencies}
    (noFeed : ∀ d ∈ records, lineFeed ∉ (d.reportedPath cwd (some base)).toText) :
    physicalLines (deps cwd base records) =
      headerLines ++
        records.flatMap (fun d => splitOn carriageReturn (d.line cwd (some base))) ++ [[]] := by
  have headerSplit : headerLines.flatMap (splitOn carriageReturn) = headerLines := by
    decide +kernel
  rw [deps_eq_lines, physicalLines_lines, List.flatMap_append, headerSplit, List.flatMap_map]
  · refine List.forall_mem_append.mpr ⟨by decide, List.forall_mem_map.mpr fun d member => ?_⟩
    exact fun inside => noFeed d member (Dependencies.lineFeed_mem_line_iff.mp inside)
  · refine List.forall_mem_append.mpr ⟨by decide, List.forall_mem_map.mpr fun d _ => ?_⟩
    rw [Dependencies.getLast?_line]
    decide

/-- A registration line never has a line feed when its path is on one line, but it has the
carriage returns of its namespaces. The file has one line for each record behind its header, and
nothing behind the last one, exactly when no namespace holds a carriage return. -/
theorem one_line_for_each_record (cwd : Location) :
    (∀ (base : Option Path) (d : Dependencies), (d.reportedPath cwd base).toText.IsOneLine →
      lineFeed ∉ d.line cwd base ∧
        (carriageReturn ∈ d.line cwd base ↔ d.found.Mentions carriageReturn)) ∧
      ∀ (base : Path) (records : List Dependencies),
        (∀ d ∈ records, (d.reportedPath cwd (some base)).toText.IsOneLine) →
          physicalLines (deps cwd base records) =
              headerLines ++
                records.flatMap (fun d => splitOn carriageReturn (d.line cwd (some base))) ++
                [[]] ∧
            (physicalLines (deps cwd base records) =
                headerLines ++ records.map (·.line cwd (some base)) ++ [[]] ↔
              ∀ d ∈ records, ¬d.found.Mentions carriageReturn) := by
  have returns : ∀ (base : Option Path) (d : Dependencies),
      (d.reportedPath cwd base).toText.IsOneLine →
        (carriageReturn ∈ d.line cwd base ↔ d.found.Mentions carriageReturn) :=
    fun base d oneLine => (mem_line_iff (by decide)).trans (or_iff_right oneLine.noReturn)
  refine ⟨fun base d oneLine => ⟨?_, returns base d oneLine⟩, fun base records oneLine => ?_⟩
  · exact fun inside => oneLine.noFeed (Dependencies.lineFeed_mem_line_iff.mp inside)
  have split := physicalLines_deps fun d member => (oneLine d member).noFeed
  refine ⟨split, ?_⟩
  rw [split, List.append_cancel_right_eq, List.append_cancel_left_eq]
  constructor
  · intro oneEach d member mentions
    have listed : d.line cwd (some base) ∈ records.map (·.line cwd (some base)) :=
      List.mem_map_of_mem member
    rw [← oneEach, List.mem_flatMap] at listed
    obtain ⟨other, -, piece⟩ := listed
    exact (of_mem_splitOn piece).1 ((returns _ d (oneLine d member)).mpr mentions)
  · intro noReturn
    rw [List.map_eq_flatMap]
    refine List.flatMap_congr fun d member => splitOn_of_not_mem fun inside => ?_
    exact noReturn d member ((returns _ d (oneLine d member)).mp inside)

/-- A file that provides a namespace with a line feed and quotes. -/
def feedFile : Dependencies where
  path := { anchor := .root, names := ["a.js"] }
  found := { provides := OrderedSet.ofList ["a\n'b'"] }

theorem one_line_for_each_record_feedFile :
    ((feedFile.reportedPath [] (some { anchor := .root })).toText.IsOneLine ∧
        ¬feedFile.found.Mentions carriageReturn) ∧
      physicalLines (deps [] { anchor := .root } [feedFile]) =
        headerLines ++ [feedFile.line [] (some { anchor := .root })] ++ [[]] := by
  have oneLine : (feedFile.reportedPath [] (some { anchor := .root })).toText.IsOneLine :=
    ⟨by decide, by decide⟩
  have noReturn : ¬feedFile.found.Mentions carriageReturn := by
    unfold Extraction.Mentions
    decide
  refine ⟨⟨oneLine, noReturn⟩, ?_⟩
  exact ((one_line_for_each_record []).2 _ [feedFile] (by simpa using oneLine)).2.mpr
    (by simpa using noReturn)

/-- A literal that spells a carriage return. -/
def returnSource : ByteArray := "'a\\rb'".toUTF8

/-- A file that provides the namespace that the literal spells. -/
def returnFile : Dependencies where
  path := { anchor := .root, names := ["a.js"] }
  found := { provides := OrderedSet.ofList ["a\rb"] }

theorem isLiteralValue_return : IsLiteralValue "a\rb" := by
  let literal : Concrete := { type := "string", stop := 6 }
  have value : Literal.decode (literal.text returnSource) = "a\rb" := by
    decide +kernel
  rw [← value]
  exact isLiteralValue_decode _ rfl

/-- The carriage return of the namespace ends a line in the middle of its literal. -/
theorem two_lines_returnFile :
    (∀ name ∈ returnFile.found.provides.toList, IsLiteralValue name) ∧
      returnFile.found.requires.toList = [] ∧
      (∀ c ∈ (returnFile.reportedPath [] (some { anchor := .root })).toText,
        ¬Literal.isLineTerminator c) ∧
      carriageReturn ∈ returnFile.line [] (some { anchor := .root }) ∧
      physicalLines (deps [] { anchor := .root } [returnFile]) =
        headerLines ++
          [Text.ofString "goog.addDependency('a.js', ['a", Text.ofString "b'], []);"] ++ [[]] := by
  have only : returnFile.found.provides.toList = [Text.ofString "a\rb"] := by decide
  have plain : ∀ c ∈ (returnFile.reportedPath [] (some { anchor := .root })).toText,
      ¬Literal.isLineTerminator c :=
    List.any_eq_false.mp (by decide)
  have spelt : returnFile.line [] (some { anchor := .root }) =
      Text.ofString "goog.addDependency('a.js', ['a" ++
        carriageReturn :: Text.ofString "b'], []);" := by
    decide +kernel
  refine ⟨?_, rfl, plain, ?_, ?_⟩
  · rw [only, List.forall_mem_singleton]
    exact isLiteralValue_return
  · rw [spelt]
    exact List.mem_append_right _ List.mem_cons_self
  · rw [physicalLines_deps fun d member inside => ?_, List.flatMap_singleton, spelt,
      splitOn_append (by decide), splitOn_of_not_mem (by decide)]
    cases List.mem_singleton.mp member
    exact plain _ inside rfl

end Report

end NamespaceScan

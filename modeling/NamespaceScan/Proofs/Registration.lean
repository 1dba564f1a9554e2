import Mathlib.Data.List.Chain
import NamespaceScan.Proofs.Literal
import NamespaceScan.Report.Format

/-!
# Registration lines can be told apart

Two different lists of dependencies never give the same file of registration lines.

A path is written with its quotes escaped and its backslashes as they are, so a path
that ends in a backslash seems to go on behind its closing quote. What the two ways
of escaping share is weaker: a quote inside of quotes always follows a backslash. A
reading that goes on where a piece ended is then inside of quotes wherever the right
reading is outside of them, at every later place, so it never reaches the end.
-/

namespace NamespaceScan

open Literal

namespace Registration

/-! ## Pieces of a line -/

/-- Every quote of the text follows a backslash. The opening quote before the text is
counted, so the text does not begin with a quote. -/
def Guarded (inside : Text) : Prop :=
  (singleQuote :: inside).IsChain fun before c => c = singleQuote → before = backslash

theorem not_guarded_quote (rest : Text) : ¬Guarded (singleQuote :: rest) := by
  intro guarded
  exact absurd ((List.isChain_cons_cons.mp guarded).1 rfl) (by decide)

/-- What follows a code point other than a backslash is guarded by itself. -/
theorem Guarded.tail {c : CodePoint} {rest : Text} (guarded : Guarded (c :: rest))
    (noBackslash : c ≠ backslash) : Guarded rest := by
  have chain := (List.isChain_cons_cons.mp guarded).2
  cases rest with
  | nil => exact List.isChain_singleton _
  | cons d later =>
      obtain ⟨step, chain⟩ := List.isChain_cons_cons.mp chain
      exact List.isChain_cons_cons.mpr ⟨fun isQuote => absurd (step isQuote) noBackslash, chain⟩

/-- What follows a quote inside of a guarded text is guarded by itself. -/
theorem Guarded.after_quote {front rest : Text}
    (guarded : Guarded (front ++ singleQuote :: rest)) : Guarded rest := by
  rw [Guarded, ← List.cons_append] at guarded
  exact (List.isChain_append.mp guarded).2.1

/-- A piece of a line: a code point outside of quotes, or a text between quotes. -/
inductive Piece where
  | plain (c : CodePoint) (noQuote : c ≠ singleQuote) (noBackslash : c ≠ backslash)
  | quoted (inside : Text) (guarded : Guarded inside)

/-- The text of a piece. -/
def Piece.text : Piece → Text
  | .plain c _ _ => [c]
  | .quoted inside _ => singleQuote :: inside ++ [singleQuote]

/-- The text of a sequence of pieces. -/
def textOf (pieces : List Piece) : Text := pieces.flatMap Piece.text

theorem textOf_plain (c : CodePoint) (noQuote : c ≠ singleQuote) (noBackslash : c ≠ backslash)
    (rest : List Piece) : textOf (.plain c noQuote noBackslash :: rest) = c :: textOf rest :=
  rfl

theorem textOf_quoted (inside : Text) (guarded : Guarded inside) (rest : List Piece) :
    textOf (.quoted inside guarded :: rest) =
      singleQuote :: (inside ++ singleQuote :: textOf rest) := by
  simp [textOf, Piece.text]

/-- No reading gets from inside of quotes back to the right reading: the two change
sides at the same quotes, so they never end together. -/
theorem out_of_step {inside : Text} (guarded : Guarded inside) (left right : List Piece) :
    textOf left ≠ inside ++ singleQuote :: textOf right := by
  intro equal
  cases left with
  | nil => simp [textOf] at equal
  | cons piece rest =>
      cases piece with
      | plain c noQuote noBackslash =>
          rw [textOf_plain] at equal
          cases inside with
          | nil => exact noQuote (List.cons.inj equal).1
          | cons d more =>
              obtain ⟨rfl, later⟩ := List.cons.inj equal
              exact out_of_step (guarded.tail noBackslash) rest right later
      | quoted other otherGuarded =>
          rw [textOf_quoted] at equal
          cases inside with
          | nil => exact out_of_step otherGuarded right rest (List.cons.inj equal).2.symm
          | cons d more =>
              obtain ⟨rfl, -⟩ := List.cons.inj equal
              exact not_guarded_quote more guarded
termination_by left.length + right.length

/-- Quoted pieces that begin at the same place end at the same place. -/
theorem quoted_inj {first second : Text} (firstGuarded : Guarded first)
    (secondGuarded : Guarded second) {left right : List Piece}
    (equal : first ++ singleQuote :: textOf left = second ++ singleQuote :: textOf right) :
    first = second ∧ textOf left = textOf right := by
  rcases List.append_eq_append_iff.mp equal with ⟨more, rfl, rest⟩ | ⟨more, rfl, rest⟩
  · cases more with
    | nil => simpa using rest
    | cons c more =>
        obtain ⟨rfl, later⟩ := List.cons.inj rest
        exact absurd later (out_of_step secondGuarded.after_quote left right)
  · cases more with
    | nil => simpa [eq_comm] using rest
    | cons c more =>
        obtain ⟨rfl, later⟩ := List.cons.inj rest
        exact absurd later (out_of_step firstGuarded.after_quote right left)

/-- A text is the text of at most one sequence of pieces. -/
theorem textOf_injective {left right : List Piece} (equal : textOf left = textOf right) :
    left = right := by
  induction left generalizing right with
  | nil =>
      cases right with
      | nil => rfl
      | cons piece rest => cases piece <;> simp [textOf, Piece.text] at equal
  | cons piece rest ih =>
      cases right with
      | nil => cases piece <;> simp [textOf, Piece.text] at equal
      | cons other later =>
          cases piece with
          | plain c noQuote noBackslash =>
              cases other with
              | plain d _ _ =>
                  rw [textOf_plain, textOf_plain] at equal
                  obtain ⟨rfl, same⟩ := List.cons.inj equal
                  rw [ih same]
              | quoted =>
                  rw [textOf_plain, textOf_quoted] at equal
                  exact absurd (List.cons.inj equal).1 noQuote
          | quoted inside guarded =>
              cases other with
              | plain d noQuote _ =>
                  rw [textOf_plain, textOf_quoted] at equal
                  exact absurd (List.cons.inj equal).1.symm noQuote
              | quoted otherInside otherGuarded =>
                  rw [textOf_quoted, textOf_quoted] at equal
                  obtain ⟨rfl, same⟩ :=
                    quoted_inj guarded otherGuarded (List.cons.inj equal).2
                  rw [ih same]

/-! ## Paths and namespaces between quotes -/

/-- A way of spelling is guarded when it spells each code point as itself, quotes
apart, or as a backslash and one more code point. -/
theorem guarded_of_cons {spell : Text → Text} (nil : spell [] = [])
    (cons : ∀ c rest, (∃ d, spell (c :: rest) = backslash :: d :: spell rest) ∨
      c ≠ singleQuote ∧ spell (c :: rest) = c :: spell rest) (t : Text) : Guarded (spell t) := by
  -- The spelling never begins with a quote, so the code point before it may be any.
  have chain : ∀ before, (before :: spell t).IsChain
      fun before c => c = singleQuote → before = backslash := by
    induction t with
    | nil =>
        rw [nil]
        exact List.isChain_singleton
    | cons c rest ih =>
        intro before
        rcases cons c rest with ⟨d, spelt⟩ | ⟨noQuote, spelt⟩
        · rw [spelt, List.isChain_cons_cons, List.isChain_cons_cons]
          exact ⟨fun isQuote => absurd isQuote (by decide), fun _ => rfl, ih d⟩
        · rw [spelt, List.isChain_cons_cons]
          exact ⟨fun isQuote => absurd isQuote noQuote, ih c⟩
  exact chain singleQuote

theorem guarded_escaped (value : Text) : Guarded (escaped value) := by
  apply guarded_of_cons rfl
  intro c rest
  rcases escaped_cons c rest with ⟨d, -, spelt⟩ | ⟨-, kept⟩
  · exact Or.inl ⟨d, spelt⟩
  · exact Or.inr kept

theorem quotable_cons (c : CodePoint) (rest : Text) :
    c = singleQuote ∧
        Dependencies.quotable (c :: rest) =
          backslash :: singleQuote :: Dependencies.quotable rest ∨
      c ≠ singleQuote ∧
        Dependencies.quotable (c :: rest) = c :: Dependencies.quotable rest := by
  by_cases isQuote : c = singleQuote
  · subst isQuote
    exact Or.inl ⟨rfl, rfl⟩
  · have notQuote : c ≠ 0x27 := isQuote
    exact Or.inr ⟨isQuote, by simp [Dependencies.quotable, Text.substitute, notQuote]⟩

theorem guarded_quotable (path : Text) : Guarded (Dependencies.quotable path) := by
  apply guarded_of_cons rfl
  intro c rest
  rcases quotable_cons c rest with ⟨-, spelt⟩ | kept
  · exact Or.inl ⟨singleQuote, spelt⟩
  · exact Or.inr kept

theorem quotable_injective {left right : Text}
    (equal : Dependencies.quotable left = Dependencies.quotable right) : left = right := by
  have noQuote : ∀ {t rest : Text}, singleQuote :: rest ≠ Dependencies.quotable t := by
    intro t rest begun
    exact not_guarded_quote rest (begun ▸ guarded_quotable t)
  induction left generalizing right with
  | nil =>
      cases right with
      | nil => rfl
      | cons d rest =>
          rcases quotable_cons d rest with ⟨-, spelt⟩ | ⟨-, spelt⟩ <;>
            exact absurd (equal.trans spelt) (List.cons_ne_nil _ _).symm
  | cons c later ih =>
      cases right with
      | nil =>
          rcases quotable_cons c later with ⟨-, spelt⟩ | ⟨-, spelt⟩ <;>
            exact absurd (spelt.symm.trans equal) (List.cons_ne_nil _ _)
      | cons d rest =>
          rcases quotable_cons c later with ⟨rfl, leftEq⟩ | ⟨-, leftEq⟩ <;>
            rcases quotable_cons d rest with ⟨rfl, rightEq⟩ | ⟨-, rightEq⟩ <;>
            rw [leftEq, rightEq, List.cons.injEq] at equal
          · rw [ih (List.cons.inj equal.2).2]
          · exact absurd equal.2 noQuote
          · exact absurd equal.2.symm noQuote
          · rw [equal.1, ih equal.2]

/-! ## Whole lines -/

/-- A text outside of quotes as pieces. -/
def outside : (t : Text) → singleQuote ∉ t ∧ backslash ∉ t → List Piece
  | [], _ => []
  | c :: rest, plain =>
      .plain c (List.ne_of_not_mem_cons plain.1).symm (List.ne_of_not_mem_cons plain.2).symm ::
        outside rest ⟨List.not_mem_of_not_mem_cons plain.1, List.not_mem_of_not_mem_cons plain.2⟩

theorem textOf_outside (t : Text) (plain : singleQuote ∉ t ∧ backslash ∉ t) :
    textOf (outside t plain) = t := by
  induction t with
  | nil => rfl
  | cons c rest ih => rw [outside, textOf_plain, ih]

/-- A namespace as a piece. -/
def literalPiece (name : Text) : Piece := .quoted (escaped name) (guarded_escaped name)

/-- The namespaces after the first one as pieces. -/
def morePieces (names : List Text) : List Piece :=
  names.flatMap fun name => outside ", " (by decide) ++ [literalPiece name]

/-- The namespaces of a list as pieces. -/
def listPieces : List Text → List Piece
  | [] => []
  | name :: names => literalPiece name :: morePieces names

/-- A registration line with its line feed as pieces. -/
def linePieces (path : Text) (provides requires : List Text) : List Piece :=
  outside "goog.addDependency(" (by decide) ++
    .quoted (Dependencies.quotable path) (guarded_quotable path) ::
    outside ", [" (by decide) ++ listPieces provides ++ outside "], [" (by decide) ++
    listPieces requires ++ outside "]);\n" (by decide)

theorem textOf_append (left right : List Piece) :
    textOf (left ++ right) = textOf left ++ textOf right :=
  List.flatMap_append

theorem textOf_morePieces (names : List Text) :
    textOf (morePieces names) = (names.map quote).flatMap (Text.ofString ", " ++ ·) := by
  induction names with
  | nil => rfl
  | cons name rest ih =>
      rw [List.map_cons, List.flatMap_cons, ← ih]
      rfl

theorem textOf_listPieces (names : Names) :
    textOf (listPieces names.toList) = Dependencies.literals names := by
  rw [Dependencies.literals]
  cases names.toList with
  | nil => rfl
  | cons name rest =>
      rw [List.map_cons, Text.joinWith_cons, ← textOf_morePieces]
      rfl

/-- The pieces of a line spell the line. -/
theorem textOf_linePieces (cwd : Location) (base : Option Path) (d : Dependencies) :
    textOf (linePieces (d.reportedPath cwd base).toText d.found.provides.toList
        d.found.requires.toList) = d.line cwd base ++ [0x0A] := by
  have opening : Text.ofString "goog.addDependency('" =
      Text.ofString "goog.addDependency(" ++ [singleQuote] := by decide
  have closing : Text.ofString "', [" = singleQuote :: Text.ofString ", [" := by decide
  have ending : Text.ofString "]);\n" = Text.ofString "]);" ++ [0x0A] := by decide
  simp only [linePieces, textOf_append, textOf_quoted, textOf_outside, textOf_listPieces,
    Dependencies.line, Text.concat, opening, closing, ending]
  simp

/-! ## Reading the pieces back -/

/-- The comma before each name but the first. -/
def comma : Piece := .plain 0x2C (by decide) (by decide)

/-- The bracket behind a list of names. -/
def bracket : Piece := .plain 0x5D (by decide) (by decide)

theorem bracket_ne_comma : bracket ≠ comma := by
  intro equal
  exact absurd (Piece.plain.inj equal) (by decide)

theorem bracket_ne_literalPiece (name : Text) : bracket ≠ literalPiece name := by
  intro equal
  cases equal

theorem literalPiece_injective {left right : Text}
    (equal : literalPiece left = literalPiece right) : left = right :=
  escaped_injective (Piece.quoted.inj equal)

/-- The names behind the first one end where the bracket stands. -/
theorem morePieces_inj {left right : List Text} {rest later : List Piece}
    (equal : morePieces left ++ bracket :: rest = morePieces right ++ bracket :: later) :
    left = right ∧ rest = later := by
  induction left generalizing right with
  | nil =>
      cases right with
      | nil => exact ⟨rfl, (List.cons.inj equal).2⟩
      | cons name names => exact absurd (List.cons.inj equal).1 bracket_ne_comma
  | cons name names ih =>
      cases right with
      | nil => exact absurd (List.cons.inj equal).1.symm bracket_ne_comma
      | cons other others =>
          -- A comma and a blank stand before each of the two names.
          have fromNames := (List.cons.inj (List.cons.inj equal).2).2
          obtain ⟨sameName, sameRest⟩ := List.cons.inj fromNames
          obtain ⟨rfl, rfl⟩ := ih sameRest
          exact ⟨congrArg (· :: names) (literalPiece_injective sameName), rfl⟩

/-- A list of names ends where the bracket stands. -/
theorem listPieces_inj {left right : List Text} {rest later : List Piece}
    (equal : listPieces left ++ bracket :: rest = listPieces right ++ bracket :: later) :
    left = right ∧ rest = later := by
  cases left with
  | nil =>
      cases right with
      | nil => exact ⟨rfl, (List.cons.inj equal).2⟩
      | cons name names => exact absurd (List.cons.inj equal).1 (bracket_ne_literalPiece name)
  | cons name names =>
      cases right with
      | nil => exact absurd (List.cons.inj equal).1.symm (bracket_ne_literalPiece name)
      | cons other others =>
          obtain ⟨sameName, sameRest⟩ := List.cons.inj equal
          obtain ⟨rfl, rfl⟩ := morePieces_inj sameRest
          exact ⟨congrArg (· :: names) (literalPiece_injective sameName), rfl⟩

/-- A line gives back its path and its names, whatever follows it. -/
theorem linePieces_inj {path otherPath : Text} {provides requires : List Text}
    {otherProvides otherRequires : List Text} {rest later : List Piece}
    (equal : linePieces path provides requires ++ rest =
      linePieces otherPath otherProvides otherRequires ++ later) :
    path = otherPath ∧ provides = otherProvides ∧ requires = otherRequires ∧ rest = later := by
  simp only [linePieces, List.append_assoc, List.cons_append] at equal
  obtain ⟨samePath, afterPath⟩ := List.cons.inj (List.append_cancel_left equal)
  obtain ⟨sameProvides, afterProvides⟩ := listPieces_inj (List.append_cancel_left afterPath)
  obtain ⟨sameRequires, afterRequires⟩ :=
    listPieces_inj (List.append_cancel_left afterProvides)
  exact ⟨quotable_injective (Piece.quoted.inj samePath), sameProvides, sameRequires,
    List.append_cancel_left afterRequires⟩

/-! ## Whole files -/

/-- The lines of a file as pieces. -/
def filePieces (cwd : Location) (base : Option Path) (records : List Dependencies) : List Piece :=
  records.flatMap fun d =>
    linePieces (d.reportedPath cwd base).toText d.found.provides.toList d.found.requires.toList

theorem textOf_filePieces (cwd : Location) (base : Option Path) (records : List Dependencies) :
    textOf (filePieces cwd base records) = Report.lines (records.map (·.line cwd base)) := by
  induction records with
  | nil => rfl
  | cons d rest ih =>
      rw [filePieces, List.flatMap_cons, textOf_append, textOf_linePieces]
      exact congrArg _ ih

theorem linePieces_ne_nil (path : Text) (provides requires : List Text) :
    linePieces path provides requires ≠ [] := by
  simp [linePieces]

/-- The records agree in what a registration line tells about them. -/
theorem forall₂_of_filePieces_eq {cwd cwd' : Location} {base base' : Option Path}
    {records records' : List Dependencies}
    (equal : filePieces cwd base records = filePieces cwd' base' records') :
    List.Forall₂
      (fun d d' => (d.reportedPath cwd base).toText = (d'.reportedPath cwd' base').toText ∧
        d.found.provides = d'.found.provides ∧ d.found.requires = d'.found.requires)
      records records' := by
  induction records generalizing records' with
  | nil =>
      cases records' with
      | nil => exact List.Forall₂.nil
      | cons d' rest' =>
          exact absurd (List.append_eq_nil_iff.mp equal.symm).1 (linePieces_ne_nil _ _ _)
  | cons d rest ih =>
      cases records' with
      | nil => exact absurd (List.append_eq_nil_iff.mp equal).1 (linePieces_ne_nil _ _ _)
      | cons d' rest' =>
          obtain ⟨samePath, sameProvides, sameRequires, sameRest⟩ := linePieces_inj equal
          exact List.Forall₂.cons ⟨samePath, OrderedSet.ext_toList sameProvides,
            OrderedSet.ext_toList sameRequires⟩ (ih sameRest)

end Registration

/-- A file of registration lines determines, record by record, the path that is
reported, the provided and the required namespaces. -/
theorem Report.eq_of_deps_eq {cwd cwd' : Location} {base base' : Path}
    {records records' : List Dependencies}
    (equal : Report.deps cwd base records = Report.deps cwd' base' records') :
    records.length = records'.length ∧
      List.Forall₂
        (fun d d' =>
          (d.reportedPath cwd (some base)).toText = (d'.reportedPath cwd' (some base')).toText ∧
            d.found.provides = d'.found.provides ∧ d.found.requires = d'.found.requires)
        records records' := by
  have sameLines := List.append_cancel_left equal
  rw [← Registration.textOf_filePieces, ← Registration.textOf_filePieces] at sameLines
  have agree := Registration.forall₂_of_filePieces_eq (Registration.textOf_injective sameLines)
  exact ⟨agree.length_eq, agree⟩

namespace Registration

/-- A file whose name ends in a backslash, named from its own directory. -/
def nearRecord : Dependencies where
  path := { names := ["b\\"] }
  found := { provides := OrderedSet.ofList ["c'"] }

/-- The same file, named from the root. -/
def farRecord : Dependencies where
  path := { anchor := .root, names := ["a", "b\\"] }
  found := { provides := OrderedSet.ofList ["c'"] }
  errorLines := [3]

theorem deps_nearRecord :
    Report.deps ["a"] { anchor := .root, names := ["a"] } [nearRecord] =
      Report.deps [] { names := ["a"] } [farRecord] := by
  decide +kernel

theorem eq_of_deps_eq_nearRecord :
    Report.deps ["a"] { anchor := .root, names := ["a"] } [nearRecord] =
        Report.deps [] { names := ["a"] } [farRecord] ∧
      [nearRecord].length = [farRecord].length ∧
      List.Forall₂
        (fun d d' =>
          (d.reportedPath ["a"] (some { anchor := .root, names := ["a"] })).toText =
              (d'.reportedPath [] (some { names := ["a"] })).toText ∧
            d.found.provides = d'.found.provides ∧ d.found.requires = d'.found.requires)
        [nearRecord] [farRecord] :=
  ⟨deps_nearRecord, Report.eq_of_deps_eq deps_nearRecord⟩

end Registration

end NamespaceScan

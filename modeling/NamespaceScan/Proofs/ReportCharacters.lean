import Mathlib.Logic.Basic
import NamespaceScan.Console.Codes
import NamespaceScan.Proofs.Literal
import NamespaceScan.Proofs.Resolution
import NamespaceScan.Proofs.Text
import NamespaceScan.Report.Format

/-!
# Characters of reports

The characters that a report has by itself are line feeds and printable ASCII. A document has
no others, because it escapes them. A list and a file of registration lines have besides them
the characters of the paths and the namespaces of their records, whole and unescaped.

Two kinds of characters matter for printing, and no report has them by itself: surrogates,
which have no octets, and the character that begins a code for a terminal.
-/

namespace NamespaceScan

/-- A character that reports have by themselves. -/
def CodePoint.isCommon (c : CodePoint) : Bool := c = 0x0A || (0x20 ≤ c.val && c.val < 0x7F)

namespace Text

/-- All characters of the text are common. -/
def IsCommon (t : Text) : Prop := ∀ c ∈ t, c.isCommon

instance decidableIsCommon (t : Text) : Decidable t.IsCommon :=
  decidable_of_iff (t.all CodePoint.isCommon) List.all_eq_true

/-- No surrogate stands in the text. -/
def IsEncodable (t : Text) : Prop := ∀ c ∈ t, ¬c.isSurrogate

theorem IsCommon.not_mem {t : Text} {c : CodePoint} (common : t.IsCommon)
    (rare : ¬c.isCommon) : c ∉ t :=
  fun member => rare (common c member)

@[simp]
theorem isCommon_cons {c : CodePoint} {t : Text} :
    IsCommon (c :: t) ↔ c.isCommon ∧ t.IsCommon :=
  List.forall_mem_cons

@[simp]
theorem isCommon_append {t other : Text} :
    IsCommon (t ++ other) ↔ t.IsCommon ∧ other.IsCommon :=
  List.forall_mem_append

@[simp]
theorem isCommon_concat {parts : List Text} :
    (concat parts).IsCommon ↔ ∀ part ∈ parts, part.IsCommon :=
  List.forall_mem_flatten

@[simp]
theorem isCommon_flatMap {α : Type} {members : List α} {f : α → Text} :
    IsCommon (members.flatMap f) ↔ ∀ a ∈ members, (f a).IsCommon :=
  List.forall_mem_flatMap

theorem isCommon_joinWith {separator : Text} {parts : List Text}
    (between : separator.IsCommon) (common : ∀ part ∈ parts, part.IsCommon) :
    (joinWith separator parts).IsCommon := by
  intro c member
  rcases mem_of_mem_joinWith member with inside | ⟨part, listed, inside⟩
  · exact between c inside
  · exact common part listed c inside

theorem isCommon_hexDigit (n : Nat) : (CodePoint.hexDigit n).isCommon := by
  unfold CodePoint.hexDigit
  split
  · have number : (0x30 + n % 16) % 0x110000 = 0x30 + n % 16 := Nat.mod_eq_of_lt (by omega)
    simp [CodePoint.isCommon, Fin.ofNat, number]
    omega
  · have number : (0x61 + (n % 16 - 10)) % 0x110000 = 0x61 + (n % 16 - 10) :=
      Nat.mod_eq_of_lt (by omega)
    simp [CodePoint.isCommon, Fin.ofNat, number]
    omega

theorem isCommon_hexDigits (width n : Nat) : (hexDigits width n).IsCommon := by
  induction width generalizing n with
  | zero => exact List.forall_mem_nil _
  | succ width ih =>
      have last : IsCommon [CodePoint.hexDigit n] :=
        List.forall_mem_singleton.mpr (isCommon_hexDigit n)
      exact isCommon_append.mpr ⟨ih (n / 16), last⟩

theorem isCommon_ofNat (n : Nat) : (ofNat n).IsCommon := by
  intro c member
  obtain ⟨digit, inside, rfl⟩ := List.mem_map.mp member
  have isDigit : digit.isDigit := Nat.isDigit_of_mem_toDigits (by decide) (by decide) inside
  have bounds : 0x30 ≤ digit.toNat ∧ digit.toNat ≤ 0x39 := by
    simpa [Char.isDigit, UInt32.le_iff_toNat_le] using isDigit
  have number : (CodePoint.ofChar digit).val = digit.toNat :=
    Nat.mod_eq_of_lt (by omega)
  simp only [CodePoint.isCommon, number, Bool.or_eq_true, Bool.and_eq_true, decide_eq_true_eq]
  omega

variable {c : CodePoint}

/-- Apart from the separator, joined parts have the characters of the parts. -/
theorem mem_joinWith_iff {separator : Text} {parts : List Text} (outside : c ∉ separator) :
    c ∈ joinWith separator parts ↔ ∃ part ∈ parts, c ∈ part := by
  constructor
  · intro member
    exact (mem_of_mem_joinWith member).resolve_left outside
  · rintro ⟨part, listed, inside⟩
    exact mem_joinWith_of_mem listed inside

/-- A substitution leaves all other characters as they are. -/
theorem mem_substitute_iff {target : CodePoint} {replacement t : Text} (differ : c ≠ target)
    (outside : c ∉ replacement) : c ∈ substitute target replacement t ↔ c ∈ t := by
  rw [substitute, List.mem_flatMap]
  constructor
  · rintro ⟨old, member, inside⟩
    split at inside
    · exact absurd inside outside
    · exact List.mem_singleton.mp inside ▸ member
  · intro member
    refine ⟨c, member, ?_⟩
    rw [if_neg differ]
    exact List.mem_singleton_self c

end Text

open Text

/-! ## Rare characters -/

theorem CodePoint.not_isCommon_of_isSurrogate {c : CodePoint} (surrogate : c.isSurrogate) :
    ¬c.isCommon := by
  simp only [isSurrogate, Bool.and_eq_true, decide_eq_true_eq] at surrogate
  simp only [isCommon, Bool.or_eq_true, Bool.and_eq_true, decide_eq_true_eq, Fin.ext_iff]
  have feed : (0x0A : CodePoint).val = 0x0A := rfl
  omega

theorem Text.IsCommon.isEncodable {t : Text} (common : t.IsCommon) : t.IsEncodable :=
  fun c member surrogate =>
    CodePoint.not_isCommon_of_isSurrogate surrogate (common c member)

namespace Console

theorem not_isCommon_escapeCharacter : ¬escapeCharacter.isCommon := by
  decide

/-- A text that no escape character stands in has no codes. -/
theorem withoutCodes_of_not_mem {t : Text} (free : escapeCharacter ∉ t) : withoutCodes t = t := by
  fun_induction withoutCodes t with
  | case1 => rfl
  | case2 c rest later behind _ ih =>
      obtain ⟨parameters, letter, whole, -, -⟩ := eq_append_of_afterCode? behind
      exact absurd (whole ▸ List.mem_cons_self) free
  | case3 c rest behind ih =>
      rw [ih fun member => free (List.mem_cons_of_mem c member)]

/-- No code has a surrogate, so texts keep theirs. -/
theorem mem_withoutCodes_iff {c : CodePoint} (surrogate : c.isSurrogate) (t : Text) :
    c ∈ withoutCodes t ↔ c ∈ t := by
  have large : 0xD800 ≤ c.val := by
    simp only [CodePoint.isSurrogate, Bool.and_eq_true, decide_eq_true_eq] at surrogate
    exact surrogate.1
  fun_induction withoutCodes t with
  | case1 => rfl
  | case2 first rest later behind _ ih =>
      obtain ⟨parameters, letter, whole, isParameters, isLetter⟩ :=
        eq_append_of_afterCode? behind
      have notOpening : c ≠ escapeCharacter ∧ c ≠ 0x5B := by
        constructor <;> rintro rfl <;> exact absurd surrogate (by decide)
      have notParameter : c ∉ parameters := by
        intro member
        have small := isParameters c member
        simp only [isParameter, CodePoint.isDigit, Bool.or_eq_true, Bool.and_eq_true,
          decide_eq_true_eq] at small
        rcases small with (digit | rfl) | rfl
        · omega
        · exact absurd surrogate (by decide)
        · exact absurd surrogate (by decide)
      have notLetter : c ≠ letter := by
        rintro rfl
        simp only [CodePoint.isLatinLetter, Bool.or_eq_true, Bool.and_eq_true,
          decide_eq_true_eq] at isLetter
        omega
      simp [ih, whole, notOpening, notParameter, notLetter]
  | case3 first rest behind ih => simp only [List.mem_cons, ih]

end Console

/-! ## Documents -/

namespace Document

theorem isCommon_unitEscape (unit : Nat) : (unitEscape unit).IsCommon :=
  isCommon_append.mpr ⟨by decide, isCommon_hexDigits 4 unit⟩

theorem isCommon_escaped (c : CodePoint) : (escaped c).IsCommon := by
  unfold escaped
  -- The seven escapes that have a letter or a sign of their own are plain texts.
  iterate 7
    split
    · decide
  split
  · rename_i printable
    have common : c.isCommon := by
      simp only [CodePoint.isCommon, Bool.or_eq_true, Bool.and_eq_true, decide_eq_true_eq]
      exact Or.inr printable
    exact isCommon_cons.mpr ⟨common, List.forall_mem_nil _⟩
  · exact isCommon_flatMap.mpr fun unit _ => isCommon_unitEscape unit

theorem isCommon_quoted (t : Text) : (quoted t).IsCommon := by
  have quotes : IsCommon [0x22] := by decide
  have inside : IsCommon (t.flatMap escaped) :=
    isCommon_flatMap.mpr fun c _ => isCommon_escaped c
  exact isCommon_append.mpr ⟨isCommon_append.mpr ⟨quotes, inside⟩, quotes⟩

theorem isCommon_newLine (depth : Nat) : (newLine depth).IsCommon := by
  refine isCommon_cons.mpr ⟨by decide, ?_⟩
  intro c member
  rw [List.eq_of_mem_replicate member]
  decide

theorem isCommon_bracketed {opening closing : CodePoint} {items : List Text}
    (brackets : IsCommon [opening, closing]) (depth : Nat)
    (common : ∀ item ∈ items, item.IsCommon) :
    (bracketed opening closing depth items).IsCommon := by
  unfold bracketed
  split
  · exact brackets
  · have separator : IsCommon (0x2C :: newLine (depth + 1)) :=
      isCommon_cons.mpr ⟨by decide, isCommon_newLine _⟩
    have joined := isCommon_joinWith separator common
    simp only [isCommon_cons] at brackets
    simp [brackets, isCommon_newLine, joined]

mutual

theorem isCommon_textAt : (d : Document) → (depth : Nat) → (textAt depth d).IsCommon
  | .number n, _ => isCommon_ofNat n
  | .text t, _ => isCommon_quoted t
  | .list items, depth =>
      isCommon_bracketed (by decide) depth (isCommon_itemTexts items (depth + 1))
  | .table entries, depth =>
      isCommon_bracketed (by decide) depth (isCommon_entryTexts entries (depth + 1))

theorem isCommon_itemTexts : (items : List Document) → (depth : Nat) →
    ∀ text ∈ itemTexts depth items, text.IsCommon
  | [], _ => List.forall_mem_nil _
  | item :: rest, depth =>
      List.forall_mem_cons.mpr
        ⟨isCommon_textAt item depth, isCommon_itemTexts rest depth⟩

theorem isCommon_entryTexts : (entries : List (Text × Document)) → (depth : Nat) →
    ∀ text ∈ entryTexts depth entries, text.IsCommon
  | [], _ => List.forall_mem_nil _
  | (key, value) :: rest, depth =>
      have named : (quoted key ++ ": ").IsCommon :=
        isCommon_append.mpr ⟨isCommon_quoted key, by decide⟩
      List.forall_mem_cons.mpr
        ⟨isCommon_append.mpr ⟨named, isCommon_textAt value depth⟩,
          isCommon_entryTexts rest depth⟩

end

end Document

/-! ## Reports -/

/-- The character stands in a namespace that was found. -/
def Extraction.Mentions (e : Extraction) (c : CodePoint) : Prop :=
  (∃ name ∈ e.provides.toList, c ∈ name) ∨ ∃ name ∈ e.requires.toList, c ∈ name

/-- All namespaces that were found can be encoded. -/
def Extraction.IsEncodable (e : Extraction) : Prop := ∀ c, e.Mentions c → ¬c.isSurrogate

namespace Report

variable {cwd : Location} {base : Path} {records : List Dependencies} {c : CodePoint}

/-- A document has nothing but common characters. -/
theorem isCommon_json (cwd : Location) (base : Path) (records : List Dependencies) :
    (json cwd base records).IsCommon :=
  isCommon_append.mpr ⟨Document.isCommon_textAt _ 0, by decide⟩

theorem mem_lines_iff (rare : ¬c.isCommon) {texts : List Text} :
    c ∈ lines texts ↔ ∃ t ∈ texts, c ∈ t := by
  have notFeed : c ∉ ([0x0A] : Text) := IsCommon.not_mem (by decide) rare
  simp only [lines, List.mem_flatMap, List.mem_append, notFeed, or_false]

theorem mem_inLine_iff (rare : ¬c.isCommon) {names : Names} :
    c ∈ inLine names ↔ ∃ name ∈ names.toList, c ∈ name := by
  have notComma : c ∉ (", " : Text) := IsCommon.not_mem (by decide) rare
  have notDash : c ∉ ("-" : Text) := IsCommon.not_mem (by decide) rare
  rw [← mem_joinWith_iff notComma, inLine, orElse]
  split
  · rename_i void
    simp [void, notDash]
  · rfl

/-- Apart from common characters, a list of files has those of paths and namespaces. -/
theorem mem_simple_iff (rare : ¬c.isCommon) :
    c ∈ simple cwd base records ↔
      ∃ d ∈ records, c ∈ (d.reportedPath cwd (some base)).toText ∨ d.found.Mentions c := by
  have notFirst : c ∉ ("  provides: " : Text) := IsCommon.not_mem (by decide) rare
  have notSecond : c ∉ ("  requires: " : Text) := IsCommon.not_mem (by decide) rare
  rw [simple, mem_lines_iff rare]
  simp only [List.mem_flatMap, List.mem_cons, List.not_mem_nil, or_false]
  constructor
  · rintro ⟨_, ⟨d, member, rfl | rfl | rfl⟩, inside⟩ <;> refine ⟨d, member, ?_⟩
    · exact Or.inl inside
    · rw [List.mem_append, mem_inLine_iff rare] at inside
      exact Or.inr (Or.inl (inside.resolve_left notFirst))
    · rw [List.mem_append, mem_inLine_iff rare] at inside
      exact Or.inr (Or.inr (inside.resolve_left notSecond))
  · rintro ⟨d, member, inside | inside | inside⟩
    · exact ⟨_, ⟨d, member, Or.inl rfl⟩, inside⟩
    · exact ⟨_, ⟨d, member, Or.inr (Or.inl rfl)⟩,
        List.mem_append_right _ ((mem_inLine_iff rare).mpr inside)⟩
    · exact ⟨_, ⟨d, member, Or.inr (Or.inr rfl)⟩,
        List.mem_append_right _ ((mem_inLine_iff rare).mpr inside)⟩

theorem mem_quote_iff (rare : ¬c.isCommon) {t : Text} : c ∈ Literal.quote t ↔ c ∈ t := by
  have notSign : ∀ sign : CodePoint, sign.isCommon → c ≠ sign :=
    fun sign common same => rare (same ▸ common)
  have notFeed : c ≠ Literal.lineFeed := notSign _ (by decide)
  have notQuote : c ≠ Literal.singleQuote := notSign _ (by decide)
  have notBackslash : c ≠ Literal.backslash := notSign _ (by decide)
  have notLetter : c ≠ 0x6E := notSign _ (by decide)
  have escapes : c ∈ Literal.escaped t ↔ c ∈ t := by
    rw [Literal.escaped_eq_substitute,
      mem_substitute_iff notFeed (by simp [notBackslash, notLetter]),
      mem_substitute_iff notQuote (by simp [notBackslash, notQuote]),
      mem_substitute_iff notBackslash (by simp [notBackslash])]
  simp [Literal.quote, notQuote, escapes]

theorem mem_literals_iff (rare : ¬c.isCommon) {names : Names} :
    c ∈ Dependencies.literals names ↔ ∃ name ∈ names.toList, c ∈ name := by
  have notComma : c ∉ (", " : Text) := IsCommon.not_mem (by decide) rare
  rw [Dependencies.literals, mem_joinWith_iff notComma]
  simp only [List.mem_map, exists_exists_and_eq_and, mem_quote_iff rare]

theorem mem_quotable_iff (rare : ¬c.isCommon) {t : Text} :
    c ∈ Dependencies.quotable t ↔ c ∈ t := by
  refine mem_substitute_iff ?_ (IsCommon.not_mem (by decide) rare)
  rintro rfl
  exact rare (by decide)

theorem mem_line_iff (rare : ¬c.isCommon) {base : Option Path} {d : Dependencies} :
    c ∈ d.line cwd base ↔ c ∈ (d.reportedPath cwd base).toText ∨ d.found.Mentions c := by
  have notBegin : c ∉ ("goog.addDependency('" : Text) := IsCommon.not_mem (by decide) rare
  have notFirst : c ∉ ("', [" : Text) := IsCommon.not_mem (by decide) rare
  have notSecond : c ∉ ("], [" : Text) := IsCommon.not_mem (by decide) rare
  have notEnd : c ∉ ("]);" : Text) := IsCommon.not_mem (by decide) rare
  simp [Dependencies.line, concat, notBegin, notFirst, notSecond, notEnd, mem_quotable_iff rare,
    mem_literals_iff rare, Extraction.Mentions]

/-- So has a file of registration lines. -/
theorem mem_deps_iff (rare : ¬c.isCommon) :
    c ∈ deps cwd base records ↔
      ∃ d ∈ records, c ∈ (d.reportedPath cwd (some base)).toText ∨ d.found.Mentions c := by
  have notHeader : c ∉ header := IsCommon.not_mem (by decide) rare
  rw [deps, List.mem_append, or_iff_right notHeader, mem_lines_iff rare]
  simp only [List.mem_map, exists_exists_and_eq_and, mem_line_iff rare]

end Report

/-! ## Reported paths -/

theorem Location.of_mem_steps {source target : Location} {name : Text}
    (member : name ∈ steps source target) : name ∈ target ∨ name = above := by
  fun_induction steps source target with
  | case1 target => exact Or.inl member
  | case2 source => exact Or.inr (List.eq_of_mem_replicate member)
  | case3 source target t ih =>
      rcases ih member with inside | isAbove
      · exact Or.inl (List.mem_cons_of_mem _ inside)
      · exact Or.inr isAbove
  | case4 s source t target differ =>
      rcases List.mem_append.mp member with up | down
      · exact Or.inr (List.eq_of_mem_replicate up)
      · exact Or.inl down

/-- Seen from a base, a file has a path with the characters of its names, and common ones. -/
theorem Path.exists_name_of_mem_relativeTo {c : CodePoint} (rare : ¬c.isCommon) {l : Location}
    {cwd : Location} {base : Path} (member : c ∈ ((ofLocation l).relativeTo cwd base).toText) :
    ∃ name ∈ l, c ∈ name := by
  have notHere : c ∉ here := IsCommon.not_mem (by decide) rare
  have notAbove : c ∉ above := IsCommon.not_mem (by decide) rare
  have notSlash : c ∉ [slash] := IsCommon.not_mem (by decide) rare
  unfold toText at member
  split at member
  · exact absurd member notHere
  · obtain ⟨name, listed, inside⟩ := (mem_joinWith_iff notSlash).mp member
    rcases Location.of_mem_steps listed with named | rfl
    · exact ⟨name, (Location.of_mem_foldl_step named).resolve_left List.not_mem_nil, inside⟩
    · exact absurd inside notAbove

end NamespaceScan

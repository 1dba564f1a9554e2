import Mathlib.Data.List.Forall2
import NamespaceScan.Proofs.ReportCharacters
import NamespaceScan.Proofs.Utf16
import NamespaceScan.Proofs.Utf8

/-!
# Documents can be told apart

The text of a document is plain ASCII, and it determines the document up to the way in which
its texts are cut into code points: a code point beyond U+FFFF is written as its two code
units, so it reads like the pair of surrogates with the same units.

Texts are read back unit by unit, numbers up to the first character that is no digit, and
lists and tables line by line.
-/

namespace NamespaceScan

/-! ## Numbers -/

namespace CodePoint

theorem val_ofChar (c : Char) : (ofChar c).val = c.toNat := by
  have bound : c.toNat < 0x110000 := by
    rcases c.valid with low | high
    · exact Nat.lt_trans low (by decide)
    · exact high.2
  exact Nat.mod_eq_of_lt bound

theorem ofChar_injective : Function.Injective ofChar := by
  intro c d same
  have val : c.toNat = d.toNat := by rw [← val_ofChar, same, val_ofChar]
  exact Char.toNat_inj.mp val

theorem hexValue?_hexDigit (n : Nat) : (hexDigit n).hexValue? = some (n % 16) := by
  have small : n % 16 < 16 := Nat.mod_lt n (by decide)
  unfold hexDigit
  generalize n % 16 = digit at small
  revert digit
  decide

end CodePoint

namespace Text

theorem hexNumber?_append_singleton (t : Text) (c : CodePoint) :
    hexNumber? (t ++ [c]) = (hexNumber? t).bind fun n => c.hexValue?.map (16 * n + ·) := by
  simp [hexNumber?, List.foldlM_append]

/-- The last digits of a number spell it when there are enough of them. -/
theorem hexNumber?_hexDigits {width n : Nat} (fits : n < 16 ^ width) :
    hexNumber? (hexDigits width n) = some n := by
  induction width generalizing n with
  | zero =>
      have isZero : n = 0 := by simpa using fits
      rw [isZero]
      rfl
  | succ width ih =>
      have front : n / 16 < 16 ^ width := by
        rw [pow_succ] at fits
        omega
      rw [hexDigits, hexNumber?_append_singleton, ih front, CodePoint.hexValue?_hexDigit]
      exact congrArg some (Nat.div_add_mod n 16)

theorem length_hexDigits (width n : Nat) : (hexDigits width n).length = width := by
  induction width generalizing n with
  | zero => rfl
  | succ width ih => simp [hexDigits, ih]

theorem ofNat_injective : Function.Injective ofNat := by
  intro n m same
  have digits := List.map_injective_iff.mpr CodePoint.ofChar_injective same
  rw [← Nat.ofDigitChars_ten_toDigits (n := n), digits, Nat.ofDigitChars_ten_toDigits]

theorem isDigit_of_mem_ofNat {n : Nat} {c : CodePoint} (member : c ∈ ofNat n) : c.isDigit := by
  obtain ⟨digit, inside, rfl⟩ := List.mem_map.mp member
  have isDigit : digit.isDigit := Nat.isDigit_of_mem_toDigits (by decide) (by decide) inside
  have bounds : 0x30 ≤ digit.toNat ∧ digit.toNat ≤ 0x39 := by
    simpa [Char.isDigit, UInt32.le_iff_toNat_le] using isDigit
  simpa [CodePoint.isDigit, CodePoint.val_ofChar] using bounds

/-- A number in the text ends here. -/
def Stops (t : Text) : Prop := ∀ c, t.head? = some c → ¬c.isDigit

theorem takeWhile_ofNat_append {n : Nat} {rest : Text} (stops : Stops rest) :
    (ofNat n ++ rest).takeWhile CodePoint.isDigit = ofNat n := by
  rw [List.takeWhile_append_of_pos fun c member => isDigit_of_mem_ofNat member]
  cases rest with
  | nil => simp
  | cons c later =>
      rw [List.takeWhile_cons_of_neg (stops c rfl), List.append_nil]

theorem ofNat_append_inj {n m : Nat} {rest later : Text} (stops : Stops rest)
    (stopsToo : Stops later) (equal : ofNat n ++ rest = ofNat m ++ later) :
    n = m ∧ rest = later := by
  have digits : ofNat n = ofNat m := by
    rw [← takeWhile_ofNat_append stops, equal, takeWhile_ofNat_append stopsToo]
  rw [digits] at equal
  exact ⟨ofNat_injective digits, List.append_cancel_left equal⟩

end Text

/-! ## Texts -/

namespace Document

/-- What a sign behind a backslash stands for. -/
def meaning (sign : CodePoint) : Nat :=
  if sign = 0x6E then 0x0A
  else if sign = 0x72 then 0x0D
  else if sign = 0x74 then 0x09
  else if sign = 0x62 then 0x08
  else if sign = 0x66 then 0x0C
  else sign.val

/-- Read an escape behind its backslash. -/
def readEscape? : Text → Option (Nat × Text)
  | [] => none
  | sign :: rest =>
    if sign = 0x75 then (Text.hexNumber? (rest.take 4)).map (·, rest.drop 4)
    else some (meaning sign, rest)

/-- Read one code unit inside of quotes. A quote ends the text. -/
def readUnit? : Text → Option (Nat × Text)
  | [] => none
  | c :: rest =>
    if c = 0x5C then readEscape? rest else if c = 0x22 then none else some (c.val, rest)

theorem readUnit?_unitEscape {unit : Nat} (small : unit < 0x10000) (rest : Text) :
    readUnit? (unitEscape unit ++ rest) = some (unit, rest) := by
  have digits : Text.hexNumber? (Text.hexDigits 4 unit) = some unit :=
    Text.hexNumber?_hexDigits (by omega)
  have four := Text.length_hexDigits 4 unit
  have spelt : unitEscape unit ++ rest = 0x5C :: 0x75 :: (Text.hexDigits 4 unit ++ rest) := rfl
  rw [spelt, readUnit?, if_pos rfl, readEscape?, if_pos rfl, List.take_left' four,
    List.drop_left' four, digits]
  rfl

/-- A code unit is read back from the way it is written. -/
theorem readUnit?_escaped {c : CodePoint} (small : c.val < 0x10000) (rest : Text) :
    readUnit? (escaped c ++ rest) = some (c.val, rest) := by
  unfold escaped
  -- The seven escapes with a letter or a sign of their own.
  iterate 7
    split
    · rename_i same
      cases same
      rfl
  split
  · rename_i noQuote noBackslash _ _ _ _ _ _
    rw [List.singleton_append, readUnit?, if_neg noBackslash, if_neg noQuote]
  · rw [Utf16.unitsOf_of_lt small, List.flatMap_singleton]
    exact readUnit?_unitEscape small rest

theorem escaped_of_le {c : CodePoint} (large : 0x7F ≤ c.val) :
    escaped c = (Utf16.unitsOf c).flatMap unitEscape := by
  have noSign : ∀ sign : CodePoint, sign.val < 0x7F → c ≠ sign := by
    rintro sign small rfl
    omega
  have notPlain : ¬(0x20 ≤ c.val ∧ c.val < 0x7F) := by omega
  simp only [escaped, noSign 0x22 (by decide), noSign 0x5C (by decide), noSign 0x0A (by decide),
    noSign 0x0D (by decide), noSign 0x09 (by decide), noSign 0x08 (by decide),
    noSign 0x0C (by decide), notPlain, if_false]

theorem flatMap_escaped_unitsOf (c : CodePoint) :
    ((Utf16.unitsOf c).map (Fin.ofNat 0x110000)).flatMap escaped = escaped c := by
  have bound := c.isLt
  by_cases small : c.val < 0x10000
  · rw [Utf16.unitsOf_of_lt small]
    simp
  · rw [escaped_of_le (by omega), List.flatMap_map]
    refine List.flatMap_congr fun unit member => ?_
    have val := Utf16.val_ofNat_of_mem_unitsOf member
    have large : 0x7F ≤ unit := by
      rw [Utf16.unitsOf, if_neg small] at member
      simp only [List.mem_cons, List.not_mem_nil, or_false] at member
      omega
    rw [escaped_of_le (val.symm ▸ large),
      Utf16.unitsOf_of_lt (val.symm ▸ Utf16.lt_of_mem_unitsOf member), val]
    simp

/-- A text is written unit by unit. -/
theorem flatMap_escaped_split (t : Text) : (Utf16.split t).flatMap escaped = t.flatMap escaped := by
  rw [Utf16.split, List.flatMap_assoc]
  exact List.flatMap_congr fun c _ => flatMap_escaped_unitsOf c

/-- The first quote that is read ends a text. -/
theorem flatMap_escaped_inj {left right : Text} {rest later : Text}
    (small : ∀ c ∈ left, c.val < 0x10000) (smallToo : ∀ c ∈ right, c.val < 0x10000)
    (equal : left.flatMap escaped ++ 0x22 :: rest = right.flatMap escaped ++ 0x22 :: later) :
    left = right ∧ rest = later := by
  have ended : ∀ t, readUnit? (0x22 :: t) = none := fun t => rfl
  induction left generalizing right with
  | nil =>
      cases right with
      | nil => exact ⟨rfl, (List.cons.inj equal).2⟩
      | cons d right =>
          have read := congrArg readUnit? equal
          rw [List.flatMap_cons, List.append_assoc,
            readUnit?_escaped (smallToo d List.mem_cons_self)] at read
          cases read
  | cons c left ih =>
      obtain ⟨first, others⟩ := List.forall_mem_cons.mp small
      cases right with
      | nil =>
          have read := congrArg readUnit? equal
          rw [List.flatMap_cons, List.append_assoc, readUnit?_escaped first] at read
          cases read
      | cons d right =>
          obtain ⟨firstToo, othersToo⟩ := List.forall_mem_cons.mp smallToo
          have read := congrArg readUnit? equal
          rw [List.flatMap_cons, List.flatMap_cons, List.append_assoc, List.append_assoc,
            readUnit?_escaped first, readUnit?_escaped firstToo, Option.some.injEq,
            Prod.mk.injEq] at read
          obtain ⟨sameUnit, sameRest⟩ := read
          obtain ⟨rfl, same⟩ := ih others othersToo sameRest
          exact ⟨congrArg (· :: left) (Fin.ext sameUnit), same⟩

/-- A quoted text gives back its code units, whatever follows it. -/
theorem quoted_append_inj {t other : Text} {rest later : Text}
    (equal : quoted t ++ rest = quoted other ++ later) :
    Utf16.units t = Utf16.units other ∧ rest = later := by
  have inside : t.flatMap escaped ++ 0x22 :: rest = other.flatMap escaped ++ 0x22 :: later := by
    simpa [quoted] using equal
  rw [← flatMap_escaped_split t, ← flatMap_escaped_split other] at inside
  obtain ⟨same, sameRest⟩ := flatMap_escaped_inj (fun c => Utf16.lt_of_mem_split)
    (fun c => Utf16.lt_of_mem_split) inside
  exact ⟨by rw [← Utf16.map_val_split, same, Utf16.map_val_split], sameRest⟩

/-! ## Lists and tables -/

/-- The documents differ at most in how their texts are cut into code points. -/
inductive Alike : Document → Document → Prop where
  | number (n : Nat) : Alike (.number n) (.number n)
  | text {t other : Text} (units : Utf16.units t = Utf16.units other) :
      Alike (.text t) (.text other)
  | list {items others : List Document} (each : List.Forall₂ Alike items others) :
      Alike (.list items) (.list others)
  | table {entries others : List (Text × Document)}
      (keys : entries.map (Utf16.units ·.1) = others.map (Utf16.units ·.1))
      (values : List.Forall₂ Alike (entries.map (·.2)) (others.map (·.2))) :
      Alike (.table entries) (.table others)

/-- What stands before each line of a list or a table, the comma of the line before included. -/
def lineStart (depth : Nat) : Text := 0x2C :: newLine depth

/-- The lines of a list or a table. -/
def linesOf (depth : Nat) (texts : List Text) : Text := texts.flatMap (lineStart depth ++ ·)

/-- What stands behind the last line. -/
def lastLine (closing : CodePoint) (depth : Nat) (rest : Text) : Text :=
  Text.repeated (2 * depth) 0x20 ++ closing :: rest

/-- With a comma in front, all lines are alike. -/
theorem bracketed_append_of_ne_nil {opening closing : CodePoint} {depth : Nat}
    {texts : List Text} (filled : texts ≠ []) (rest : Text) :
    ∃ inside, bracketed opening closing depth texts ++ rest = opening :: 0x0A :: inside ∧
      linesOf (depth + 1) texts ++ 0x0A :: lastLine closing depth rest =
        0x2C :: 0x0A :: inside := by
  cases texts with
  | nil => exact absurd rfl filled
  | cons first others =>
      refine ⟨_, ?_, rfl⟩
      simp [bracketed, Text.concat, Text.joinWith_cons, newLine, lineStart, lastLine,
        List.flatMap_def]

theorem lines_eq_of_bracketed_eq {opening closing : CodePoint} (notFeed : closing ≠ 0x0A)
    {depth : Nat} {texts others : List Text} {rest later : Text}
    (equal : bracketed opening closing depth texts ++ rest =
      bracketed opening closing depth others ++ later) :
    linesOf (depth + 1) texts ++ 0x0A :: lastLine closing depth rest =
      linesOf (depth + 1) others ++ 0x0A :: lastLine closing depth later := by
  have void : ∀ t, bracketed opening closing depth [] ++ t = opening :: closing :: t := fun _ => rfl
  by_cases noTexts : texts = [] <;> by_cases noOthers : others = []
  · subst noTexts noOthers
    rw [void, void] at equal
    rw [(List.cons.inj (List.cons.inj equal).2).2]
  · obtain ⟨inside, spelt, -⟩ := bracketed_append_of_ne_nil noOthers later
    subst noTexts
    rw [void, spelt] at equal
    exact absurd (List.cons.inj (List.cons.inj equal).2).1 notFeed
  · obtain ⟨inside, spelt, -⟩ := bracketed_append_of_ne_nil noTexts rest
    subst noOthers
    rw [void, spelt] at equal
    exact absurd (List.cons.inj (List.cons.inj equal).2).1.symm notFeed
  · obtain ⟨inside, spelt, lines⟩ := bracketed_append_of_ne_nil noTexts rest
    obtain ⟨insideToo, speltToo, linesToo⟩ := bracketed_append_of_ne_nil noOthers later
    rw [spelt, speltToo] at equal
    rw [lines, linesToo, (List.cons.inj (List.cons.inj equal).2).2]

theorem lastLine_injective {closing : CodePoint} {depth : Nat} {rest later : Text}
    (equal : lastLine closing depth rest = lastLine closing depth later) : rest = later :=
  (List.cons.inj (List.append_cancel_left equal)).2

theorem stops_lines (depth : Nat) (texts : List Text) (rest : Text) :
    Text.Stops (linesOf depth texts ++ 0x0A :: rest) := by
  intro c first
  cases texts with
  | nil =>
      cases first
      decide
  | cons t others =>
      cases first
      decide

theorem linesOf_cons (depth : Nat) (t : Text) (texts : List Text) (rest : Text) :
    linesOf depth (t :: texts) ++ rest =
      lineStart depth ++ (t ++ (linesOf depth texts ++ rest)) := by
  simp [linesOf]

/-- Lines and their end begin with different characters. -/
theorem lines_ne_end (depth : Nat) (t : Text) (texts : List Text) (rest later : Text) :
    linesOf depth (t :: texts) ++ rest ≠ 0x0A :: later := by
  intro equal
  cases equal

/-- A list or a table is determined by its lines. -/
theorem exists_lines_of_bracketed {opening closing : CodePoint} (notFeed : closing ≠ 0x0A)
    {depth : Nat} {texts others : List Text} {rest later : Text} {same : Prop}
    (read : ∀ x y,
      linesOf (depth + 1) texts ++ 0x0A :: x = linesOf (depth + 1) others ++ 0x0A :: y →
        same ∧ x = y)
    (equal : bracketed opening closing depth texts ++ rest =
      bracketed opening closing depth others ++ later) : same ∧ rest = later := by
  obtain ⟨alike, sameEnd⟩ := read _ _ (lines_eq_of_bracketed_eq notFeed equal)
  exact ⟨alike, lastLine_injective sameEnd⟩

/-- The sign that a document begins with; a number begins with a digit. -/
def sign? : Document → Option CodePoint
  | .number _ => none
  | .text _ => some 0x22
  | .list _ => some 0x5B
  | .table _ => some 0x7B

theorem head?_bracketed (opening closing : CodePoint) (depth : Nat) (texts : List Text)
    (rest : Text) : (bracketed opening closing depth texts ++ rest).head? = some opening := by
  cases texts <;> rfl

theorem filter_head?_textAt (d : Document) (depth : Nat) (rest : Text) :
    (textAt depth d ++ rest).head?.filter (fun c => !c.isDigit) = d.sign? := by
  cases d with
  | number n =>
      rw [textAt]
      cases digits : Text.ofNat n with
      | nil => exact absurd digits (by simp [Text.ofNat])
      | cons c more =>
          have isDigit : c.isDigit := Text.isDigit_of_mem_ofNat (digits ▸ List.mem_cons_self)
          simp [sign?, isDigit, Option.filter]
  | text t => rfl
  | list items =>
      rw [textAt, head?_bracketed]
      rfl
  | table entries =>
      rw [textAt, head?_bracketed]
      rfl

theorem sign?_eq_of_textAt {d other : Document} {depth : Nat} {rest later : Text}
    (equal : textAt depth d ++ rest = textAt depth other ++ later) : d.sign? = other.sign? := by
  rw [← filter_head?_textAt d depth rest, equal, filter_head?_textAt]

mutual

/-- A document gives back its parts, whatever follows it. -/
theorem alike_of_textAt : (d other : Document) → ∀ {depth : Nat} {rest later : Text},
    Text.Stops rest → Text.Stops later → textAt depth d ++ rest = textAt depth other ++ later →
      Alike d other ∧ rest = later
  | .number n, other, _, _, _, stops, stopsToo, equal => by
      cases other with
      | number m =>
          obtain ⟨rfl, same⟩ := Text.ofNat_append_inj stops stopsToo equal
          exact ⟨Alike.number n, same⟩
      | _ => cases sign?_eq_of_textAt equal
  | .text t, other, _, _, _, _, _, equal => by
      cases other with
      | text u =>
          obtain ⟨units, same⟩ := quoted_append_inj equal
          exact ⟨Alike.text units, same⟩
      | _ => cases sign?_eq_of_textAt equal
  | .list items, other, _, _, _, _, _, equal => by
      cases other with
      | list others =>
          obtain ⟨each, same⟩ := exists_lines_of_bracketed (by decide)
            (fun _ _ => alike_of_itemTexts items others) equal
          exact ⟨Alike.list each, same⟩
      | _ => cases sign?_eq_of_textAt equal
  | .table entries, other, _, _, _, _, _, equal => by
      cases other with
      | table others =>
          obtain ⟨⟨keys, values⟩, same⟩ := exists_lines_of_bracketed (by decide)
            (fun _ _ => alike_of_entryTexts entries others) equal
          exact ⟨Alike.table keys values, same⟩
      | _ => cases sign?_eq_of_textAt equal

theorem alike_of_itemTexts : (items others : List Document) →
    ∀ {depth : Nat} {rest later : Text},
      linesOf depth (itemTexts depth items) ++ 0x0A :: rest =
        linesOf depth (itemTexts depth others) ++ 0x0A :: later →
      List.Forall₂ Alike items others ∧ rest = later
  | [], [], _, _, _, equal => ⟨List.Forall₂.nil, (List.cons.inj equal).2⟩
  | [], _ :: _, _, _, _, equal => absurd equal.symm (lines_ne_end _ _ _ _ _)
  | _ :: _, [], _, _, _, equal => absurd equal (lines_ne_end _ _ _ _ _)
  | item :: items, other :: others, _, _, _, equal => by
      rw [itemTexts, itemTexts, linesOf_cons, linesOf_cons] at equal
      obtain ⟨alike, sameLines⟩ := alike_of_textAt item other (stops_lines _ _ _)
        (stops_lines _ _ _) (List.append_cancel_left equal)
      obtain ⟨each, same⟩ := alike_of_itemTexts items others sameLines
      exact ⟨List.Forall₂.cons alike each, same⟩

theorem alike_of_entryTexts : (entries others : List (Text × Document)) →
    ∀ {depth : Nat} {rest later : Text},
      linesOf depth (entryTexts depth entries) ++ 0x0A :: rest =
        linesOf depth (entryTexts depth others) ++ 0x0A :: later →
      (entries.map (Utf16.units ·.1) = others.map (Utf16.units ·.1) ∧
        List.Forall₂ Alike (entries.map (·.2)) (others.map (·.2))) ∧ rest = later
  | [], [], _, _, _, equal => ⟨⟨rfl, List.Forall₂.nil⟩, (List.cons.inj equal).2⟩
  | [], (_, _) :: _, _, _, _, equal => absurd equal.symm (lines_ne_end _ _ _ _ _)
  | (_, _) :: _, [], _, _, _, equal => absurd equal (lines_ne_end _ _ _ _ _)
  | (key, value) :: entries, (otherKey, otherValue) :: others, _, _, _, equal => by
      rw [entryTexts, entryTexts, linesOf_cons, linesOf_cons] at equal
      have afterStart := List.append_cancel_left equal
      simp only [List.append_assoc] at afterStart
      obtain ⟨sameKey, afterKey⟩ := quoted_append_inj afterStart
      obtain ⟨alike, sameLines⟩ := alike_of_textAt value otherValue (stops_lines _ _ _)
        (stops_lines _ _ _) (List.append_cancel_left afterKey)
      obtain ⟨⟨keys, values⟩, same⟩ := alike_of_entryTexts entries others sameLines
      exact ⟨⟨congrArg₂ List.cons sameKey keys, List.Forall₂.cons alike values⟩, same⟩

end

/-- The text of a document determines it up to the cut of its texts. -/
theorem alike_of_toText_eq {d other : Document} (equal : d.toText = other.toText) :
    Alike d other := by
  have stops : Text.Stops [] := nofun
  exact (alike_of_textAt d other stops stops (congrArg (· ++ []) equal)).1

theorem alike_text_iff {t other : Text} :
    Alike (.text t) (.text other) ↔ Utf16.units t = Utf16.units other :=
  ⟨fun | .text units => units, Alike.text⟩

theorem alike_number_iff {n m : Nat} : Alike (.number n) (.number m) ↔ n = m := by
  constructor
  · intro alike
    cases alike
    rfl
  · rintro rfl
    exact Alike.number n

theorem alike_list_iff {items others : List Document} :
    Alike (.list items) (.list others) ↔ List.Forall₂ Alike items others :=
  ⟨fun | .list each => each, Alike.list⟩

/-- Lists of documents of one kind are alike when their contents are, one by one. -/
theorem alike_list_map_iff {α β : Type} {form : α → Document} {key : α → β}
    (alike_iff : ∀ a b, Alike (form a) (form b) ↔ key a = key b) {items others : List α} :
    Alike (.list (items.map form)) (.list (others.map form)) ↔ items.map key = others.map key := by
  simp only [alike_list_iff, List.forall₂_map_left_iff, List.forall₂_map_right_iff, alike_iff]
  rw [← List.forall₂_eq_eq_eq, List.forall₂_map_left_iff, List.forall₂_map_right_iff]

end Document

/-! ## Reports -/

namespace Dependencies

open Document

theorem alike_nameList_iff {names others : Names} :
    Alike (nameList names) (nameList others) ↔
      names.toList.map Utf16.units = others.toList.map Utf16.units :=
  alike_list_map_iff fun _ _ => alike_text_iff

theorem alike_numbers_iff {lines others : List Nat} :
    Alike (.list (lines.map .number)) (.list (others.map .number)) ↔ lines = others := by
  have mapped : _ ↔ lines.map id = others.map id :=
    alike_list_map_iff fun _ _ => alike_number_iff
  simpa using mapped

theorem errorEntry_of_ne_nil {d : Dependencies} (faulty : d.errorLines ≠ []) :
    d.errorEntry.map (·.2) = [.list (d.errorLines.map .number)] := by
  simp [errorEntry, hasErrors, faulty]

theorem errorEntry_of_nil {d : Dependencies} (clean : d.errorLines = []) :
    d.errorEntry.map (·.2) = [] := by
  simp [errorEntry, hasErrors, clean]

theorem errorLines_eq_of_alike {d e : Dependencies}
    (alike : List.Forall₂ Alike (d.errorEntry.map (·.2)) (e.errorEntry.map (·.2))) :
    d.errorLines = e.errorLines := by
  by_cases clean : d.errorLines = [] <;> by_cases cleanToo : e.errorLines = []
  · rw [clean, cleanToo]
  · rw [errorEntry_of_nil clean, errorEntry_of_ne_nil cleanToo] at alike
    cases alike
  · rw [errorEntry_of_ne_nil clean, errorEntry_of_nil cleanToo] at alike
    cases alike
  · rw [errorEntry_of_ne_nil clean, errorEntry_of_ne_nil cleanToo] at alike
    exact alike_numbers_iff.mp (List.forall₂_cons.mp alike).1

variable {cwd cwd' : Location} {base base' : Option Path}

/-- Alike documents show the same path, namespaces and lines. -/
theorem agree_of_alike {d e : Dependencies}
    (alike : Alike (d.document cwd base) (e.document cwd' base')) :
    Utf16.units (d.reportedPath cwd base).toText = Utf16.units (e.reportedPath cwd' base').toText ∧
      d.found.provides.toList.map Utf16.units = e.found.provides.toList.map Utf16.units ∧
      d.found.requires.toList.map Utf16.units = e.found.requires.toList.map Utf16.units ∧
      d.errorLines = e.errorLines := by
  cases alike with
  | table _ values =>
      simp only [List.map_cons, List.forall₂_cons] at values
      obtain ⟨path, provides, requires, lines⟩ := values
      exact ⟨alike_text_iff.mp path, alike_nameList_iff.mp provides, alike_nameList_iff.mp requires,
        errorLines_eq_of_alike lines⟩

end Dependencies

namespace Report

variable {cwd cwd' : Location} {base base' : Path} {records records' : List Dependencies}

theorem lt_of_mem_json {c : CodePoint} (member : c ∈ json cwd base records) : c.val < 0x80 := by
  have common := isCommon_json cwd base records c member
  simp only [CodePoint.isCommon, Bool.or_eq_true, Bool.and_eq_true, decide_eq_true_eq] at common
  rcases common with rfl | ⟨-, small⟩
  · decide
  · omega

theorem alike_documents_of_json_eq (equal : json cwd base records = json cwd' base' records') :
    List.Forall₂
      (fun d e => Document.Alike (d.document cwd (some base)) (e.document cwd' (some base')))
      records records' := by
  have alike := Document.alike_of_toText_eq (List.append_cancel_right equal)
  cases alike with
  | table _ values =>
      simp only [List.map_cons, List.map_nil, List.forall₂_cons] at values
      simpa [Document.alike_list_iff] using values.1

/-- A report as a document is plain ASCII, so it can always be encoded; and it determines,
record by record, the code units of the reported path, of the provided and of the required
namespaces in their order, and the lines of the syntax errors. -/
theorem units_eq_of_json_eq :
    (∀ (cwd : Location) (base : Path) (records : List Dependencies),
        (∀ c ∈ json cwd base records, c.val < 0x80) ∧
          Utf8.encode (json cwd base records) = .ok (Utf8.octets (json cwd base records))) ∧
      ∀ (cwd cwd' : Location) (base base' : Path) (records records' : List Dependencies),
        json cwd base records = json cwd' base' records' →
          List.Forall₂
            (fun d e =>
              Utf16.units (d.reportedPath cwd (some base)).toText =
                  Utf16.units (e.reportedPath cwd' (some base')).toText ∧
                d.found.provides.toList.map Utf16.units =
                    e.found.provides.toList.map Utf16.units ∧
                d.found.requires.toList.map Utf16.units =
                    e.found.requires.toList.map Utf16.units ∧
                d.errorLines = e.errorLines)
            records records' := by
  refine ⟨fun cwd base records => ⟨fun c => lt_of_mem_json, ?_⟩,
    fun cwd cwd' base base' records records' equal => ?_⟩
  · exact Utf8.encode_of_no_surrogates (isCommon_json cwd base records).isEncodable
  · exact (alike_documents_of_json_eq equal).imp fun _ _ => Dependencies.agree_of_alike

/-- A file with a namespace of one code point, seen from its own directory. -/
def wholeRecord : Dependencies where
  path := { anchor := .root, names := ["b", "a\"js"] }
  found := { provides := OrderedSet.ofList [[0x1F600]] }
  errorLines := [3, 12]

/-- The file with the surrogates of the code point instead, seen from the root. -/
def halvedRecord : Dependencies where
  path := { anchor := .root, names := ["a\"js"] }
  found := { provides := OrderedSet.ofList [[0xD83D, 0xDE00]] }
  errorLines := [3, 12]

theorem json_wholeRecord :
    json [] { anchor := .root, names := ["b"] } [wholeRecord] =
      json [] { anchor := .root } [halvedRecord] := by
  decide +kernel

theorem units_eq_of_json_eq_wholeRecord :
    json [] { anchor := .root, names := ["b"] } [wholeRecord] =
        json [] { anchor := .root } [halvedRecord] ∧
      wholeRecord.found.provides.toList ≠ halvedRecord.found.provides.toList ∧
      wholeRecord.found.provides.toList.map Utf16.units =
        halvedRecord.found.provides.toList.map Utf16.units ∧
      wholeRecord.errorLines = halvedRecord.errorLines := by
  have agree := units_eq_of_json_eq.2 _ _ _ _ _ _ json_wholeRecord
  obtain ⟨-, provides, -, lines⟩ := (List.forall₂_cons.mp agree).1
  exact ⟨json_wholeRecord, by decide, provides, lines⟩

end Report

end NamespaceScan

import Mathlib.Data.List.Induction
import Mathlib.Data.Nat.Digits.Defs
import NamespaceScan.Proofs.Literal

/-!
# Spellings of string literals

`Literal.Spells` lists the ways to spell code units between quotes: characters that stand for
themselves, escapes by number, escapes by letter, and breaks of the line, which spell nothing.
The relation says nothing about the order in which spellings are tried. Only an octal number
depends on what stands behind it.

Decoding finds the code units of every spelling, however its pieces are mixed, and the value
has no surrogates when the units are well-formed.
-/

namespace NamespaceScan

/-! ## Digits -/

/-- A hexadecimal digit. A value above nine is written as a letter, in either case. -/
structure HexDigit where
  value : Fin 16
  capital : Bool

namespace HexDigit

/-- The character of a digit. -/
def sign (digit : HexDigit) : CodePoint :=
  if digit.value.val < 10 then Fin.ofNat _ (0x30 + digit.value.val)
  else if digit.capital then Fin.ofNat _ (0x41 + (digit.value.val - 10))
  else Fin.ofNat _ (0x61 + (digit.value.val - 10))

/-- The number that digits write, the leading one first. -/
def number (digits : List HexDigit) : Nat := Nat.ofDigits 16 (digits.map (·.value.val)).reverse

theorem hexValue?_sign (digit : HexDigit) : digit.sign.hexValue? = some digit.value.val := by
  obtain ⟨value, capital⟩ := digit
  revert value capital
  decide

theorem exists_sign_of_hexValue? {c : CodePoint} (isHex : c.hexValue?.isSome) :
    ∃ digit : HexDigit, c = digit.sign := by
  simp only [CodePoint.hexValue?, CodePoint.isDigit, Bool.and_eq_true, decide_eq_true_eq] at isHex
  split at isHex
  · refine ⟨⟨⟨c.val - 0x30, by omega⟩, false⟩, Fin.ext ?_⟩
    have restored : 0x30 + (c.val - 0x30) = c.val := by omega
    have small : c.val - 0x30 < 10 := by omega
    simp only [sign, small, restored, if_true, Fin.val_ofNat, Nat.mod_eq_of_lt c.isLt]
  split at isHex
  · refine ⟨⟨⟨c.val - 0x41 + 10, by omega⟩, true⟩, Fin.ext ?_⟩
    have restored : 0x41 + (c.val - 0x41 + 10 - 10) = c.val := by omega
    have large : ¬c.val - 0x41 + 10 < 10 := by omega
    simp only [sign, large, restored, if_true, if_false, Fin.val_ofNat, Nat.mod_eq_of_lt c.isLt]
  split at isHex
  · refine ⟨⟨⟨c.val - 0x61 + 10, by omega⟩, false⟩, Fin.ext ?_⟩
    have restored : 0x61 + (c.val - 0x61 + 10 - 10) = c.val := by omega
    have large : ¬c.val - 0x61 + 10 < 10 := by omega
    simp only [sign, large, restored, if_false, Bool.false_eq_true, Fin.val_ofNat,
      Nat.mod_eq_of_lt c.isLt]
  · cases isHex

theorem exists_map_sign {t : Text} (allHex : ∀ c ∈ t, c.hexValue?.isSome) :
    ∃ digits : List HexDigit, t = digits.map sign := by
  induction t with
  | nil => exact ⟨[], rfl⟩
  | cons c rest ih =>
      obtain ⟨first, others⟩ := List.forall_mem_cons.mp allHex
      obtain ⟨digit, rfl⟩ := exists_sign_of_hexValue? first
      obtain ⟨digits, rfl⟩ := ih others
      exact ⟨digit :: digits, rfl⟩

theorem sign_ne_brace (digit : HexDigit) : digit.sign ≠ 0x7B := by
  obtain ⟨value, capital⟩ := digit
  revert value capital
  decide

theorem number_concat (digits : List HexDigit) (digit : HexDigit) :
    number (digits ++ [digit]) = 16 * number digits + digit.value.val := by
  simp [number, Nat.ofDigits_cons, Nat.add_comm]

theorem hexNumber?_map_sign (digits : List HexDigit) :
    Text.hexNumber? (digits.map sign) = some (number digits) := by
  induction digits using List.reverseRecOn with
  | nil => rfl
  | append_singleton digits digit ih =>
      rw [Text.hexNumber?] at ih ⊢
      rw [List.map_append, List.foldlM_append, ih, number_concat]
      simp [hexValue?_sign]

theorem number_lt (digits : List HexDigit) : number digits < 16 ^ digits.length := by
  induction digits using List.reverseRecOn with
  | nil => decide
  | append_singleton digits digit ih =>
      have small := digit.value.isLt
      rw [number_concat, List.length_append, List.length_singleton, Nat.pow_succ]
      omega

theorem number_lt_of_length_le {digits : List HexDigit} (short : digits.length ≤ 4) :
    number digits < 0x10000 :=
  calc
    number digits < 16 ^ digits.length := number_lt digits
    _ ≤ 16 ^ 4 := Nat.pow_le_pow_right (by decide) short
    _ = 0x10000 := rfl

end HexDigit

/-- An octal digit. -/
abbrev OctalDigit := Fin 8

namespace OctalDigit

/-- The character of a digit. -/
def sign (digit : OctalDigit) : CodePoint := Fin.ofNat _ (0x30 + digit.val)

/-- The number that digits write, the leading one first. -/
def number (digits : List OctalDigit) : Nat := Nat.ofDigits 8 (digits.map (·.val)).reverse

theorem octalValue?_sign (digit : OctalDigit) : (sign digit).octalValue? = some digit.val := by
  revert digit
  decide

theorem exists_sign_of_octalValue? {c : CodePoint} (isOctal : c.octalValue?.isSome) :
    ∃ digit, c = sign digit := by
  rw [CodePoint.octalValue?] at isOctal
  split at isOctal
  · rename_i inRange
    simp only [Bool.and_eq_true, decide_eq_true_eq] at inRange
    refine ⟨⟨c.val - 0x30, by omega⟩, Fin.ext ?_⟩
    have restored : 0x30 + (c.val - 0x30) = c.val := by omega
    simp only [sign, restored, Fin.val_ofNat, Nat.mod_eq_of_lt c.isLt]
  · cases isOctal

theorem sign_ne_letter (digit : OctalDigit) : sign digit ≠ 0x75 ∧ sign digit ≠ 0x78 := by
  revert digit
  decide

theorem number_concat (digits : List OctalDigit) (digit : OctalDigit) :
    number (digits ++ [digit]) = 8 * number digits + digit.val := by
  simp [number, Nat.ofDigits_cons, Nat.add_comm]

theorem foldl_eq_number (digits : List OctalDigit) :
    (digits.map (·.val)).foldl (fun n d => 8 * n + d) 0 = number digits := by
  induction digits using List.reverseRecOn with
  | nil => rfl
  | append_singleton digits digit ih =>
      rw [List.map_append, List.foldl_append, ih, number_concat]
      rfl

end OctalDigit

namespace Literal

/-! ## Spellings -/

/-- The letters that spell a control character, with its unit. -/
def controlLetters : List (CodePoint × Nat) :=
  [(0x6E, 0x0A), (0x74, 0x09), (0x72, 0x0D), (0x62, 0x08), (0x66, 0x0C), (0x76, 0x0B)]

/-- The breaks of a line. -/
def lineBreaks : List Text :=
  [[lineFeed], [carriageReturn], [carriageReturn, lineFeed], [0x2028], [0x2029]]

/-- The characters that do not stand for themselves behind a backslash. -/
def reserved : Text :=
  Text.ofString "ntrbfvux01234567" ++ [lineFeed, carriageReturn, 0x2028, 0x2029]

/-- The letter `u` and digits in braces. -/
def braced (digits : List HexDigit) : Text := 0x75 :: 0x7B :: (digits.map HexDigit.sign ++ [0x7D])

/-- A body of a literal spells code units. -/
inductive Spells : Text → List Nat → Prop where
  | nil : Spells [] []
  | raw (c : CodePoint) {rest : Text} {units : List Nat} (noSurrogate : ¬c.isSurrogate)
      (noBackslash : c ≠ backslash) (noBreak : c ≠ lineFeed ∧ c ≠ carriageReturn)
      (later : Spells rest units) : Spells (c :: rest) (Utf16.unitsOf c ++ units)
  | byte (a b : HexDigit) {rest : Text} {units : List Nat} (later : Spells rest units) :
      Spells (backslash :: ([0x78, a.sign, b.sign] ++ rest)) (HexDigit.number [a, b] :: units)
  | short (a b c d : HexDigit) {rest : Text} {units : List Nat} (later : Spells rest units) :
      Spells (backslash :: ([0x75, a.sign, b.sign, c.sign, d.sign] ++ rest))
        (HexDigit.number [a, b, c, d] :: units)
  | braced (digits : List HexDigit) {c : CodePoint} {rest : Text} {units : List Nat}
      (nonempty : digits ≠ []) (value : HexDigit.number digits = c.val)
      (later : Spells rest units) :
      Spells (backslash :: (braced digits ++ rest)) (Utf16.unitsOf c ++ units)
  /-- The number ends where it has three digits or where a further digit makes it too large. -/
  | octal (digits : List OctalDigit) {rest : Text} {units : List Nat}
      (length : 1 ≤ digits.length ∧ digits.length ≤ 3) (small : OctalDigit.number digits ≤ 0o377)
      (complete : ∀ digit, rest.head? = some (OctalDigit.sign digit) →
        digits.length = 3 ∨ 0o377 < OctalDigit.number (digits ++ [digit]))
      (later : Spells rest units) :
      Spells (backslash :: (digits.map OctalDigit.sign ++ rest)) (OctalDigit.number digits :: units)
  | letter (letter : CodePoint) {unit : Nat} {rest : Text} {units : List Nat}
      (listed : (letter, unit) ∈ controlLetters) (later : Spells rest units) :
      Spells (backslash :: ([letter] ++ rest)) (unit :: units)
  | itself (c : CodePoint) {rest : Text} {units : List Nat} (noSurrogate : ¬c.isSurrogate)
      (free : c ∉ reserved) (later : Spells rest units) :
      Spells (backslash :: ([c] ++ rest)) (Utf16.unitsOf c ++ units)
  | continuation (lineBreak : Text) {rest : Text} {units : List Nat}
      (listed : lineBreak ∈ lineBreaks)
      (whole : lineBreak = [carriageReturn] → rest.head? ≠ some lineFeed)
      (later : Spells rest units) : Spells (backslash :: (lineBreak ++ rest)) units

/-! ## The escape of a spelling -/

/-- Only `u` and `x` begin an escape with hexadecimal digits. -/
theorem escape_eq_of_ne {c : CodePoint} {rest : Text} (noLetter : c ≠ 0x75 ∧ c ≠ 0x78) :
    escape (c :: rest) = (octalEscape? (c :: rest)).getD (plainEscape (c :: rest)) := by
  have noBraces : bracedEscape? (c :: rest) = none := by
    unfold bracedEscape?
    split
    · rename_i more same
      exact absurd (List.cons.inj same).1 noLetter.1
    · rfl
  have notShort : shortEscape? (c :: rest) = none := by
    unfold shortEscape?
    split
    · rename_i same
      exact absurd (List.cons.inj same).1 noLetter.1
    · rfl
  have notByte : byteEscape? (c :: rest) = none := by
    unfold byteEscape?
    split
    · rename_i same
      exact absurd (List.cons.inj same).1 noLetter.2
    · rfl
  rw [escape, noBraces, notShort, notByte, Option.or_none, Option.none_or, Option.none_or]

theorem bracedEscape?_eq_none {c : CodePoint} {rest : Text} (other : c ≠ 0x7B) :
    bracedEscape? (0x75 :: c :: rest) = none := by
  unfold bracedEscape?
  split
  · rename_i more same
    cases same
    exact absurd rfl other
  · rfl

/-- Digits in braces are always an escape. It keeps its spelling when its number is no code
point. -/
theorem bracedEscape?_braced {digits : List HexDigit} (rest : Text) (nonempty : digits ≠ []) :
    bracedEscape? (braced digits ++ rest) =
      some (if HexDigit.number digits < 0x110000 then
        ⟨[codePoint (HexDigit.number digits)], (braced digits).length⟩
      else ⟨backslash :: braced digits, (braced digits).length⟩) := by
  have taken : (digits.map HexDigit.sign ++ 0x7D :: rest).takeWhile
      (fun d => d.hexValue?.isSome) = digits.map HexDigit.sign := by
    rw [List.takeWhile_append_of_pos, List.takeWhile_cons_of_neg, List.append_nil]
    · decide
    · intro d member
      obtain ⟨digit, -, rfl⟩ := List.mem_map.mp member
      rw [HexDigit.hexValue?_sign]
      rfl
  have left : (digits.map HexDigit.sign ++ 0x7D :: rest).drop (digits.map HexDigit.sign).length =
      0x7D :: rest := List.drop_left
  obtain ⟨first, more, rfl⟩ := List.exists_cons_of_ne_nil nonempty
  rw [braced, List.cons_append, List.cons_append, List.append_assoc, List.singleton_append]
  simp only [bracedEscape?, taken, left, HexDigit.hexNumber?_map_sign, Option.getD_some]
  by_cases small : HexDigit.number (first :: more) < 0x110000
  · simp [small]
  · simp [small, List.take_append, List.take_of_length_le]

theorem escape_byte (a b : HexDigit) (rest : Text) :
    escape ([0x78, a.sign, b.sign] ++ rest) = ⟨[codePoint (HexDigit.number [a, b])], 3⟩ := by
  have value : Text.hexNumber? [a.sign, b.sign] = some (HexDigit.number [a, b]) :=
    HexDigit.hexNumber?_map_sign [a, b]
  have noBraces : bracedEscape? ([0x78, a.sign, b.sign] ++ rest) = none := rfl
  have notShort : shortEscape? ([0x78, a.sign, b.sign] ++ rest) = none := rfl
  rw [escape, noBraces, notShort]
  simp [byteEscape?, value]

theorem escape_short (a b c d : HexDigit) (rest : Text) :
    escape ([0x75, a.sign, b.sign, c.sign, d.sign] ++ rest) =
      ⟨[codePoint (HexDigit.number [a, b, c, d])], 5⟩ := by
  have value : Text.hexNumber? [a.sign, b.sign, c.sign, d.sign] =
      some (HexDigit.number [a, b, c, d]) := HexDigit.hexNumber?_map_sign [a, b, c, d]
  have noBraces : bracedEscape? ([0x75, a.sign, b.sign, c.sign, d.sign] ++ rest) = none :=
    bracedEscape?_eq_none a.sign_ne_brace
  rw [escape, noBraces]
  simp [shortEscape?, value]

theorem escape_braced {digits : List HexDigit} {c : CodePoint} (rest : Text)
    (nonempty : digits ≠ []) (value : HexDigit.number digits = c.val) :
    escape (braced digits ++ rest) = ⟨[c], (braced digits).length⟩ := by
  have braces := bracedEscape?_braced rest nonempty
  rw [value, if_pos c.isLt] at braces
  simp [escape, braces, codePoint]

theorem octalDigits_sign (digit : OctalDigit) (limit : Nat) (rest : Text) :
    octalDigits (limit + 1) (OctalDigit.sign digit :: rest) =
      digit.val :: octalDigits limit rest := by
  simp [octalDigits, OctalDigit.octalValue?_sign]

/-- Octal digits are read up to the limit, or up to a character that is no such digit. -/
theorem octalDigits_map_sign {digits : List OctalDigit} {limit : Nat} {rest : Text}
    (short : digits.length ≤ limit)
    (stop : digits.length < limit → ∀ digit, rest.head? ≠ some (OctalDigit.sign digit)) :
    octalDigits limit (digits.map OctalDigit.sign ++ rest) = digits.map (·.val) := by
  induction digits generalizing limit with
  | nil =>
      cases limit with
      | zero => rfl
      | succ limit =>
          cases rest with
          | nil => rfl
          | cons c rest =>
              have noDigit : c.octalValue?.isSome = false := by
                rw [Bool.eq_false_iff]
                intro isOctal
                obtain ⟨digit, rfl⟩ := OctalDigit.exists_sign_of_octalValue? isOctal
                exact stop (Nat.succ_pos limit) digit rfl
              simp [octalDigits, noDigit]
  | cons digit digits ih =>
      cases limit with
      | zero => cases short
      | succ limit =>
          have later := @ih limit (Nat.le_of_succ_le_succ short) fun less =>
            stop (Nat.succ_lt_succ less)
          rw [List.map_cons, List.cons_append, octalDigits_sign, later, List.map_cons]

/-- The most digits that an octal number with the given first digit can have. -/
theorem octalLimit_sign (digit : OctalDigit) :
    (if (OctalDigit.sign digit).val ≤ 0x33 then 3 else 2) = if digit.val ≤ 3 then 3 else 2 := by
  revert digit
  decide

theorem octalEscape?_sign (digit : OctalDigit) (rest : Text) :
    octalEscape? (OctalDigit.sign digit :: rest) =
      (let digits := octalDigits (if digit.val ≤ 3 then 3 else 2) (OctalDigit.sign digit :: rest)
       some ⟨[codePoint (digits.foldl (fun n d => 8 * n + d) 0)], digits.length⟩) := by
  have isOctal : 0x30 ≤ (OctalDigit.sign digit).val ∧ (OctalDigit.sign digit).val ≤ 0x37 := by
    revert digit
    decide
  rw [octalEscape?, if_pos isOctal, octalLimit_sign]

/-- A complete number has as many digits as are read, or no digit stands behind it. -/
theorem octalLimit_of_complete {first : OctalDigit} {digits : List OctalDigit} {rest : Text}
    (length : (first :: digits).length ≤ 3) (small : OctalDigit.number (first :: digits) ≤ 0o377)
    (complete : ∀ digit, rest.head? = some (OctalDigit.sign digit) →
      (first :: digits).length = 3 ∨ 0o377 < OctalDigit.number (first :: digits ++ [digit])) :
    (first :: digits).length ≤ (if first.val ≤ 3 then 3 else 2) ∧
      ((first :: digits).length < (if first.val ≤ 3 then 3 else 2) →
        ∀ digit, rest.head? ≠ some (OctalDigit.sign digit)) := by
  have firstSmall := first.isLt
  simp only [OctalDigit.number_concat] at complete
  rcases digits with _ | ⟨second, _ | ⟨third, _ | ⟨fourth, more⟩⟩⟩
  · have value : OctalDigit.number [first] = first.val := by simp [OctalDigit.number]
    refine ⟨by split <;> simp, fun _ digit front => ?_⟩
    have digitSmall := digit.isLt
    rcases complete digit front with long | large
    · cases long
    · omega
  · have secondSmall := second.isLt
    have value : OctalDigit.number [first, second] = 8 * first.val + second.val :=
      (OctalDigit.number_concat [first] second).trans (by simp [OctalDigit.number])
    refine ⟨by split <;> simp, fun less digit front => ?_⟩
    have digitSmall := digit.isLt
    rcases complete digit front with long | large
    · cases long
    · split at less
      · omega
      · exact absurd less (by simp)
  · have value : OctalDigit.number [first, second, third] =
        64 * first.val + 8 * second.val + third.val :=
      (OctalDigit.number_concat [first, second] third).trans (by
        rw [show [first, second] = [first] ++ [second] from rfl, OctalDigit.number_concat]
        simp [OctalDigit.number]
        omega)
    rw [if_pos (by omega)]
    exact ⟨length, fun less => absurd less (Nat.lt_irrefl 3)⟩
  · exact absurd length (by simp)

theorem escape_octal {digits : List OctalDigit} {rest : Text}
    (length : 1 ≤ digits.length ∧ digits.length ≤ 3) (small : OctalDigit.number digits ≤ 0o377)
    (complete : ∀ digit, rest.head? = some (OctalDigit.sign digit) →
      digits.length = 3 ∨ 0o377 < OctalDigit.number (digits ++ [digit])) :
    escape (digits.map OctalDigit.sign ++ rest) =
      ⟨[codePoint (OctalDigit.number digits)], (digits.map OctalDigit.sign).length⟩ := by
  obtain ⟨first, digits, rfl⟩ := List.exists_cons_of_length_pos length.1
  obtain ⟨short, stop⟩ := octalLimit_of_complete length.2 small complete
  have read := octalDigits_map_sign short stop
  rw [List.map_cons, List.cons_append] at read ⊢
  rw [escape_eq_of_ne (OctalDigit.sign_ne_letter first), octalEscape?_sign, read,
    ← OctalDigit.foldl_eq_number]
  simp

theorem escape_letter {letter : CodePoint} {unit : Nat} (rest : Text)
    (listed : (letter, unit) ∈ controlLetters) :
    escape ([letter] ++ rest) = ⟨[codePoint unit], 1⟩ := by
  simp only [controlLetters, List.mem_cons, Prod.mk.injEq, List.not_mem_nil, or_false] at listed
  rcases listed with ⟨rfl, rfl⟩ | ⟨rfl, rfl⟩ | ⟨rfl, rfl⟩ | ⟨rfl, rfl⟩ | ⟨rfl, rfl⟩ | ⟨rfl, rfl⟩ <;>
    rfl

theorem plainEscape_cons {c : CodePoint} {rest : Text}
    (whole : c = carriageReturn → rest.head? ≠ some lineFeed) :
    plainEscape (c :: rest) =
      if isLineTerminator c then ⟨[], 1⟩ else ⟨[(letterEscape? c).getD c], 1⟩ := by
  unfold plainEscape
  split
  · rename_i same
    cases same
  · rename_i later same
    obtain ⟨rfl, rfl⟩ := List.cons.inj same
    exact absurd rfl (whole rfl)
  · rename_i same
    obtain ⟨rfl, rfl⟩ := List.cons.inj same
    rfl

theorem escape_continuation {lineBreak rest : Text} (listed : lineBreak ∈ lineBreaks)
    (whole : lineBreak = [carriageReturn] → rest.head? ≠ some lineFeed) :
    escape (lineBreak ++ rest) = ⟨[], lineBreak.length⟩ := by
  simp only [lineBreaks, List.mem_cons, List.not_mem_nil, or_false] at listed
  rcases listed with rfl | rfl | rfl | rfl | rfl
  · rfl
  · have none : octalEscape? (carriageReturn :: rest) = none := rfl
    rw [List.singleton_append, escape_eq_of_ne (by decide), none, Option.getD_none,
      plainEscape_cons fun _ => whole rfl]
    rfl
  · rfl
  · rfl
  · rfl

/-- The characters with a meaning behind a backslash are reserved. -/
theorem sign_mem_reserved (digit : OctalDigit) : OctalDigit.sign digit ∈ reserved := by
  revert digit
  decide

theorem letterEscape?_eq_none {c : CodePoint} (free : c ∉ reserved) : letterEscape? c = none := by
  unfold letterEscape?
  split
  case h_7 => rfl
  all_goals exact absurd (by decide) free

theorem isLineTerminator_eq_false {c : CodePoint} (free : c ∉ reserved) :
    isLineTerminator c = false := by
  rw [Bool.eq_false_iff]
  intro terminator
  simp only [isLineTerminator, Bool.or_eq_true, decide_eq_true_eq] at terminator
  rcases terminator with ((rfl | rfl) | rfl) | rfl <;> exact free (by decide)

theorem octalEscape?_eq_none {c : CodePoint} {rest : Text} (free : c ∉ reserved) :
    octalEscape? (c :: rest) = none := by
  refine if_neg fun inRange => ?_
  have isOctal : c.octalValue?.isSome := by simp [CodePoint.octalValue?, inRange]
  obtain ⟨digit, rfl⟩ := OctalDigit.exists_sign_of_octalValue? isOctal
  exact free (sign_mem_reserved digit)

theorem escape_itself {c : CodePoint} (rest : Text) (free : c ∉ reserved) :
    escape ([c] ++ rest) = ⟨[c], 1⟩ := by
  have noLetter : c ≠ 0x75 ∧ c ≠ 0x78 := by
    constructor <;> (rintro rfl; exact free (by decide))
  have noReturn : c ≠ carriageReturn := by
    rintro rfl
    exact free (by decide)
  rw [List.singleton_append, escape_eq_of_ne noLetter, octalEscape?_eq_none free, Option.getD_none,
    plainEscape_cons fun isReturn => absurd isReturn noReturn, isLineTerminator_eq_false free,
    letterEscape?_eq_none free]
  rfl

/-! ## Decoding a spelling -/

theorem unescape_append {piece rest replacement : Text}
    (found : escape (piece ++ rest) = ⟨replacement, piece.length⟩) :
    unescape (backslash :: (piece ++ rest)) = replacement ++ unescape rest := by
  rw [unescape, if_pos rfl, found]
  simp

theorem unitsOf_codePoint {n : Nat} (small : n < 0x10000) : Utf16.unitsOf (codePoint n) = [n] := by
  have value : (codePoint n).val = n := Nat.mod_eq_of_lt (by omega)
  rw [Utf16.unitsOf_of_lt (by omega), value]

/-- One escape more: its units stand in front of those of the rest. -/
theorem units_unescape_append {piece rest : Text} {c : CodePoint} {units : List Nat}
    (found : escape (piece ++ rest) = ⟨[c], piece.length⟩)
    (later : Utf16.units (unescape rest) = units) :
    Utf16.units (unescape (backslash :: (piece ++ rest))) = Utf16.unitsOf c ++ units := by
  rw [unescape_append found, List.singleton_append, Utf16.units_cons, later]

theorem units_unescape_append_of_lt {piece rest : Text} {n : Nat} {units : List Nat}
    (small : n < 0x10000) (found : escape (piece ++ rest) = ⟨[codePoint n], piece.length⟩)
    (later : Utf16.units (unescape rest) = units) :
    Utf16.units (unescape (backslash :: (piece ++ rest))) = n :: units := by
  rw [units_unescape_append found later, unitsOf_codePoint small, List.singleton_append]

theorem units_unescape {t : Text} {units : List Nat} (spells : Spells t units) :
    Utf16.units (unescape t) = units := by
  induction spells with
  | nil => simp [unescape, Utf16.units]
  | raw _ _ noBackslash _ _ ih => rw [unescape, if_neg noBackslash, Utf16.units_cons, ih]
  | byte a b _ ih =>
      have small : HexDigit.number [a, b] < 0x10000 := HexDigit.number_lt_of_length_le (by simp)
      exact units_unescape_append_of_lt small (escape_byte a b _) ih
  | short a b c d _ ih =>
      have small : HexDigit.number [a, b, c, d] < 0x10000 :=
        HexDigit.number_lt_of_length_le (by simp)
      exact units_unescape_append_of_lt small (escape_short a b c d _) ih
  | braced _ nonempty value _ ih => exact units_unescape_append (escape_braced _ nonempty value) ih
  | octal _ length small complete _ ih =>
      exact units_unescape_append_of_lt (by omega) (escape_octal length small complete) ih
  | letter _ listed _ ih =>
      have small : ∀ entry ∈ controlLetters, entry.2 < 0x10000 := by decide
      exact units_unescape_append_of_lt (small _ listed) (escape_letter _ listed) ih
  | itself _ _ free _ ih => exact units_unescape_append (escape_itself _ free) ih
  | continuation _ listed whole _ ih =>
      rw [unescape_append (escape_continuation listed whole)]
      exact ih

theorem no_surrogates_of_spells {t : Text} {units : List Nat} (spells : Spells t units)
    (plain : backslash ∉ t) : ∀ c ∈ t, ¬c.isSurrogate := by
  induction spells with
  | nil => simp
  | raw _ noSurrogate _ _ _ ih =>
      rw [List.mem_cons, not_or] at plain
      intro d member
      rcases List.mem_cons.mp member with rfl | member
      · exact noSurrogate
      · exact ih plain.2 d member
  | _ => exact absurd List.mem_cons_self plain

/-- Decoding replaces the escapes and joins the pairs. A body without escapes is taken as it
is, but then it has no pairs. -/
theorem decode_eq_of_spells {t : Text} {units : List Nat} (spells : Spells t units)
    (opening closing : CodePoint) :
    decode (opening :: t ++ [closing]) = Utf16.joinPairsOrKeep (unescape t) := by
  have inner : body (opening :: t ++ [closing]) = t := by simp [body]
  rw [decode, inner]
  split
  · rfl
  · rename_i plain
    rw [unescape_of_no_backslash plain]
    exact (Utf16.settled_of_no_surrogates (no_surrogates_of_spells spells plain)).symm

/-- Decoding a literal finds the code units that its body spells. It joins all of their pairs
when every surrogate belongs to one. -/
theorem units_decode_of_spells {t : Text} {units : List Nat} (spells : Spells t units)
    (opening closing : CodePoint) :
    Utf16.units (decode (opening :: t ++ [closing])) = units ∧
      (Utf16.WellFormed units →
        ∀ c ∈ decode (opening :: t ++ [closing]), ¬c.isSurrogate) := by
  rw [decode_eq_of_spells spells, Utf16.units_joinPairsOrKeep, units_unescape spells]
  refine ⟨rfl, fun wellFormed => Utf16.no_surrogates_of_wellFormed ?_⟩
  rw [units_unescape spells]
  exact wellFormed

/-- A body that mixes spellings: a pair of which one half is written in braces, an octal number
in front of a digit that it cannot take, a break of the line and a quote. -/
def mixedBody : Text := Text.ofString "a\\ud83d\\u\x7b0DE00\x7d\\471\\\r\n\\'\\v"

def mixedUnits : List Nat := [0x61, 0xD83D, 0xDE00, 0x27, 0x31, 0x27, 0x0B]

theorem units_decode_of_spells_mixed :
    Spells mixedBody mixedUnits ∧ Utf16.WellFormed mixedUnits ∧
      Utf16.units (decode (singleQuote :: mixedBody ++ [singleQuote])) = mixedUnits ∧
      ∀ c ∈ decode (singleQuote :: mixedBody ++ [singleQuote]), ¬c.isSurrogate := by
  have spells : Spells mixedBody mixedUnits :=
    .raw 0x61 (by decide) (by decide) (by decide) <|
    .short ⟨13, false⟩ ⟨8, false⟩ ⟨3, false⟩ ⟨13, false⟩ <|
    .braced [⟨0, false⟩, ⟨13, true⟩, ⟨14, true⟩, ⟨0, false⟩, ⟨0, false⟩] (c := 0xDE00)
      (by decide) (by decide) <|
    .octal [4, 7] (by decide) (by decide) (by decide) <|
    .raw 0x31 (by decide) (by decide) (by decide) <|
    .continuation [carriageReturn, lineFeed] (by decide) (by decide) <|
    .itself singleQuote (by decide) (by decide) <|
    .letter 0x76 (by decide) .nil
  have wellFormed : Utf16.WellFormed mixedUnits :=
    .unit (by decide) <| .pair (by decide) (by decide) <| .unit (by decide) <|
    .unit (by decide) <| .unit (by decide) <| .unit (by decide) .nil
  obtain ⟨sameUnits, joined⟩ := units_decode_of_spells spells singleQuote singleQuote
  exact ⟨spells, wellFormed, sameUnits, joined wellFormed⟩

end Literal

end NamespaceScan

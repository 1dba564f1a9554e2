import NamespaceScan.Proofs.Registration
import NamespaceScan.Proofs.Spelling

/-!
# The path of a registration line

A path is written between quotes with its quotes escaped and its backslashes as they are. The
literal gives the path back exactly when every backslash of the path begins an escape that keeps
its spelling, which is a number in braces that is no code point. A path without backslashes
comes back whatever quotes and line feeds it has.

Any other escape is longer than what it stands for, so the value is shorter than the path. Two
kinds of paths need a look at the end of the literal instead: a backslash before a quote closes
it too early, and a backslash at the end of the path leaves it open up to the first name behind
it.
-/

namespace NamespaceScan

open Registration (quotable_cons)

namespace Literal

/-! ## What an escape takes -/

/-- The code points that an escape takes behind its first one. -/
def isContinuing (c : CodePoint) : Bool :=
  c.hexValue?.isSome || c = 0x7B || c = 0x7D || c = lineFeed

theorem ne_backslash_of_isContinuing {c : CodePoint} (continuing : isContinuing c) :
    c ≠ backslash := by
  rintro rfl
  exact absurd continuing (by decide)

theorem ne_quote_of_isContinuing {c : CodePoint} (continuing : isContinuing c) :
    c ≠ singleQuote := by
  rintro rfl
  exact absurd continuing (by decide)

theorem isContinuing_of_hexValue? {c : CodePoint} (isHex : c.hexValue?.isSome) :
    isContinuing c := by
  simp [isContinuing, isHex]

theorem isContinuing_of_octalValue? {c : CodePoint} (isOctal : c.octalValue?.isSome) :
    isContinuing c := by
  obtain ⟨digit, rfl⟩ := OctalDigit.exists_sign_of_octalValue? isOctal
  revert digit
  decide

theorem isContinuing_of_mem_braces {digits : List HexDigit} {c : CodePoint}
    (member : c ∈ 0x7B :: (digits.map HexDigit.sign ++ [0x7D])) : isContinuing c := by
  rcases List.mem_cons.mp member with rfl | member
  · decide
  rcases List.mem_append.mp member with isDigit | isBrace
  · obtain ⟨digit, -, rfl⟩ := List.mem_map.mp isDigit
    exact isContinuing_of_hexValue? (by rw [HexDigit.hexValue?_sign]; rfl)
  · rw [List.mem_singleton.mp isBrace]
    decide

/-- The escape takes a first code point and continuing ones behind it. It stands for one code
point at most, unless it is a number in braces that keeps its spelling. -/
def Escape.Reads (e : Escape) (first : CodePoint) (rest : Text) : Prop :=
  ∃ more later, rest = more ++ later ∧ (∀ c ∈ more, isContinuing c) ∧
    e.length = more.length + 1 ∧
    (e.replacement.length ≤ 1 ∨
      ∃ digits, digits ≠ [] ∧ 0x110000 ≤ HexDigit.number digits ∧
        first :: more = braced digits ∧ e.replacement = backslash :: braced digits)

theorem exists_braced_of_bracedEscape? {t : Text} {e : Escape} (found : bracedEscape? t = some e) :
    ∃ digits later, digits ≠ [] ∧ t = braced digits ++ later := by
  unfold bracedEscape? at found
  split at found
  · rename_i more
    simp only at found
    split at found
    · rename_i c others later taken left
      obtain ⟨behind, whole⟩ := List.takeWhile_prefix (l := more) fun d => d.hexValue?.isSome
      obtain ⟨digits, spelt⟩ := HexDigit.exists_map_sign (List.all_eq_true.mp List.all_takeWhile)
      rw [spelt] at taken left whole
      rw [← whole, List.drop_left] at left
      refine ⟨digits, later, ?_, ?_⟩
      · rintro rfl
        cases taken
      · rw [← whole, left]
        simp [braced]
    · cases found
  · cases found

theorem hexValue?_of_foldlM {t : Text} {start n : Nat}
    (value : t.foldlM (fun n c => c.hexValue?.map (16 * n + ·)) start = some n) :
    ∀ c ∈ t, c.hexValue?.isSome := by
  induction t generalizing start with
  | nil => simp
  | cons c rest ih =>
      rw [List.foldlM_cons] at value
      obtain ⟨next, first, others⟩ := Option.bind_eq_some_iff.mp value
      obtain ⟨digit, isHex, -⟩ := Option.map_eq_some_iff.mp first
      intro d member
      rcases List.mem_cons.mp member with rfl | member
      · rw [isHex]
        rfl
      · exact ih others d member

theorem reads_of_shortEscape? {c : CodePoint} {rest : Text} {e : Escape}
    (found : shortEscape? (c :: rest) = some e) : e.Reads c rest := by
  unfold shortEscape? at found
  split at found
  · rename_i a b d f later same
    obtain ⟨rfl, rfl⟩ := List.cons.inj same
    obtain ⟨n, value, rfl⟩ := Option.map_eq_some_iff.mp found
    refine ⟨[a, b, d, f], later, rfl, fun g member => ?_, rfl, Or.inl (Nat.le_refl 1)⟩
    exact isContinuing_of_hexValue? (hexValue?_of_foldlM value g member)
  · cases found

theorem reads_of_byteEscape? {c : CodePoint} {rest : Text} {e : Escape}
    (found : byteEscape? (c :: rest) = some e) : e.Reads c rest := by
  unfold byteEscape? at found
  split at found
  · rename_i a b later same
    obtain ⟨rfl, rfl⟩ := List.cons.inj same
    obtain ⟨n, value, rfl⟩ := Option.map_eq_some_iff.mp found
    refine ⟨[a, b], later, rfl, fun g member => ?_, rfl, Or.inl (Nat.le_refl 1)⟩
    exact isContinuing_of_hexValue? (hexValue?_of_foldlM value g member)
  · cases found

theorem reads_of_bracedEscape? {c : CodePoint} {rest : Text} {e : Escape}
    (found : bracedEscape? (c :: rest) = some e) : e.Reads c rest := by
  obtain ⟨digits, later, nonempty, spelt⟩ := exists_braced_of_bracedEscape? found
  rw [spelt, bracedEscape?_braced later nonempty] at found
  cases found
  rw [braced, List.cons_append] at spelt
  obtain ⟨rfl, rfl⟩ := List.cons.inj spelt
  refine ⟨0x7B :: (digits.map HexDigit.sign ++ [0x7D]), later, rfl,
    fun d member => isContinuing_of_mem_braces member, ?_, ?_⟩
  · split <;> rfl
  · split
    · exact Or.inl (Nat.le_refl 1)
    · rename_i large
      exact Or.inr ⟨digits, nonempty, Nat.le_of_not_lt large, rfl, rfl⟩

theorem exists_octalDigits (limit : Nat) (rest : Text) :
    ∃ more later, rest = more ++ later ∧ (∀ c ∈ more, isContinuing c) ∧
      (octalDigits limit rest).length = more.length := by
  obtain ⟨between, taken⟩ :=
    List.takeWhile_prefix (l := rest.take limit) fun c => c.octalValue?.isSome
  refine ⟨(rest.take limit).takeWhile fun c => c.octalValue?.isSome,
    between ++ rest.drop limit, ?_, fun c member => ?_, ?_⟩
  · rw [← List.append_assoc, taken, List.take_append_drop]
  · exact isContinuing_of_octalValue? (List.all_eq_true.mp List.all_takeWhile c member)
  · rw [octalDigits, List.takeWhile_map, List.length_map, List.length_map]
    rfl

theorem reads_of_octalEscape? {c : CodePoint} {rest : Text} {e : Escape}
    (found : octalEscape? (c :: rest) = some e) : e.Reads c rest := by
  have isOctal : c.octalValue?.isSome := by
    rw [octalEscape?] at found
    split at found
    · rename_i inRange
      simp [CodePoint.octalValue?, inRange]
    · cases found
  obtain ⟨digit, rfl⟩ := OctalDigit.exists_sign_of_octalValue? isOctal
  obtain ⟨limit, positive⟩ : ∃ limit, (if digit.val ≤ 3 then 3 else 2) = limit + 1 := by
    split
    · exact ⟨2, rfl⟩
    · exact ⟨1, rfl⟩
  rw [octalEscape?_sign, positive, octalDigits_sign] at found
  cases found
  obtain ⟨more, later, whole, continuing, length⟩ := exists_octalDigits limit rest
  exact ⟨more, later, whole, continuing, congrArg (· + 1) length, Or.inl (Nat.le_refl 1)⟩

theorem reads_plainEscape (c : CodePoint) (rest : Text) :
    (plainEscape (c :: rest)).Reads c rest := by
  unfold plainEscape
  split
  · rename_i same
    cases same
  · rename_i later same
    obtain ⟨rfl, rfl⟩ := List.cons.inj same
    refine ⟨[lineFeed], later, rfl, fun c member => ?_, rfl, Or.inl (Nat.zero_le 1)⟩
    rw [List.mem_singleton.mp member]
    decide
  · rename_i same
    obtain ⟨rfl, rfl⟩ := List.cons.inj same
    refine ⟨[], rest, rfl, by simp, ?_, Or.inl ?_⟩ <;> split <;> simp

/-- Every escape reads this way, whichever spelling was found. -/
theorem reads_escape (c : CodePoint) (rest : Text) : (escape (c :: rest)).Reads c rest := by
  unfold escape
  cases braces : bracedEscape? (c :: rest) with
  | some e => exact reads_of_bracedEscape? braces
  | none =>
    cases short : shortEscape? (c :: rest) with
    | some e => exact reads_of_shortEscape? short
    | none =>
      cases byte : byteEscape? (c :: rest) with
      | some e => exact reads_of_byteEscape? byte
      | none =>
        cases octal : octalEscape? (c :: rest) with
        | some e => exact reads_of_octalEscape? octal
        | none => exact reads_plainEscape c rest

/-- Unescaping a backslash: what stands for it, and where unescaping goes on. -/
theorem unescape_backslash (c : CodePoint) (rest : Text) :
    ∃ more later replacement, rest = more ++ later ∧ (∀ d ∈ more, isContinuing d) ∧
      unescape (backslash :: c :: rest) = replacement ++ unescape later ∧
      (replacement.length ≤ 1 ∨
        ∃ digits, digits ≠ [] ∧ 0x110000 ≤ HexDigit.number digits ∧
          c :: more = braced digits ∧ replacement = backslash :: braced digits) := by
  obtain ⟨more, later, whole, continuing, length, standsFor⟩ := reads_escape c rest
  refine ⟨more, later, (escape (c :: rest)).replacement, whole, continuing, ?_, standsFor⟩
  have left : (c :: rest).drop (more.length + 1) = later := by rw [whole]; simp
  rw [unescape, if_pos rfl, length, left]

/-- A bracket behind a text is part of no escape but its own. -/
theorem unescape_concat_bracket (t : Text) :
    ∃ front, unescape (t ++ [0x5B]) = front ++ [0x5B] := by
  match t with
  | [] => exact ⟨[], unescape_of_no_backslash (by decide)⟩
  | c :: rest =>
      by_cases isBackslash : c = backslash
      · subst isBackslash
        match rest with
        | [] =>
            have found : escape ([0x5B] ++ []) = ⟨[0x5B], 1⟩ := rfl
            exact ⟨[], (unescape_append found).trans (by simp [unescape])⟩
        | d :: rest =>
            obtain ⟨more, later, replacement, whole, continuing, value, -⟩ :=
              unescape_backslash d (rest ++ [0x5B])
            rcases List.eq_nil_or_concat later with rfl | ⟨between, last, rfl⟩
            · rw [List.append_nil] at whole
              have member : (0x5B : CodePoint) ∈ more := by rw [← whole]; simp
              exact absurd (continuing _ member) (by decide)
            · rw [List.concat_eq_append, ← List.append_assoc] at whole
              obtain ⟨rfl, isBracket⟩ := List.append_inj' whole rfl
              cases isBracket
              obtain ⟨front, valueBetween⟩ := unescape_concat_bracket between
              refine ⟨replacement ++ front, value.trans ?_⟩
              rw [List.concat_eq_append, valueBetween, List.append_assoc]
      · obtain ⟨front, value⟩ := unescape_concat_bracket rest
        exact ⟨c :: front, by rw [List.cons_append, unescape, if_neg isBackslash, value]; rfl⟩
termination_by t.length

/-! ## Texts that are kept -/

/-- Every backslash of the text begins a number in braces that is no code point. -/
inductive Kept : Text → Prop where
  | nil : Kept []
  | char {c : CodePoint} {rest : Text} (noBackslash : c ≠ backslash) (later : Kept rest) :
      Kept (c :: rest)
  | number {digits : List HexDigit} {rest : Text} (nonempty : digits ≠ [])
      (large : 0x110000 ≤ HexDigit.number digits) (later : Kept rest) :
      Kept (backslash :: (braced digits ++ rest))

theorem kept_of_no_backslash {t : Text} (plain : ∀ c ∈ t, c ≠ backslash) : Kept t := by
  induction t with
  | nil => exact .nil
  | cons c rest ih =>
      obtain ⟨first, others⟩ := List.forall_mem_cons.mp plain
      exact .char first (ih others)

/-- Each backslash of the text guards a code point behind it, and none of these is a quote. -/
inductive Bare : Text → Prop where
  | nil : Bare []
  | char {c : CodePoint} {rest : Text} (noBackslash : c ≠ backslash) (later : Bare rest) :
      Bare (c :: rest)
  | guard {c : CodePoint} {rest : Text} (noQuote : c ≠ singleQuote) (later : Bare rest) :
      Bare (backslash :: c :: rest)

namespace Bare

theorem of_no_backslash {t : Text} (plain : ∀ c ∈ t, c ≠ backslash) : Bare t := by
  induction t with
  | nil => exact .nil
  | cons c rest ih =>
      obtain ⟨first, others⟩ := List.forall_mem_cons.mp plain
      exact .char first (ih others)

theorem tail {c : CodePoint} {rest : Text} (bare : Bare (c :: rest))
    (noBackslash : c ≠ backslash) : Bare rest := by
  cases bare with
  | char _ later => exact later
  | guard => exact absurd rfl noBackslash

theorem of_append {more later : Text} (plain : ∀ c ∈ more, c ≠ backslash)
    (bare : Bare (more ++ later)) : Bare later := by
  induction more with
  | nil => exact bare
  | cons c more ih =>
      obtain ⟨first, others⟩ := List.forall_mem_cons.mp plain
      exact ih others (bare.tail first)

theorem append {t other : Text} (bare : Bare t) (otherBare : Bare other) : Bare (t ++ other) := by
  induction bare with
  | nil => exact otherBare
  | char noBackslash _ ih => exact .char noBackslash ih
  | guard noQuote _ ih => exact .guard noQuote ih

end Bare

/-- A text is bare, or the part before its first backslash that is not in order is. -/
theorem bare_cases : (t : Text) →
    Bare t ∨ ∃ front, Bare front ∧
      (t = front ++ [backslash] ∨ ∃ rest, t = front ++ backslash :: singleQuote :: rest)
  | [] => Or.inl .nil
  | [c] => by
      by_cases isBackslash : c = backslash
      · exact Or.inr ⟨[], .nil, Or.inl (by rw [isBackslash]; rfl)⟩
      · exact Or.inl (.char isBackslash .nil)
  | c :: d :: rest => by
      by_cases isBackslash : c = backslash
      · subst isBackslash
        by_cases isQuote : d = singleQuote
        · exact Or.inr ⟨[], .nil, Or.inr ⟨rest, by rw [isQuote]; rfl⟩⟩
        · rcases bare_cases rest with bare | ⟨front, bare, broken⟩
          · exact Or.inl (.guard isQuote bare)
          · refine Or.inr ⟨backslash :: d :: front, .guard isQuote bare, ?_⟩
            simpa using broken
      · rcases bare_cases (d :: rest) with bare | ⟨front, bare, broken⟩
        · exact Or.inl (.char isBackslash bare)
        · refine Or.inr ⟨c :: front, .char isBackslash bare, ?_⟩
          simpa using broken

theorem Kept.bare {t : Text} (kept : Kept t) : Bare t := by
  induction kept with
  | nil => exact .nil
  | char noBackslash _ ih => exact .char noBackslash ih
  | @number digits rest _ _ _ ih =>
      have braces : Bare (0x7B :: (digits.map HexDigit.sign ++ [0x7D])) :=
        .of_no_backslash fun c member =>
          ne_backslash_of_isContinuing (isContinuing_of_mem_braces member)
      exact .guard (by decide) (braces.append ih)

/-! ## The value of a literal -/

theorem decode_eq_or (raw : Text) :
    decode raw = Utf16.joinPairsOrKeep (unescape (body raw)) ∨
      decode raw = unescape (body raw) := by
  rw [decode]
  split
  · exact Or.inl rfl
  · rename_i plain
    exact Or.inr (unescape_of_no_backslash plain).symm

theorem decode_of_settled {raw : Text} (settled : Utf16.Settled (unescape (body raw))) :
    decode raw = unescape (body raw) := by
  rcases decode_eq_or raw with joined | kept
  · exact joined.trans settled
  · exact kept

theorem length_decode_le (raw : Text) : (decode raw).length ≤ (unescape (body raw)).length := by
  rcases decode_eq_or raw with joined | kept
  · rw [joined]
    exact Utf16.length_joinPairsOrKeep_le _
  · rw [kept]

theorem units_decode (raw : Text) :
    Utf16.units (decode raw) = Utf16.units (unescape (body raw)) := by
  rcases decode_eq_or raw with joined | kept
  · rw [joined, Utf16.units_joinPairsOrKeep]
  · rw [kept]

/-- The first literal of a text: from the first quote up to the quote that closes it. -/
def first? (t : Text) : Option Text := (readOne? (t.dropWhile (· ≠ singleQuote))).map (·.1)

theorem first?_append {front : Text} (plain : singleQuote ∉ front) (rest : Text) :
    first? (front ++ singleQuote :: rest) =
      (closing? false rest).map fun found => singleQuote :: found.1 := by
  have skipped : (front ++ singleQuote :: rest).dropWhile (· ≠ singleQuote) =
      singleQuote :: rest := by
    rw [List.dropWhile_append_of_pos, List.dropWhile_cons_of_neg (by simp)]
    intro c member
    simp only [decide_eq_true_eq]
    rintro rfl
    exact plain member
  rw [first?, skipped, readOne?, if_pos rfl, Option.map_map]
  rfl

end Literal

namespace Dependencies

open Literal

/-! ## Paths between quotes -/

theorem quotable_append (t other : Text) :
    quotable (t ++ other) = quotable t ++ quotable other :=
  List.flatMap_append

theorem quotable_of_no_quote {t : Text} (plain : singleQuote ∉ t) : quotable t = t := by
  induction t with
  | nil => rfl
  | cons c rest ih =>
      rw [List.mem_cons, not_or] at plain
      rcases quotable_cons c rest with ⟨isQuote, -⟩ | ⟨-, spelt⟩
      · exact absurd isQuote.symm plain.1
      · rw [spelt, ih plain.2]

theorem quotable_guard {c : CodePoint} {rest : Text} (noQuote : c ≠ singleQuote) :
    quotable (backslash :: c :: rest) = backslash :: c :: quotable rest := by
  rcases quotable_cons c rest with ⟨isQuote, -⟩ | ⟨-, same⟩
  · exact absurd isQuote noQuote
  · rw [← same]
    rfl

/-- What an escape takes from a path is as it is in the path. -/
theorem eq_append_of_quotable {t more tail : Text} (spelt : quotable t = more ++ tail)
    (continuing : ∀ c ∈ more, isContinuing c) :
    ∃ later, t = more ++ later ∧ tail = quotable later := by
  induction more generalizing t with
  | nil => exact ⟨t, rfl, spelt.symm⟩
  | cons c more ih =>
      obtain ⟨first, others⟩ := List.forall_mem_cons.mp continuing
      cases t with
      | nil => cases spelt
      | cons d rest =>
          rcases quotable_cons d rest with ⟨-, escaped⟩ | ⟨-, kept⟩
          · rw [escaped] at spelt
            exact absurd (List.cons.inj spelt).1.symm (ne_backslash_of_isContinuing first)
          · rw [kept] at spelt
            obtain ⟨rfl, same⟩ := List.cons.inj spelt
            obtain ⟨later, rfl, behind⟩ := ih same others
            exact ⟨later, rfl, behind⟩

theorem unescape_quotable_of_kept {t : Text} (kept : Kept t) : unescape (quotable t) = t := by
  induction kept with
  | nil => simp [quotable, Text.substitute, unescape]
  | @char c rest noBackslash _ ih =>
      rcases quotable_cons c rest with ⟨rfl, escaped⟩ | ⟨-, same⟩
      · rw [escaped]
        have found : escape ([singleQuote] ++ quotable rest) = ⟨[singleQuote], 1⟩ := rfl
        exact (unescape_append found).trans (by rw [ih]; rfl)
      · rw [same, unescape, if_neg noBackslash, ih]
  | @number digits rest nonempty large _ ih =>
      have plain : singleQuote ∉ backslash :: braced digits := by
        rw [braced, List.mem_cons, List.mem_cons, not_or, not_or]
        refine ⟨by decide, by decide, fun member => ?_⟩
        exact ne_quote_of_isContinuing (isContinuing_of_mem_braces member) rfl
      have spelt := quotable_append (backslash :: braced digits) rest
      rw [quotable_of_no_quote plain] at spelt
      have found := bracedEscape?_braced (quotable rest) nonempty
      rw [if_neg (Nat.not_lt.mpr large)] at found
      have escapeFound : escape (braced digits ++ quotable rest) =
          ⟨backslash :: braced digits, (braced digits).length⟩ := by
        simp [escape, found]
      exact (congrArg unescape spelt).trans ((unescape_append escapeFound).trans (by rw [ih]; rfl))

theorem length_unescape_quotable_cons {c : CodePoint} {rest : Text} (noBackslash : c ≠ backslash) :
    (unescape (quotable (c :: rest))).length = (unescape (quotable rest)).length + 1 := by
  rcases quotable_cons c rest with ⟨-, escaped⟩ | ⟨-, same⟩
  · have found : escape ([singleQuote] ++ quotable rest) = ⟨[singleQuote], 1⟩ := rfl
    rw [escaped]
    exact congrArg List.length (unescape_append found)
  · rw [same, unescape, if_neg noBackslash, List.length_cons]

/-- A path that is not kept is longer than the value of its literal. -/
theorem kept_or_length_lt {t : Text} (bare : Bare t) :
    Kept t ∨ (unescape (quotable t)).length < t.length := by
  cases bare with
  | nil => exact Or.inl .nil
  | @char c rest noBackslash later =>
      rcases kept_or_length_lt later with kept | shorter
      · exact Or.inl (.char noBackslash kept)
      · rw [length_unescape_quotable_cons noBackslash, List.length_cons]
        exact Or.inr (Nat.succ_lt_succ shorter)
  | @guard c rest noQuote later =>
      obtain ⟨more, tail, replacement, whole, continuing, value, standsFor⟩ :=
        unescape_backslash c (quotable rest)
      obtain ⟨behind, rfl, rfl⟩ := eq_append_of_quotable whole continuing
      have bareBehind : Bare behind := later.of_append fun d member =>
        ne_backslash_of_isContinuing (continuing d member)
      have ih := kept_or_length_lt bareBehind
      rw [quotable_guard noQuote, value]
      rcases standsFor with short | ⟨digits, nonempty, large, braces, rfl⟩
      · right
        have notLonger : (unescape (quotable behind)).length ≤ behind.length := by
          rcases ih with kept | shorter
          · rw [unescape_quotable_of_kept kept]
          · exact Nat.le_of_lt shorter
        simp only [List.length_append, List.length_cons]
        omega
      · rcases ih with kept | shorter
        · left
          rw [← List.cons_append, braces]
          exact .number nonempty large kept
        · right
          rw [← braces]
          simp only [List.length_append, List.length_cons]
          omega
termination_by t.length

/-- A quote closes a literal only behind the bare part of a path. -/
theorem closing?_quotable {front : Text} (bare : Bare front) (tail : Text) :
    closing? false (quotable front ++ tail) =
      (closing? false tail).map fun found => (quotable front ++ found.1, found.2) := by
  induction bare with
  | nil => simp [quotable, Text.substitute]
  | @char c rest noBackslash _ ih =>
      rcases quotable_cons c rest with ⟨rfl, escaped⟩ | ⟨noQuote, same⟩
      · have notQuote : backslash ≠ singleQuote := by decide
        rw [escaped]
        simp [closing?, notQuote, ih, Function.comp_def]
      · rw [same]
        simp [closing?, noQuote, noBackslash, ih, Function.comp_def]
  | @guard c rest noQuote _ ih =>
      have notQuote : backslash ≠ singleQuote := by decide
      rw [quotable_guard noQuote]
      simp [closing?, noQuote, notQuote, ih, Function.comp_def]

theorem closing?_plain {plain : Text} (noQuote : singleQuote ∉ plain)
    (noBackslash : backslash ∉ plain) (tail : Text) :
    closing? false (plain ++ tail) =
      (closing? false tail).map fun found => (plain ++ found.1, found.2) := by
  have bare : Bare plain :=
    .of_no_backslash fun _ member => ne_of_mem_of_not_mem member noBackslash
  have closing := closing?_quotable bare tail
  rw [quotable_of_no_quote noQuote] at closing
  exact closing

theorem closing?_of_bare {path : Text} (bare : Bare path) (behind : Text) :
    closing? false (quotable path ++ singleQuote :: behind) =
      some (quotable path ++ [singleQuote], behind) := by
  rw [closing?_quotable bare, closing?, if_pos ⟨rfl, rfl⟩]
  rfl

/-! ## The line -/

/-- The line behind its path. -/
def lineEnd (d : Dependencies) : Text :=
  Text.concat [", [", literals d.found.provides, "], [", literals d.found.requires, "]);"]

theorem line_eq (cwd : Location) (base : Option Path) (d : Dependencies) :
    d.line cwd base =
      Text.ofString "goog.addDependency(" ++
        singleQuote :: (quotable (d.reportedPath cwd base).toText ++ singleQuote :: d.lineEnd) := by
  have opening : Text.ofString "goog.addDependency('" =
      Text.ofString "goog.addDependency(" ++ [singleQuote] := by decide
  have closing : Text.ofString "', [" = singleQuote :: Text.ofString ", [" := by decide
  simp [line, lineEnd, Text.concat, opening, closing]

theorem literals_cases (names : Names) :
    literals names = [] ∨ ∃ rest, literals names = singleQuote :: rest := by
  cases listed : names.toList with
  | nil =>
      left
      rw [literals, listed]
      rfl
  | cons name others =>
      right
      rw [literals, listed, List.map_cons, Text.joinWith_cons]
      exact ⟨_, rfl⟩

/-- The first quote behind the path of a line stands behind the bracket of a list. -/
theorem bracket_of_closing?_lineEnd {d : Dependencies} {literal left : Text}
    (closed : closing? false d.lineEnd = some (literal, left)) :
    ∃ front, literal = front ++ [0x5B, singleQuote] := by
  rcases literals_cases d.found.provides with noProvides | ⟨provides, someProvides⟩
  · rcases literals_cases d.found.requires with noRequires | ⟨requires, someRequires⟩
    · have spelt : d.lineEnd = Text.ofString ", [], []);" ++ [] := by
        rw [lineEnd, noProvides, noRequires]
        decide
      rw [spelt, closing?_plain (by decide) (by decide)] at closed
      cases closed
    · have spelt : d.lineEnd =
          Text.ofString ", [], [" ++ singleQuote :: (requires ++ Text.ofString "]);") := by
        rw [lineEnd, noProvides, someRequires]
        rfl
      rw [spelt, closing?_plain (by decide) (by decide), closing?, if_pos ⟨rfl, rfl⟩] at closed
      cases closed
      exact ⟨Text.ofString ", [], ", rfl⟩
  · have spelt : d.lineEnd = Text.ofString ", [" ++ singleQuote ::
        (provides ++ Text.ofString "], [" ++ literals d.found.requires ++ Text.ofString "]);") := by
      rw [lineEnd, someProvides]
      simp [Text.concat]
    rw [spelt, closing?_plain (by decide) (by decide), closing?, if_pos ⟨rfl, rfl⟩] at closed
    cases closed
    exact ⟨Text.ofString ", ", rfl⟩

/-- The literal of a bare path gives the path back when the path is kept. -/
theorem decode_quotable_iff {path : Text} (plain : ∀ c ∈ path, ¬c.isSurrogate)
    (bare : Bare path) :
    decode (singleQuote :: (quotable path ++ [singleQuote])) = path ↔ Kept path := by
  have inner : body (singleQuote :: (quotable path ++ [singleQuote])) = quotable path := by
    simp [body]
  constructor
  · intro same
    rcases kept_or_length_lt bare with kept | shorter
    · exact kept
    · have notLonger := length_decode_le (singleQuote :: (quotable path ++ [singleQuote]))
      rw [same, inner] at notLonger
      omega
  · intro kept
    have value := unescape_quotable_of_kept kept
    rw [decode_of_settled, inner, value]
    rw [inner, value]
    exact Utf16.settled_of_no_surrogates plain

/-- A backslash before a quote closes the literal behind itself. -/
theorem decode_ne_of_closed_early {front rest : Text}
    (plain : ∀ c ∈ front ++ backslash :: singleQuote :: rest, ¬c.isSurrogate) (bare : Bare front) :
    decode (singleQuote :: (quotable (front ++ [backslash, backslash]) ++ [singleQuote])) ≠
      front ++ backslash :: singleQuote :: rest := by
  intro same
  have plainBoth : ∀ c ∈ front ++ [backslash, backslash], ¬c.isSurrogate := by
    intro c member
    apply plain
    simp only [List.mem_append, List.mem_cons, List.not_mem_nil] at member ⊢
    tauto
  have bareBoth : Bare (front ++ [backslash, backslash]) := bare.append (.guard (by decide) .nil)
  rcases kept_or_length_lt bareBoth with kept | shorter
  · have value := (decode_quotable_iff plainBoth bareBoth).mpr kept
    rw [same, List.append_cancel_left_eq] at value
    exact absurd (List.cons.inj (List.cons.inj value).2).1 (by decide)
  · have notLonger := length_decode_le
      (singleQuote :: (quotable (front ++ [backslash, backslash]) ++ [singleQuote]))
    rw [same] at notLonger
    simp only [body, List.drop_one, List.tail_cons, List.dropLast_concat, List.length_append,
      List.length_cons, List.length_nil] at notLonger shorter
    omega

/-- A literal that ends behind a bracket does not give back a path that ends in a backslash. -/
theorem decode_ne_of_open (inner front : Text) :
    decode (singleQuote :: (inner ++ [0x5B]) ++ [singleQuote]) ≠ front ++ [backslash] := by
  intro same
  have units := units_decode (singleQuote :: (inner ++ [0x5B]) ++ [singleQuote])
  have inside : body (singleQuote :: (inner ++ [0x5B]) ++ [singleQuote]) = inner ++ [0x5B] := by
    simp [body]
  obtain ⟨before, value⟩ := unescape_concat_bracket inner
  rw [same, inside, value, Utf16.units_append, Utf16.units_append] at units
  exact absurd (List.append_inj' units rfl).2 (by decide)

/-- The first literal of a line gives the path back exactly when the path is kept. -/
theorem map_decode_first?_line_iff {cwd : Location} {base : Option Path} {d : Dependencies}
    (plain : ∀ c ∈ (d.reportedPath cwd base).toText, ¬c.isSurrogate) :
    (first? (d.line cwd base)).map decode = some (d.reportedPath cwd base).toText ↔
      Kept (d.reportedPath cwd base).toText := by
  rw [line_eq, first?_append (by decide), Option.map_map]
  generalize (d.reportedPath cwd base).toText = path at plain ⊢
  constructor
  · intro readBack
    obtain ⟨⟨literal, left⟩, closed, same⟩ := Option.map_eq_some_iff.mp readBack
    rcases bare_cases path with bare | ⟨front, bare, rfl | ⟨rest, rfl⟩⟩
    · rw [closing?_of_bare bare] at closed
      cases closed
      exact (decode_quotable_iff plain bare).mp same
    · -- The backslash and the quote behind it read like a quote of the path.
      have spelt : quotable (front ++ [backslash]) ++ singleQuote :: d.lineEnd =
          quotable (front ++ [singleQuote]) ++ d.lineEnd := by
        rw [quotable_append, quotable_append, List.append_assoc, List.append_assoc]
        rfl
      rw [spelt, closing?_quotable (bare.append (.char (by decide) .nil))] at closed
      obtain ⟨⟨ending, left'⟩, closedEnd, pair⟩ := Option.map_eq_some_iff.mp closed
      cases pair
      obtain ⟨between, rfl⟩ := bracket_of_closing?_lineEnd closedEnd
      refine absurd ?_ (decode_ne_of_open (quotable (front ++ [singleQuote]) ++ between) front)
      simpa using same
    · -- The two backslashes read like two backslashes of the path.
      have spelt : quotable (front ++ backslash :: singleQuote :: rest) ++
            singleQuote :: d.lineEnd =
          quotable (front ++ [backslash, backslash]) ++
            singleQuote :: (quotable rest ++ singleQuote :: d.lineEnd) := by
        rw [quotable_append, quotable_append, List.append_assoc, List.append_assoc]
        rfl
      rw [spelt, closing?_of_bare (bare.append (.guard (by decide) .nil))] at closed
      cases closed
      exact absurd same (decode_ne_of_closed_early plain bare)
  · intro kept
    rw [closing?_of_bare kept.bare]
    exact congrArg some ((decode_quotable_iff plain kept.bare).mpr kept)

/-- The first literal of a line gives the path back exactly when every backslash of the path
begins an escape that is kept. A path without backslashes comes back. -/
theorem path_of_first?_line {cwd : Location} {base : Option Path} {d : Dependencies}
    (plain : ∀ c ∈ (d.reportedPath cwd base).toText, ¬c.isSurrogate) :
    ((first? (d.line cwd base)).map decode = some (d.reportedPath cwd base).toText ↔
        Kept (d.reportedPath cwd base).toText) ∧
      (backslash ∉ (d.reportedPath cwd base).toText →
        (first? (d.line cwd base)).map decode = some (d.reportedPath cwd base).toText) := by
  refine ⟨map_decode_first?_line_iff plain, fun noBackslash => ?_⟩
  apply (map_decode_first?_line_iff plain).mpr
  exact kept_of_no_backslash fun _ member => ne_of_mem_of_not_mem member noBackslash

/-- A file whose name holds a quote, a line feed and a number in braces that is no code point. -/
def oddFile : Dependencies where
  path := { anchor := .root, names := ["'\n\\u\x7b110000\x7d"] }
  found := { provides := OrderedSet.ofList ["a"] }

theorem path_of_first?_line_oddFile :
    (∀ c ∈ (oddFile.reportedPath [] none).toText, ¬c.isSurrogate) ∧
      Kept (oddFile.reportedPath [] none).toText ∧
      (first? (oddFile.line [] none)).map decode = some (oddFile.reportedPath [] none).toText := by
  have plain : ∀ c ∈ (oddFile.reportedPath [] none).toText, ¬c.isSurrogate :=
    List.any_eq_false.mp (by decide)
  have number : Kept (backslash :: (braced
      [⟨1, false⟩, ⟨1, false⟩, ⟨0, false⟩, ⟨0, false⟩, ⟨0, false⟩, ⟨0, false⟩] ++ [])) :=
    .number (by decide) (by decide) .nil
  have kept : Kept (oddFile.reportedPath [] none).toText :=
    .char (by decide) <| .char (by decide) <| .char (by decide) number
  exact ⟨plain, kept, (path_of_first?_line plain).1.mpr kept⟩

/-- A file whose name holds a backslash before a letter. -/
def escapedFile : Dependencies where
  path := { anchor := .root, names := ["a\\b.js"] }
  found := { provides := OrderedSet.ofList ["a"] }

/-- The letter behind the backslash of the path spells a control character. -/
theorem path_lost_escapedFile :
    (∀ c ∈ (escapedFile.reportedPath [] none).toText, ¬c.isSurrogate) ∧
      (escapedFile.reportedPath [] none).toText = Text.ofString "/a\\b.js" ∧
      (first? (escapedFile.line [] none)).map decode = some (Text.ofString "/a\x08.js") ∧
      (first? (escapedFile.line [] none)).map decode ≠
        some (escapedFile.reportedPath [] none).toText := by
  have value : (first? (escapedFile.line [] none)).map decode =
      some (Text.ofString "/a\x08.js") := by
    decide +kernel
  refine ⟨List.any_eq_false.mp (by decide), by decide, value, ?_⟩
  rw [value]
  decide

end Dependencies

end NamespaceScan

import Mathlib.Data.List.Basic
import NamespaceScan.Text.Utf16

/-!
# Code units

Joining the surrogate pairs of a text leaves its code units as they are, and nothing to join
in it. It succeeds whenever the code units are well-formed. Cutting a text into surrogates
keeps the code units as well.
-/

namespace NamespaceScan

namespace Utf16

/-! ## Joining pairs -/

theorem joinPairs_of_no_surrogates {t : Text} (plain : ∀ c ∈ t, ¬c.isSurrogate) :
    joinPairs t = some t := by
  induction t using joinPairs.induct with
  | case1 => rfl
  | case2 c surrogate => exact absurd surrogate (plain c List.mem_cons_self)
  | case3 c noSurrogate => simp [joinPairs, noSurrogate]
  | case4 c d rest surrogate => exact absurd surrogate (plain c List.mem_cons_self)
  | case5 c d rest surrogate => exact absurd surrogate (plain c List.mem_cons_self)
  | case6 c d rest noSurrogate ih =>
      have later := ih fun e member => plain e (List.mem_cons_of_mem c member)
      simp [joinPairs, noSurrogate, later]

theorem isSurrogate_iff {c : CodePoint} : c.isSurrogate ↔ 0xD800 ≤ c.val ∧ c.val ≤ 0xDFFF := by
  simp only [CodePoint.isSurrogate, Bool.and_eq_true, decide_eq_true_eq]

theorem isPair_iff {high low : CodePoint} :
    (high.isHighSurrogate && low.isLowSurrogate) = true ↔
      (0xD800 ≤ high.val ∧ high.val ≤ 0xDBFF) ∧ 0xDC00 ≤ low.val ∧ low.val ≤ 0xDFFF := by
  simp only [CodePoint.isHighSurrogate, CodePoint.isLowSurrogate, Bool.and_eq_true,
    decide_eq_true_eq]

theorem val_pairValue {high low : CodePoint}
    (pair : (high.isHighSurrogate && low.isLowSurrogate) = true) :
    (pairValue high low).val = 0x10000 + (high.val - 0xD800) * 1024 + (low.val - 0xDC00) := by
  rw [isPair_iff] at pair
  exact Nat.mod_eq_of_lt (by omega)

theorem not_isSurrogate_pairValue {high low : CodePoint}
    (pair : (high.isHighSurrogate && low.isLowSurrogate) = true) :
    ¬(pairValue high low).isSurrogate := by
  rw [isSurrogate_iff, val_pairValue pair]
  omega

/-- The second text is the first one with its pairs joined. -/
inductive Joins : Text → Text → Prop where
  | nil : Joins [] []
  | char {c : CodePoint} {rest joined : Text} (noSurrogate : ¬c.isSurrogate)
      (later : Joins rest joined) : Joins (c :: rest) (c :: joined)
  | pair {high low : CodePoint} {rest joined : Text}
      (pair : (high.isHighSurrogate && low.isLowSurrogate) = true) (later : Joins rest joined) :
      Joins (high :: low :: rest) (pairValue high low :: joined)

theorem joins_of_joinPairs {t joined : Text} (done : joinPairs t = some joined) :
    Joins t joined := by
  induction t using joinPairs.induct generalizing joined with
  | case1 =>
      cases done
      exact .nil
  | case2 c surrogate =>
      rw [joinPairs, if_pos surrogate] at done
      cases done
  | case3 c noSurrogate =>
      rw [joinPairs, if_neg noSurrogate] at done
      cases done
      exact .char noSurrogate .nil
  | case4 c d rest surrogate pair ih =>
      rw [joinPairs, if_pos surrogate, if_pos pair] at done
      obtain ⟨later, joinedLater, rfl⟩ := Option.map_eq_some_iff.mp done
      exact .pair pair (ih joinedLater)
  | case5 c d rest surrogate noPair =>
      rw [joinPairs, if_pos surrogate, if_neg noPair] at done
      cases done
  | case6 c d rest noSurrogate ih =>
      rw [joinPairs, if_neg noSurrogate] at done
      obtain ⟨later, joinedLater, rfl⟩ := Option.map_eq_some_iff.mp done
      exact .char noSurrogate (ih joinedLater)

theorem Joins.no_surrogates {t joined : Text} (joins : Joins t joined) :
    ∀ c ∈ joined, ¬c.isSurrogate := by
  induction joins with
  | nil => simp
  | char noSurrogate _ ih => exact List.forall_mem_cons.mpr ⟨noSurrogate, ih⟩
  | pair pair _ ih => exact List.forall_mem_cons.mpr ⟨not_isSurrogate_pairValue pair, ih⟩

theorem Joins.length_le {t joined : Text} (joins : Joins t joined) :
    joined.length ≤ t.length := by
  induction joins with
  | nil => exact Nat.le_refl 0
  | char _ _ ih => exact Nat.succ_le_succ ih
  | pair _ _ ih => exact Nat.le_succ_of_le (Nat.succ_le_succ ih)

theorem length_joinPairsOrKeep_le (t : Text) : (joinPairsOrKeep t).length ≤ t.length := by
  cases done : joinPairs t with
  | none => simp [joinPairsOrKeep, done]
  | some joined => simpa [joinPairsOrKeep, done] using (joins_of_joinPairs done).length_le

/-- Joining leaves the text as it is: it has no surrogates, or some surrogate in it
is unpaired. -/
def Settled (t : Text) : Prop := joinPairsOrKeep t = t

theorem settled_of_no_surrogates {t : Text} (plain : ∀ c ∈ t, ¬c.isSurrogate) : Settled t := by
  rw [Settled, joinPairsOrKeep, joinPairs_of_no_surrogates plain]
  rfl

/-- Joining is all or nothing, so a second pass finds nothing to join. -/
theorem settled_joinPairsOrKeep (t : Text) : Settled (joinPairsOrKeep t) := by
  cases done : joinPairs t with
  | none => simp [Settled, joinPairsOrKeep, done]
  | some joined =>
      simpa [joinPairsOrKeep, done] using
        settled_of_no_surrogates (joins_of_joinPairs done).no_surrogates

/-! ## Units -/

theorem unitsOf_of_lt {c : CodePoint} (small : c.val < 0x10000) : unitsOf c = [c.val] :=
  if_pos small

theorem units_cons (c : CodePoint) (t : Text) : units (c :: t) = unitsOf c ++ units t :=
  List.flatMap_cons

theorem units_append (t other : Text) : units (t ++ other) = units t ++ units other :=
  List.flatMap_append

theorem unitsOf_surrogate {c : CodePoint} (surrogate : c.isSurrogate) : unitsOf c = [c.val] := by
  rw [isSurrogate_iff] at surrogate
  exact unitsOf_of_lt (by omega)

/-- A pair and the code point that it stands for have the same units. -/
theorem units_of_pair {high low : CodePoint} {rest : Text}
    (pair : (high.isHighSurrogate && low.isLowSurrogate) = true) :
    unitsOf (pairValue high low) ++ units rest = units (high :: low :: rest) := by
  have value := val_pairValue pair
  rw [isPair_iff] at pair
  have joined : unitsOf (pairValue high low) = [high.val, low.val] := by
    rw [unitsOf, value, if_neg (by omega)]
    simp only [List.cons.injEq, and_true]
    omega
  rw [joined, units_cons, units_cons, unitsOf_of_lt (by omega), unitsOf_of_lt (by omega)]
  rfl

/-- Joining keeps the code units. -/
theorem Joins.units_eq {t joined : Text} (joins : Joins t joined) : units joined = units t := by
  induction joins with
  | nil => rfl
  | @char c rest joined _ _ ih => rw [units_cons, units_cons c, ih]
  | pair pair _ ih => rw [units_cons, ih, units_of_pair pair]

theorem units_joinPairsOrKeep (t : Text) : units (joinPairsOrKeep t) = units t := by
  cases done : joinPairs t with
  | none => simp [joinPairsOrKeep, done]
  | some joined => simp [joinPairsOrKeep, done, (joins_of_joinPairs done).units_eq]

/-- The text with every code point beyond U+FFFF cut into its two surrogates. -/
def split (t : Text) : Text := t.flatMap fun c => (unitsOf c).map (Fin.ofNat 0x110000)

theorem lt_of_mem_unitsOf {c : CodePoint} {unit : Nat} (member : unit ∈ unitsOf c) :
    unit < 0x10000 := by
  have bound := c.isLt
  unfold unitsOf at member
  split at member
  · rename_i small
    cases List.mem_singleton.mp member
    exact small
  · simp only [List.mem_cons, List.not_mem_nil, or_false] at member
    omega

theorem val_ofNat_of_mem_unitsOf {c : CodePoint} {unit : Nat} (member : unit ∈ unitsOf c) :
    (Fin.ofNat 0x110000 unit).val = unit :=
  Nat.mod_eq_of_lt (Nat.lt_trans (lt_of_mem_unitsOf member) (by decide))

theorem lt_of_mem_split {t : Text} {c : CodePoint} (member : c ∈ split t) : c.val < 0x10000 := by
  obtain ⟨d, -, inside⟩ := List.mem_flatMap.mp member
  obtain ⟨unit, listed, rfl⟩ := List.mem_map.mp inside
  rw [val_ofNat_of_mem_unitsOf listed]
  exact lt_of_mem_unitsOf listed

theorem map_val_split (t : Text) : (split t).map (·.val) = units t := by
  rw [split, units, List.map_flatMap]
  refine List.flatMap_congr fun c _ => ?_
  rw [List.map_map]
  exact (List.map_congr_left fun unit member => val_ofNat_of_mem_unitsOf member).trans
    (List.map_id _)

/-! ## Well-formed units -/

/-- Every surrogate among the code units belongs to a pair. -/
inductive WellFormed : List Nat → Prop where
  | nil : WellFormed []
  | unit {unit : Nat} {rest : List Nat} (plain : unit < 0xD800 ∨ 0xE000 ≤ unit)
      (later : WellFormed rest) : WellFormed (unit :: rest)
  | pair {high low : Nat} {rest : List Nat} (isHigh : 0xD800 ≤ high ∧ high < 0xDC00)
      (isLow : 0xDC00 ≤ low ∧ low < 0xE000) (later : WellFormed rest) :
      WellFormed (high :: low :: rest)

theorem WellFormed.of_cons {unit : Nat} {rest : List Nat} (wellFormed : WellFormed (unit :: rest)) :
    (unit < 0xD800 ∨ 0xE000 ≤ unit) ∧ WellFormed rest ∨
      (0xD800 ≤ unit ∧ unit < 0xDC00) ∧
        ∃ low later, rest = low :: later ∧ (0xDC00 ≤ low ∧ low < 0xE000) ∧ WellFormed later := by
  cases wellFormed with
  | unit plain later => exact Or.inl ⟨plain, later⟩
  | pair isHigh isLow later => exact Or.inr ⟨isHigh, _, _, rfl, isLow, later⟩

/-- A low unit at the front of a text is a code point of its own. -/
theorem isLowSurrogate_of_units {c : CodePoint} {t : Text} {low : Nat} {later : List Nat}
    (first : units (c :: t) = low :: later) (isLow : 0xDC00 ≤ low ∧ low < 0xE000) :
    c.isLowSurrogate := by
  have bound := c.isLt
  rw [units_cons, unitsOf] at first
  split at first
  · cases first
    simp only [CodePoint.isLowSurrogate, Bool.and_eq_true, decide_eq_true_eq]
    omega
  · simp only [List.cons_append, List.cons.injEq] at first
    omega

theorem WellFormed.of_append {c : CodePoint} (noSurrogate : ¬c.isSurrogate) {rest : List Nat}
    (wellFormed : WellFormed (unitsOf c ++ rest)) : WellFormed rest := by
  have bound := c.isLt
  rw [isSurrogate_iff] at noSurrogate
  rw [unitsOf] at wellFormed
  split at wellFormed
  · rcases wellFormed.of_cons with ⟨-, later⟩ | ⟨isHigh, -⟩
    · exact later
    · omega
  · rcases wellFormed.of_cons with ⟨plain, -⟩ | ⟨-, low, later, cut, -, wellFormedLater⟩
    · omega
    · have sameRest : rest = later := (List.cons.inj cut).2
      rw [sameRest]
      exact wellFormedLater

/-- The surrogates of a text with well-formed code units can be joined. -/
theorem exists_joinPairs_of_wellFormed {t : Text} (wellFormed : WellFormed (units t)) :
    ∃ joined, joinPairs t = some joined := by
  induction t using joinPairs.induct with
  | case1 => exact ⟨[], rfl⟩
  | case2 c surrogate =>
      rw [units_cons, unitsOf_surrogate surrogate] at wellFormed
      rw [isSurrogate_iff] at surrogate
      rcases wellFormed.of_cons with ⟨plain, -⟩ | ⟨-, low, later, cut, -⟩
      · omega
      · cases cut
  | case3 c noSurrogate => exact ⟨[c], by rw [joinPairs, if_neg noSurrogate]⟩
  | case4 c d rest surrogate pair ih =>
      have joinedUnits : WellFormed (unitsOf (pairValue c d) ++ units rest) := by
        rw [units_of_pair pair]
        exact wellFormed
      obtain ⟨joined, done⟩ := ih (joinedUnits.of_append (not_isSurrogate_pairValue pair))
      exact ⟨pairValue c d :: joined, by rw [joinPairs, if_pos surrogate, if_pos pair, done]; rfl⟩
  | case5 c d rest surrogate noPair =>
      rw [units_cons, unitsOf_surrogate surrogate] at wellFormed
      rw [isSurrogate_iff] at surrogate
      rcases wellFormed.of_cons with ⟨plain, -⟩ | ⟨isHigh, low, later, first, isLow, -⟩
      · omega
      · have high : c.isHighSurrogate := by
          simp only [CodePoint.isHighSurrogate, Bool.and_eq_true, decide_eq_true_eq]
          omega
        exact absurd (by rw [high, isLowSurrogate_of_units first isLow]; rfl) noPair
  | case6 c d rest noSurrogate ih =>
      rw [units_cons] at wellFormed
      obtain ⟨joined, done⟩ := ih (wellFormed.of_append noSurrogate)
      exact ⟨c :: joined, by rw [joinPairs, if_neg noSurrogate, done]; rfl⟩

/-- So joining leaves no surrogate in such a text. -/
theorem no_surrogates_of_wellFormed {t : Text} (wellFormed : WellFormed (units t)) :
    ∀ c ∈ joinPairsOrKeep t, ¬c.isSurrogate := by
  obtain ⟨joined, done⟩ := exists_joinPairs_of_wellFormed wellFormed
  rw [joinPairsOrKeep, done]
  exact (joins_of_joinPairs done).no_surrogates

end Utf16

end NamespaceScan

import Mathlib.Algebra.Group.Nat.Defs
import NamespaceScan.Text.Utf8

/-!
# Decoded octets hold no surrogates

A sequence that has begun can only end in numbers on one side of the surrogates:
the range of its next octet is narrowed where both sides would be possible. This
is kept by every octet, so tolerant decoding never yields a surrogate.
-/

namespace NamespaceScan.Utf8

/-- The number of a code point that is no surrogate. -/
def IsScalar (n : Nat) : Prop :=
  n < 0xD800 ∨ 0xE000 ≤ n ∧ n < 0x110000

theorem not_isSurrogate_scalarOf {n : Nat} (scalar : IsScalar n) : ¬(scalarOf n).isSurrogate := by
  have val : (scalarOf n).val = n := by
    rcases scalar with below | ⟨_, above⟩
    · exact Nat.mod_eq_of_lt (by omega)
    · exact Nat.mod_eq_of_lt above
  simp only [CodePoint.isSurrogate, val, Bool.and_eq_true, decide_eq_true_eq]
  rcases scalar with below | ⟨above, _⟩ <;> omega

/-! ## Sequences that have begun -/

/-- How many numbers each choice of the next octet leaves open. -/
def Pending.span (p : Pending) : Nat := 64 ^ (p.missing - 1)

/-- The least number that the sequence can give. -/
def Pending.least (p : Pending) : Nat := (p.bits * 64 + (p.low.toNat - 0x80)) * p.span

/-- The number behind the greatest one that the sequence can give. -/
def Pending.bound (p : Pending) : Nat := (p.bits * 64 + (p.high.toNat - 0x80) + 1) * p.span

/-- All numbers that the sequence can give are on one side of the surrogates. -/
structure Pending.Sound (p : Pending) : Prop where
  begun : 1 ≤ p.missing
  continued : 0x80 ≤ p.low.toNat
  side : p.bound ≤ 0xD800 ∨ 0xE000 ≤ p.least ∧ p.bound ≤ 0x110000

theorem Pending.Sound.isScalar_of_last {p : Pending} (sound : p.Sound) (last : p.missing ≤ 1)
    {octet : UInt8} (low : p.low ≤ octet) (high : octet ≤ p.high) :
    IsScalar (p.bits * 64 + (octet.toNat - 0x80)) := by
  rw [UInt8.le_iff_toNat_le] at low high
  have missing : p.missing = 1 := by have := sound.begun; omega
  have side := sound.side
  simp only [bound, least, span, missing, Nat.sub_self, Nat.pow_zero, Nat.mul_one] at side
  have continued := sound.continued
  rcases side with below | ⟨above, inRange⟩
  · exact Or.inl (by omega)
  · exact Or.inr ⟨by omega, by omega⟩

/-- The sequence after an accepted octet that is not the last one. -/
def Pending.next (p : Pending) (octet : UInt8) : Pending :=
  ⟨p.missing - 1, 0x80, 0xBF, p.bits * 64 + (octet.toNat - 0x80), p.start, p.count + 1, p.first⟩

theorem Pending.span_eq {p : Pending} (more : 1 < p.missing) (octet : UInt8) :
    p.span = 64 * (p.next octet).span := by
  rw [span, span, next, Nat.mul_comm, ← Nat.pow_succ]
  congr 1
  dsimp only
  omega

theorem Pending.least_next {p : Pending} (more : 1 < p.missing) (octet : UInt8) :
    (p.next octet).least = (p.bits * 64 + (octet.toNat - 0x80)) * p.span := by
  rw [span_eq more octet, ← Nat.mul_assoc, least]
  simp [next]

theorem Pending.bound_next {p : Pending} (more : 1 < p.missing) (octet : UInt8) :
    (p.next octet).bound = (p.bits * 64 + (octet.toNat - 0x80) + 1) * p.span := by
  rw [span_eq more octet, ← Nat.mul_assoc, bound, Nat.add_mul _ 1 64]
  simp [next]

/-- The numbers that an accepted octet leaves open are among those open before. -/
theorem Pending.Sound.next {p : Pending} (sound : p.Sound) (more : 1 < p.missing)
    {octet : UInt8} (low : p.low ≤ octet) (high : octet ≤ p.high) : (p.next octet).Sound := by
  rw [UInt8.le_iff_toNat_le] at low high
  have leastLe : p.least ≤ (p.next octet).least := by
    rw [least_next more]
    exact Nat.mul_le_mul_right _ (by omega)
  have boundLe : (p.next octet).bound ≤ p.bound := by
    rw [bound_next more]
    exact Nat.mul_le_mul_right _ (by omega)
  refine ⟨?_, Nat.le_refl 0x80, ?_⟩
  · dsimp only [Pending.next]
    omega
  · rcases sound.side with below | ⟨above, inRange⟩
    · exact Or.inl (Nat.le_trans boundLe below)
    · exact Or.inr ⟨Nat.le_trans above leastLe, Nat.le_trans boundLe inRange⟩

/-! ## The reading -/

/-- No surrogate was read, and none can come from a sequence that has begun. -/
structure Reading.Sound (r : Reading) : Prop where
  pieces : ∀ c, Piece.scalar c ∈ r.pieces → ¬c.isSurrogate
  pending : ∀ p, r.pending = some p → p.Sound

theorem sound_fault {r : Reading} (sound : r.Sound) (position start count : Nat) (first : UInt8)
    (cause : Fault) :
    Reading.Sound ⟨position, none, .fault start count first cause :: r.pieces⟩ where
  pieces c member := by
    rcases List.mem_cons.mp member with isFault | old
    · cases isFault
    · exact sound.pieces c old
  pending p begun := by cases begun

theorem sound_scalar {r : Reading} (sound : r.Sound) {n : Nat} (scalar : IsScalar n) :
    Reading.Sound ⟨r.position + 1, none, .scalar (scalarOf n) :: r.pieces⟩ where
  pieces c member := by
    rcases List.mem_cons.mp member with isNew | old
    · cases isNew
      exact not_isSurrogate_scalarOf scalar
    · exact sound.pieces c old
  pending p begun := by cases begun

theorem sound_await {r : Reading} (sound : r.Sound) {p : Pending} (awaited : p.Sound) :
    Reading.Sound ⟨r.position + 1, some p, r.pieces⟩ where
  pieces := sound.pieces
  pending q begun := by
    cases begun
    exact awaited

theorem sound_open {r : Reading} (sound : r.Sound) {missing bits : Nat} {low high octet : UInt8}
    (begun : 1 ≤ missing) (continued : 0x80 ≤ low.toNat)
    (side : (bits * 64 + (high.toNat - 0x80) + 1) * 64 ^ (missing - 1) ≤ 0xD800 ∨
      0xE000 ≤ (bits * 64 + (low.toNat - 0x80)) * 64 ^ (missing - 1) ∧
        (bits * 64 + (high.toNat - 0x80) + 1) * 64 ^ (missing - 1) ≤ 0x110000) :
    Reading.Sound
      ⟨r.position + 1, some ⟨missing, low, high, bits, r.position, 1, octet⟩, r.pieces⟩ :=
  sound_await sound ⟨begun, continued, side⟩

/-- The first octet of a sequence fixes on which side of the surrogates it ends. -/
theorem sound_begin {r : Reading} (sound : r.Sound) (octet : UInt8) : (begin r octet).Sound := by
  simp only [begin]
  split
  · exact sound_scalar sound (Or.inl (by omega))
  split
  · exact sound_open sound (by decide) (by decide) (by simp; omega)
  split
  · exact sound_open sound (by decide) (by decide) (by decide)
  split
  · -- The next octet stays below 0xA0, so the sequence ends below the surrogates.
    exact sound_open sound (by decide) (by decide) (by decide)
  split
  · exact sound_open sound (by decide) (by decide) (by simp; omega)
  split
  · exact sound_open sound (by decide) (by decide) (by decide)
  split
  · exact sound_open sound (by decide) (by decide) (by decide)
  split
  · exact sound_open sound (by decide) (by decide) (by simp; omega)
  · exact sound_fault sound _ _ _ _ _

theorem sound_step {r : Reading} (sound : r.Sound) (octet : UInt8) : (r.step octet).Sound := by
  rw [Reading.step]
  split
  · exact sound_begin sound octet
  · rename_i p begun
    have awaited := sound.pending p begun
    split
    · rename_i accepted
      dsimp only
      split
      · rename_i last
        exact sound_scalar sound (awaited.isScalar_of_last last accepted.1 accepted.2)
      · rename_i more
        exact sound_await sound (awaited.next (Nat.lt_of_not_le more) accepted.1 accepted.2)
    · exact sound_begin (sound_fault sound _ _ _ _ _) octet

theorem sound_foldl (octets : List UInt8) {r : Reading} (sound : r.Sound) :
    (octets.foldl Reading.step r).Sound := by
  induction octets generalizing r with
  | nil => exact sound
  | cons octet rest ih => exact ih (sound_step sound octet)

/-! ## Whole octet strings -/

theorem foldlLoop_eq {β : Type} (step : β → UInt8 → β) (octets : ByteArray) (count position : Nat)
    (state : β) (inside : position + count = octets.size) :
    ByteArray.foldlM.loop (m := Id) (fun state octet => pure (step state octet)) octets
        octets.size (Nat.le_refl _) count position state =
      (octets.data.toList.drop position).foldl step state := by
  induction count generalizing position state with
  | zero =>
      rw [ByteArray.foldlM.loop, dif_neg (by omega), List.drop_of_length_le (by simp; omega)]
      rfl
  | succ count ih =>
      have here : position < octets.size := by omega
      rw [ByteArray.foldlM.loop, dif_pos here, List.drop_eq_getElem_cons (by simpa using here)]
      exact ih (position + 1) _ (by omega)

/-- Folding over octets is folding over their list. -/
theorem foldl_eq_foldl_toList {β : Type} (step : β → UInt8 → β) (state : β)
    (octets : ByteArray) : octets.foldl step state = octets.data.toList.foldl step state := by
  rw [ByteArray.foldl, ByteArray.foldlM, dif_pos (Nat.le_refl _)]
  exact foldlLoop_eq step octets octets.size 0 state (Nat.zero_add _)

theorem sound_start : Reading.Sound {} where
  pieces c member := by cases member
  pending p begun := by cases begun

/-- Tolerant decoding never yields a surrogate. -/
theorem not_isSurrogate_of_mem_decodeLossy {octets : ByteArray} {c : CodePoint}
    (member : c ∈ decodeLossy octets) : ¬c.isSurrogate := by
  have sound := sound_foldl octets.data.toList sound_start
  obtain ⟨piece, inPieces, rfl⟩ := List.mem_map.mp member
  rw [pieces, foldl_eq_foldl_toList] at inPieces
  cases piece with
  | fault => exact (by decide : ¬replacement.isSurrogate)
  | scalar c =>
      rw [Reading.finish] at inPieces
      split at inPieces
      · exact sound.pieces c (List.mem_reverse.mp inPieces)
      · exact (sound_fault sound 0 _ _ _ _).pieces c (List.mem_reverse.mp inPieces)

/-! ## Strict reading and writing -/

theorem map_eq_of_mapM_eq_ok {ε α β : Type} {f : α → Except ε β} {g : α → β}
    (agree : ∀ a b, f a = .ok b → g a = b) {members : List α} {values : List β}
    (done : members.mapM f = .ok values) : members.map g = values := by
  induction members generalizing values with
  | nil =>
      cases done
      rfl
  | cons a rest ih =>
      rw [List.mapM_cons] at done
      cases first : f a with
      | error error =>
          rw [first] at done
          cases done
      | ok b =>
          cases later : rest.mapM f with
          | error error =>
              rw [first, later] at done
              cases done
          | ok bs =>
              rw [first, later] at done
              cases done
              rw [List.map_cons, agree a b first, ih later]

/-- Where strict decoding succeeds, tolerant decoding gives the same text. -/
theorem decodeLossy_of_decode {octets : ByteArray} {t : Text} (decoded : decode octets = .ok t) :
    decodeLossy octets = t := by
  refine map_eq_of_mapM_eq_ok ?_ decoded
  intro piece c read
  cases piece with
  | scalar other =>
      cases read
      rfl
  | fault start count first cause => cases read

theorem not_isSurrogate_of_decode {octets : ByteArray} {t : Text} {c : CodePoint}
    (decoded : decode octets = .ok t) (member : c ∈ t) : ¬c.isSurrogate :=
  not_isSurrogate_of_mem_decodeLossy (decodeLossy_of_decode decoded ▸ member)

theorem firstSurrogates_eq_none_iff {t : Text} {position : Nat} :
    firstSurrogates position t = none ↔ ∀ c ∈ t, ¬c.isSurrogate := by
  induction t generalizing position with
  | nil => simp [firstSurrogates]
  | cons c rest ih =>
      by_cases surrogate : c.isSurrogate = true
      · simp [firstSurrogates, surrogate]
      · simp [firstSurrogates, surrogate, ih]

/-- Strict encoding succeeds for texts without surrogates. -/
theorem encode_of_no_surrogates {t : Text} (free : ∀ c ∈ t, ¬c.isSurrogate) :
    encode t = .ok (octets t) := by
  rw [encode, firstSurrogates_eq_none_iff.mpr free]

end NamespaceScan.Utf8

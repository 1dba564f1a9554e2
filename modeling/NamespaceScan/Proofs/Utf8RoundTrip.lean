import NamespaceScan.Proofs.Utf8

/-!
# Octets that are read back

The octets of a text without surrogates are well formed, and reading them gives the text. The
first octet of a code point fixes how many follow and where the next one may lie; the narrowed
ranges leave out exactly the numbers that have shorter forms, and the surrogates.
-/

namespace NamespaceScan.Utf8

variable {r : Reading} {p : Pending} {n : Nat}

theorem toNat_octet (small : n < 256) : (octet n).toNat = n := by
  rw [octet, UInt8.toNat_ofNat']
  exact Nat.mod_eq_of_lt small

theorem scalarOf_val (c : CodePoint) : scalarOf c.val = c :=
  Fin.ext (Nat.mod_eq_of_lt c.isLt)

/-! ## One octet -/

theorem step_of_idle (idle : r.pending = none) (o : UInt8) : r.step o = begin r o := by
  rw [Reading.step, idle]

theorem step_last {o : UInt8} (begun : r.pending = some p) (last : p.missing = 1)
    (low : p.low.toNat ≤ o.toNat) (high : o.toNat ≤ p.high.toNat) :
    r.step o =
      ⟨r.position + 1, none, .scalar (scalarOf (p.bits * 64 + (o.toNat - 0x80))) :: r.pieces⟩ := by
  rw [Reading.step, begun]
  dsimp only
  rw [if_pos ⟨UInt8.le_iff_toNat_le.mpr low, UInt8.le_iff_toNat_le.mpr high⟩, if_pos (by omega)]

theorem step_more {o : UInt8} (begun : r.pending = some p) (more : 1 < p.missing)
    (low : p.low.toNat ≤ o.toNat) (high : o.toNat ≤ p.high.toNat) :
    r.step o = ⟨r.position + 1, some (p.next o), r.pieces⟩ := by
  rw [Reading.step, begun]
  dsimp only
  rw [if_pos ⟨UInt8.le_iff_toNat_le.mpr low, UInt8.le_iff_toNat_le.mpr high⟩, if_neg (by omega)]
  rfl

/-! ## One code point -/

/-- The octets behind the first one, for the lower bits of a number. -/
def trail (n : Nat) : Nat → List UInt8
  | 0 => []
  | k + 1 => octet (0x80 + n / 64 ^ k % 64) :: trail n k

/-- The sequence has the bits of the number except for the lowest ones, which some more octets
have, and the first of these octets is in the range that it leaves open. -/
structure Pending.Awaits (p : Pending) (n k : Nat) : Prop where
  missing : p.missing = k + 1
  bits : p.bits = n / 64 ^ (k + 1)
  low : p.low.toNat ≤ 0x80 + n / 64 ^ k % 64
  high : 0x80 + n / 64 ^ k % 64 ≤ p.high.toNat

theorem bits_of_octet (n k : Nat) :
    n / 64 ^ (k + 1) * 64 + ((octet (0x80 + n / 64 ^ k % 64)).toNat - 0x80) = n / 64 ^ k := by
  rw [toNat_octet (by omega), Nat.pow_succ, ← Nat.div_div_eq_div_mul]
  omega

theorem Pending.Awaits.next {k : Nat} (awaits : p.Awaits n (k + 1)) :
    (p.next (octet (0x80 + n / 64 ^ (k + 1) % 64))).Awaits n k where
  missing := by
    rw [Pending.next, awaits.missing]
    rfl
  bits := by
    rw [Pending.next, awaits.bits]
    exact bits_of_octet n (k + 1)
  low := Nat.le_add_right _ _
  high := by
    change 0x80 + n / 64 ^ k % 64 ≤ 0xBF
    omega

theorem Pending.Awaits.accepts {k : Nat} (awaits : p.Awaits n k) :
    p.low.toNat ≤ (octet (0x80 + n / 64 ^ k % 64)).toNat ∧
      (octet (0x80 + n / 64 ^ k % 64)).toNat ≤ p.high.toNat := by
  rw [toNat_octet (by omega)]
  exact ⟨awaits.low, awaits.high⟩

/-- The octets that a sequence awaits end it. -/
theorem foldl_trail {k : Nat} (begun : r.pending = some p) (awaits : p.Awaits n k) :
    (trail n (k + 1)).foldl Reading.step r =
      ⟨r.position + (k + 1), none, .scalar (scalarOf n) :: r.pieces⟩ := by
  obtain ⟨low, high⟩ := awaits.accepts
  induction k generalizing r p with
  | zero =>
      rw [trail, List.foldl_cons, step_last begun awaits.missing low high, awaits.bits,
        bits_of_octet, Nat.pow_zero, Nat.div_one]
      rfl
  | succ k ih =>
      have more : 1 < p.missing := by
        rw [awaits.missing]
        omega
      obtain ⟨nextLow, nextHigh⟩ := awaits.next.accepts
      rw [trail, List.foldl_cons, step_more begun more low high,
        ih rfl awaits.next nextLow nextHigh]
      dsimp only
      rw [Nat.add_assoc, Nat.add_comm 1]

/-- The reading after the first octet of a sequence. -/
def Reading.opened (r : Reading) (p : Pending) : Reading := ⟨r.position + 1, some p, r.pieces⟩

theorem awaits_of_range {k bits start count : Nat} {low high first : UInt8} (least greatest : Nat)
    (isLeast : low.toNat = least) (isGreatest : high.toNat = greatest)
    (sameBits : bits = n / 64 ^ (k + 1)) (fromLow : least ≤ 0x80 + n / 64 ^ k % 64)
    (toHigh : 0x80 + n / 64 ^ k % 64 ≤ greatest) :
    Pending.Awaits ⟨k + 1, low, high, bits, start, count, first⟩ n k :=
  ⟨rfl, sameBits, isLeast ▸ fromLow, isGreatest ▸ toHigh⟩

theorem begin_two (low : 0x80 ≤ n) (high : n < 0x800) :
    ∃ p, begin r (octet (0xC0 + n / 64)) = r.opened p ∧ p.Awaits n 0 := by
  have lead : (octet (0xC0 + n / 64)).toNat = 0xC0 + n / 64 := toNat_octet (by omega)
  simp only [begin, lead]
  rw [if_neg (by omega), if_pos (by omega)]
  exact ⟨_, rfl, awaits_of_range 0x80 0xBF rfl rfl (by omega) (by omega) (by omega)⟩

/-- Shorter forms and surrogates are left out by the ranges behind two of the first octets. -/
theorem begin_three (low : 0x800 ≤ n) (high : n < 0x10000)
    (notSurrogate : n < 0xD800 ∨ 0xDFFF < n) :
    ∃ p, begin r (octet (0xE0 + n / 4096)) = r.opened p ∧ p.Awaits n 1 := by
  have lead : (octet (0xE0 + n / 4096)).toNat = 0xE0 + n / 4096 := toNat_octet (by omega)
  simp only [begin, lead]
  rw [if_neg (by omega), if_neg (by omega)]
  split
  · exact ⟨_, rfl, awaits_of_range 0xA0 0xBF rfl rfl (by omega) (by omega) (by omega)⟩
  split
  · exact ⟨_, rfl, awaits_of_range 0x80 0x9F rfl rfl (by omega) (by omega) (by omega)⟩
  · rw [if_pos (by omega)]
    exact ⟨_, rfl, awaits_of_range 0x80 0xBF rfl rfl (by omega) (by omega) (by omega)⟩

theorem begin_four (low : 0x10000 ≤ n) (high : n < 0x110000) :
    ∃ p, begin r (octet (0xF0 + n / 262144)) = r.opened p ∧ p.Awaits n 2 := by
  have lead : (octet (0xF0 + n / 262144)).toNat = 0xF0 + n / 262144 := toNat_octet (by omega)
  simp only [begin, lead]
  rw [if_neg (by omega), if_neg (by omega), if_neg (by omega), if_neg (by omega),
    if_neg (by omega)]
  split
  · exact ⟨_, rfl, awaits_of_range 0x90 0xBF rfl rfl (by omega) (by omega) (by omega)⟩
  split
  · exact ⟨_, rfl, awaits_of_range 0x80 0x8F rfl rfl (by omega) (by omega) (by omega)⟩
  · rw [if_pos (by omega)]
    exact ⟨_, rfl, awaits_of_range 0x80 0xBF rfl rfl (by omega) (by omega) (by omega)⟩

theorem foldl_lead {first : UInt8} {k : Nat} (idle : r.pending = none)
    (begins : ∃ p, begin r first = r.opened p ∧ p.Awaits n k) :
    (first :: trail n (k + 1)).foldl Reading.step r =
      ⟨r.position + (k + 2), none, .scalar (scalarOf n) :: r.pieces⟩ := by
  obtain ⟨p, opened, awaits⟩ := begins
  rw [List.foldl_cons, step_of_idle idle, opened, foldl_trail rfl awaits]
  simp only [Reading.opened, Nat.add_assoc, Nat.add_comm 1]

theorem encodeOne_eq (c : CodePoint) :
    encodeOne c =
      if c.val < 0x80 then [octet c.val]
      else if c.val < 0x800 then octet (0xC0 + c.val / 64) :: trail c.val 1
      else if c.val < 0x10000 then octet (0xE0 + c.val / 4096) :: trail c.val 2
      else octet (0xF0 + c.val / 262144) :: trail c.val 3 := by
  simp [encodeOne, trail]

/-- The octets of a code point are read as the code point. -/
theorem foldl_encodeOne {c : CodePoint} (free : ¬ c.isSurrogate) (idle : r.pending = none) :
    ∃ position, (encodeOne c).foldl Reading.step r = ⟨position, none, .scalar c :: r.pieces⟩ := by
  have inRange : c.val < 0x110000 := c.isLt
  have notSurrogate : c.val < 0xD800 ∨ 0xDFFF < c.val := by
    simp only [CodePoint.isSurrogate, Bool.and_eq_true, decide_eq_true_eq, not_and] at free
    omega
  have value : Piece.scalar c = .scalar (scalarOf c.val) := by rw [scalarOf_val]
  rw [encodeOne_eq, value]
  split
  · rename_i small
    have lead : (octet c.val).toNat = c.val := toNat_octet (by omega)
    refine ⟨r.position + 1, ?_⟩
    rw [List.foldl_cons, List.foldl_nil, step_of_idle idle]
    simp only [begin, lead]
    rw [if_pos small]
  split
  · exact ⟨_, foldl_lead idle (begin_two (by omega) (by omega))⟩
  split
  · exact ⟨_, foldl_lead idle (begin_three (by omega) (by omega) notSurrogate)⟩
  · exact ⟨_, foldl_lead idle (begin_four (by omega) inRange)⟩

theorem toList_foldl_push (added : List UInt8) (out : ByteArray) :
    (added.foldl ByteArray.push out).data.toList = out.data.toList ++ added := by
  induction added generalizing out with
  | nil => exact (List.append_nil _).symm
  | cons o rest ih =>
      rw [List.foldl_cons, ih, ByteArray.data_push, Array.toList_push, List.append_assoc,
        List.singleton_append]

theorem toList_octets (t : Text) : (octets t).data.toList = t.flatMap encodeOne := by
  have onward : ∀ (out : ByteArray),
      (t.foldl (fun out c => (encodeOne c).foldl ByteArray.push out) out).data.toList =
        out.data.toList ++ t.flatMap encodeOne := by
    induction t with
    | nil => exact fun out => (List.append_nil _).symm
    | cons c rest ih =>
        intro out
        rw [List.foldl_cons, ih, toList_foldl_push, List.flatMap_cons, List.append_assoc]
  exact onward ByteArray.empty

/-! ## Whole texts -/

theorem foldl_flatMap_encodeOne {t : Text} (free : ∀ c ∈ t, ¬ c.isSurrogate)
    (idle : r.pending = none) :
    ∃ position, (t.flatMap encodeOne).foldl Reading.step r =
      ⟨position, none, (t.map Piece.scalar).reverse ++ r.pieces⟩ := by
  induction t generalizing r with
  | nil =>
      obtain ⟨position, pending, pieces⟩ := r
      cases idle
      exact ⟨position, rfl⟩
  | cons c rest ih =>
      obtain ⟨first, others⟩ := List.forall_mem_cons.mp free
      obtain ⟨middle, read⟩ := foldl_encodeOne first idle
      obtain ⟨position, later⟩ := ih others (r := ⟨middle, none, .scalar c :: r.pieces⟩) rfl
      refine ⟨position, ?_⟩
      rw [List.flatMap_cons, List.foldl_append, read, later]
      simp

theorem pieces_octets {t : Text} (free : ∀ c ∈ t, ¬ c.isSurrogate) :
    pieces (octets t) = t.map Piece.scalar := by
  obtain ⟨position, read⟩ := foldl_flatMap_encodeOne (r := {}) free rfl
  rw [pieces, foldl_eq_foldl_toList, toList_octets, read]
  simp [Reading.finish]

/-- A text without surrogates is read back from its octets. -/
theorem decode_octets {t : Text} (free : ∀ c ∈ t, ¬ c.isSurrogate) :
    decode (octets t) = .ok t := by
  rw [decode, pieces_octets free]
  clear free
  induction t with
  | nil => rfl
  | cons c rest ih =>
      rw [List.map_cons, List.mapM_cons, ih]
      rfl

/-- Octets that a text was written as are read as the text. -/
theorem decode_of_encode {t : Text} {data : ByteArray} (encoded : encode t = .ok data) :
    decode data = .ok t := by
  unfold encode at encoded
  split at encoded
  · cases encoded
  · rename_i none
    cases encoded
    exact decode_octets (firstSurrogates_eq_none_iff.mp none)

end NamespaceScan.Utf8

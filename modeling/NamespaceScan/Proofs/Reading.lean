import NamespaceScan.Files.Reading
import NamespaceScan.Proofs.Utf8

/-!
# What reading a file can come to

A source is read as UTF-8. So it has no surrogates, and its text can always be handed on as
octets. A reading that does not succeed is a failure about the file, or a fault of the host
that cannot look the file up.
-/

namespace NamespaceScan

theorem Text.of_mem_unifyLines {t : Text} {c : CodePoint} (member : c ∈ unifyLines t) :
    c ∈ t ∨ c = 0x0A := by
  fun_induction unifyLines t with
  | case1 => cases member
  | case2 rest ih =>
      rcases List.mem_cons.mp member with rfl | later
      · exact Or.inr rfl
      · rcases ih later with inside | isFeed
        · exact Or.inl (List.mem_cons_of_mem _ (List.mem_cons_of_mem _ inside))
        · exact Or.inr isFeed
  | case3 first rest notPair ih =>
      rcases List.mem_cons.mp member with rfl | later
      · split
        · exact Or.inr rfl
        · exact Or.inl List.mem_cons_self
      · rcases ih later with inside | isFeed
        · exact Or.inl (List.mem_cons_of_mem _ inside)
        · exact Or.inr isFeed

namespace Encoding

variable {octets : ByteArray}

theorem decode_utf8_of_ok {text : Text} (decoded : Utf8.decode octets = .ok text) :
    decode octets .utf8 = .ok text := by
  rw [decode, decoded]
  rfl

theorem decode_utf8_of_error {error : Utf8.DecodeError}
    (undecoded : Utf8.decode octets = .error error) :
    decode octets .utf8 = .error (.octets error.message) := by
  rw [decode, undecoded]
  rfl

end Encoding

namespace Host

variable {host : Host} {p : Path}

theorem look_eq_error_iff {fault : Fault} :
    host.look p = .error fault ↔
      host.find p.toText = .error .nameTooLong ∧
        fault = .refused ⟨.nameTooLong, p.toText, none⟩ := by
  unfold look
  split
  · rename_i found
    simp [found]
  · rename_i long
    simp [long, eq_comm]
  · rename_i obstacle other found
    simp only [reduceCtorEq, found, Except.error.injEq, false_iff, not_and]
    exact fun long => absurd long other

theorem look_of_find {spot : Spot} (found : host.find p.toText = .ok spot) :
    host.look p = .ok (some spot) := by
  rw [look, found]

/-- A source that is read has the text of its octets, with its lines unified. -/
theorem readSource_of_find {octets : ByteArray} {l location : Location} {text : Text}
    {spot : Option Spot} (found : host.find p.toText = .ok ⟨l, .file octets⟩)
    (resolved : host.resolve p = .ok location)
    (seen : host.look (Path.ofLocation location) = .ok spot)
    (fits : (octets.size : Int) ≤ sizeLimit) (decoded : Utf8.decode octets = .ok text) :
    host.readSource p = .ok text.unifyLines := by
  have small : ¬ ((some sizeLimit).any fun most => decide (most < (octets.size : Int))) = true := by
    simpa using fits
  simp only [readSource, read, look_of_find found, resolved, seen, if_neg small,
    Encoding.decode_utf8_of_ok decoded]

/-- All that a reading can come to: a fault of the host, a failure about the file, or the
text of its octets with unified lines. -/
theorem readSource_cases (host : Host) (p : Path) :
    (∃ fault, host.readSource p = .error (.fault fault) ∧
        (host.look p = .error fault ∨ host.resolve p = .error fault ∨
          ∃ location, host.resolve p = .ok location ∧
            host.look (Path.ofLocation location) = .error fault)) ∨
      (∃ message path cause, host.readSource p = .error (unread message path cause)) ∨
      ∃ octets text, Utf8.decode octets = .ok text ∧ host.readSource p = .ok text.unifyLines := by
  cases seen : host.look p with
  | error fault => exact Or.inl ⟨fault, by simp only [readSource, read, seen], Or.inl rfl⟩
  | ok spot =>
      cases spot with
      | none => exact Or.inr (Or.inl ⟨_, _, _, by simp only [readSource, read, seen]; rfl⟩)
      | some spot =>
          obtain ⟨l, entry⟩ := spot
          cases entry with
          | directory members =>
              exact Or.inr (Or.inl ⟨_, _, _, by simp only [readSource, read, seen]; rfl⟩)
          | link target =>
              exact Or.inr (Or.inl ⟨_, _, _, by simp only [readSource, read, seen]; rfl⟩)
          | file octets =>
              cases resolved : host.resolve p with
              | error fault =>
                  exact Or.inl ⟨fault, by simp only [readSource, read, seen, resolved],
                    Or.inr (Or.inl rfl)⟩
              | ok location =>
                  cases again : host.look (Path.ofLocation location) with
                  | error fault =>
                      exact Or.inl ⟨fault, by simp only [readSource, read, seen, resolved, again],
                        Or.inr (Or.inr ⟨location, rfl, again⟩)⟩
                  | ok other =>
                      right
                      simp only [readSource, read, seen, resolved, again]
                      split
                      · exact Or.inl ⟨_, _, _, rfl⟩
                      · -- Octets that are no UTF-8 are reported; this encoding has no faults.
                        cases decoded : Utf8.decode octets with
                        | error error =>
                            simp only [Encoding.decode_utf8_of_error decoded]
                            exact Or.inl ⟨_, _, _, rfl⟩
                        | ok text =>
                            simp only [Encoding.decode_utf8_of_ok decoded]
                            exact Or.inr ⟨octets, text, decoded, rfl⟩

/-- The text of a source can be encoded again. -/
theorem encode_of_readSource {text : Text} (read : host.readSource p = .ok text) :
    Utf8.encode text = .ok (Utf8.octets text) := by
  apply Utf8.encode_of_no_surrogates
  rcases readSource_cases host p with
    ⟨fault, raised, -⟩ | ⟨message, path, cause, raised⟩ | ⟨octets, decodedText, decoded, unified⟩
  · cases read.symm.trans raised
  · cases read.symm.trans raised
  · cases read.symm.trans unified
    intro c member
    rcases Text.of_mem_unifyLines member with inside | rfl
    · exact Utf8.not_isSurrogate_of_decode decoded inside
    · decide

end Host

end NamespaceScan

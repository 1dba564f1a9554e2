import NamespaceScan.Dependencies
import NamespaceScan.Proofs.Conversion
import NamespaceScan.Proofs.Literal
import NamespaceScan.Proofs.OrderedSet
import NamespaceScan.Proofs.Utf8

/-!
# Namespaces come back from their literals

The value of a string literal in a converted tree is spelt by decoded octets, which
hold no surrogates. Such a value is settled, so it comes back when it is quoted and
decoded again, and a list of such values can be read literal by literal.

Not every text has this property: a surrogate pair that stands beside a quote is
joined when the quoted text is decoded.
-/

namespace NamespaceScan

/-- The value of a string literal in the syntax tree of some concrete tree. -/
def IsLiteralValue (v : Text) : Prop :=
  ∃ (data : ByteArray) (root : Concrete) (n : Node),
    (root.convert data).Contains n ∧ n.kind = .string ∧ n.value = some v

theorem isLiteralValue_decode (data : ByteArray) {literal : Concrete}
    (isString : literal.type = "string") : IsLiteralValue (Literal.decode (literal.text data)) := by
  obtain ⟨kindEq, valueEq⟩ := Concrete.head_string_iff.mpr ⟨isString, rfl⟩
  refine ⟨data, literal, literal.reduce data, ?_, ?_, ?_⟩
  · rw [Concrete.convert_eq_reduce]
    exact Node.contains_self _
  · rw [Concrete.kind_reduce, kindEq]
  · rw [Concrete.value_reduce, valueEq]

theorem IsLiteralValue.settled {v : Text} (isValue : IsLiteralValue v) : Utf16.Settled v := by
  obtain ⟨data, root, n, contained, isString, valued⟩ := isValue
  rw [Concrete.convert_eq_reduce] at contained
  obtain ⟨literal, -, rfl⟩ := Concrete.contains_reduce_iff.mp contained
  rw [Concrete.kind_reduce] at isString
  rw [Concrete.value_reduce] at valued
  obtain ⟨-, rfl⟩ := Concrete.head_string_iff.mp ⟨isString, valued⟩
  exact Literal.settled_decode fun c member => Utf8.not_isSurrogate_of_mem_decodeLossy member

/-- Every value that the conversion gives to a string literal comes back from its
quoted form. Reading the list of a set of such values from left to right gives
literals whose values are the members of the set in increasing order. -/
theorem decode_quote_of_isLiteralValue :
    (∀ v, IsLiteralValue v → Literal.decode (Literal.quote v) = v) ∧
      ∀ values : List Text, (∀ v ∈ values, IsLiteralValue v) →
        ∃ literals,
          Literal.readAll? (Dependencies.literals (OrderedSet.ofList values)) = some literals ∧
            (literals.map Literal.decode).Pairwise (· < ·) ∧
            ∀ v, v ∈ literals.map Literal.decode ↔ v ∈ values := by
  constructor
  · intro v isValue
    exact Literal.decode_quote isValue.settled
  · intro values areValues
    let names : Names := OrderedSet.ofList values
    have decoded : (names.toList.map Literal.quote).map Literal.decode = names.toList := by
      calc
        (names.toList.map Literal.quote).map Literal.decode = names.toList.map id := by
          rw [List.map_map]
          apply List.map_congr_left
          intro v member
          exact Literal.decode_quote (areValues v (OrderedSet.mem_ofList_iff.mp member)).settled
        _ = names.toList := List.map_id names.toList
    refine ⟨names.toList.map Literal.quote, Literal.readAll?_joinWith names.toList, ?_, ?_⟩
    · rw [decoded]
      exact names.increasing
    · intro v
      rw [decoded]
      exact OrderedSet.mem_ofList_iff

/-- A literal that spells a lone surrogate, a quote and a line feed. -/
def loneSurrogateSource : ByteArray := "'\\ud83d\\'\\n'".toUTF8

theorem isLiteralValue_loneSurrogate : IsLiteralValue [0xD83D, 0x27, 0x0A] := by
  let literal : Concrete := { type := "string", stop := 12 }
  have value : Literal.decode (literal.text loneSurrogateSource) = [0xD83D, 0x27, 0x0A] := by
    decide +kernel
  rw [← value]
  exact isLiteralValue_decode _ rfl

theorem decode_quote_loneSurrogate :
    IsLiteralValue [0xD83D, 0x27, 0x0A] ∧
      Literal.decode (Literal.quote [0xD83D, 0x27, 0x0A]) = [0xD83D, 0x27, 0x0A] ∧
      ∃ literals,
        Literal.readAll? (Dependencies.literals (OrderedSet.ofList [[0xD83D, 0x27, 0x0A]])) =
            some literals ∧
          [0xD83D, 0x27, 0x0A] ∈ literals.map Literal.decode := by
  refine ⟨isLiteralValue_loneSurrogate,
    decode_quote_of_isLiteralValue.1 _ isLiteralValue_loneSurrogate, ?_⟩
  obtain ⟨literals, read, -, members⟩ := decode_quote_of_isLiteralValue.2
    [[0xD83D, 0x27, 0x0A]] (by simpa using isLiteralValue_loneSurrogate)
  exact ⟨literals, read, (members _).mpr List.mem_cons_self⟩

end NamespaceScan

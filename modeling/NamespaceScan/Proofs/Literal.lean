import NamespaceScan.Proofs.Text
import NamespaceScan.Proofs.Utf16
import NamespaceScan.Tree.Literal

/-!
# Quoted literals and their values

Unescaping undoes escaping for every text. Decoding a literal joins surrogate pairs
as well, so a value comes back from its literal only when there is nothing left to
join in it. The values of literals without surrogates in their spelling are of this
kind.

`Literal.readAll?` reads literals from left to right. It finds in a list of quoted
values exactly the literals that were written.
-/

namespace NamespaceScan

/-! ## Escaping -/

namespace Literal

/-- A code point is escaped as a backslash and a code point that stands for it there,
or it is kept as it is. -/
theorem escaped_cons (c : CodePoint) (rest : Text) :
    (∃ d, (∀ later, escape (d :: later) = ⟨[c], 1⟩) ∧
        escaped (c :: rest) = backslash :: d :: escaped rest) ∨
      c ≠ backslash ∧ c ≠ singleQuote ∧ escaped (c :: rest) = c :: escaped rest := by
  by_cases isBackslash : c = backslash
  · subst isBackslash
    exact Or.inl ⟨backslash, fun _ => rfl, rfl⟩
  by_cases isQuote : c = singleQuote
  · subst isQuote
    exact Or.inl ⟨singleQuote, fun _ => rfl, rfl⟩
  by_cases isLineFeed : c = lineFeed
  · subst isLineFeed
    exact Or.inl ⟨0x6E, fun _ => rfl, rfl⟩
  · refine Or.inr ⟨isBackslash, isQuote, ?_⟩
    simp [escaped, isBackslash, isQuote, isLineFeed]

/-- Escaping in one pass is escaping in three: the backslashes first, so that those
written for the quotes and the line feeds are not doubled. -/
theorem escaped_eq_substitute (value : Text) :
    escaped value =
      Text.substitute lineFeed [backslash, 0x6E]
        (Text.substitute singleQuote [backslash, singleQuote]
          (Text.substitute backslash [backslash, backslash] value)) := by
  induction value with
  | nil => rfl
  | cons c rest ih =>
      simp only [escaped, Text.substitute, List.flatMap_cons, List.flatMap_append] at ih ⊢
      rw [ih]
      by_cases isBackslash : c = backslash
      · subst isBackslash
        rfl
      by_cases isQuote : c = singleQuote
      · subst isQuote
        rfl
      by_cases isLineFeed : c = lineFeed
      · subst isLineFeed
        rfl
      · simp [isBackslash, isQuote, isLineFeed]

/-- Unescaping undoes escaping. -/
theorem unescape_escaped (value : Text) : unescape (escaped value) = value := by
  induction value with
  | nil => simp [escaped, unescape]
  | cons c rest ih =>
      rcases escaped_cons c rest with ⟨d, standsFor, spelt⟩ | ⟨noBackslash, -, spelt⟩
      · rw [spelt, unescape, if_pos rfl, standsFor]
        simp [ih]
      · rw [spelt, unescape, if_neg noBackslash, ih]

theorem escaped_injective {left right : Text} (equal : escaped left = escaped right) :
    left = right := by
  rw [← unescape_escaped left, equal, unescape_escaped]

theorem unescape_of_no_backslash {t : Text} (plain : backslash ∉ t) : unescape t = t := by
  induction t with
  | nil => simp [unescape]
  | cons c rest ih =>
      rw [List.mem_cons, not_or] at plain
      rw [unescape, if_neg (Ne.symm plain.1), ih plain.2]

theorem body_quote (value : Text) : body (quote value) = escaped value := by
  simp [body, quote]

/-- A value that is settled comes back from its literal. -/
theorem decode_quote {value : Text} (settled : Utf16.Settled value) :
    decode (quote value) = value := by
  rw [decode, body_quote]
  split
  · rw [unescape_escaped]
    exact settled
  · rename_i plain
    rw [← unescape_of_no_backslash plain, unescape_escaped]

-- A surrogate pair beside a quote is not settled: it does not come back.
example : decode (quote [0xD83D, 0xDE00, 0x27]) = [0x1F600, 0x27] := by decide +kernel

/-- The value of a literal is settled when its spelling has no surrogates. -/
theorem settled_decode {raw : Text} (plain : ∀ c ∈ raw, ¬c.isSurrogate) :
    Utf16.Settled (decode raw) := by
  rw [decode]
  split
  · exact Utf16.settled_joinPairsOrKeep _
  · apply Utf16.settled_of_no_surrogates
    intro c member
    exact plain c (List.mem_of_mem_drop (List.dropLast_subset _ member))

/-! ## Reading literals -/

/-- Split a text inside of a literal behind the quote that closes the literal. A
backslash guards the code point after it, unless it is guarded itself. -/
def closing? : Bool → Text → Option (Text × Text)
  | _, [] => none
  | guarded, c :: rest =>
      if c = singleQuote ∧ guarded = false then some ([c], rest)
      else
        (closing? (!guarded && c = backslash) rest).map fun (literal, left) => (c :: literal, left)

/-- Split a text that begins with a quote behind its first literal. -/
def readOne? : Text → Option (Text × Text)
  | [] => none
  | c :: rest =>
      if c = singleQuote then
        (closing? false rest).map fun (literal, left) => (c :: literal, left)
      else none

theorem length_lt_of_closing? {guarded : Bool} {t literal left : Text}
    (read : closing? guarded t = some (literal, left)) : left.length < t.length := by
  induction t generalizing guarded literal with
  | nil => cases read
  | cons c rest ih =>
      rw [closing?] at read
      split at read
      · cases read
        exact Nat.lt_succ_self _
      · obtain ⟨⟨inner, left'⟩, readInner, pair⟩ := Option.map_eq_some_iff.mp read
        cases pair
        exact Nat.lt_succ_of_lt (ih readInner)

theorem length_lt_of_readOne? {t literal left : Text} (read : readOne? t = some (literal, left)) :
    left.length < t.length := by
  cases t with
  | nil => cases read
  | cons c rest =>
      rw [readOne?] at read
      split at read
      · obtain ⟨⟨inner, left'⟩, readInner, pair⟩ := Option.map_eq_some_iff.mp read
        cases pair
        exact Nat.lt_succ_of_lt (length_lt_of_closing? readInner)
      · cases read

/-- Read one literal or more, with a comma and a blank between neighbours. -/
def readSome? (t : Text) : Option (List Text) :=
  match _read : readOne? t with
  | none => none
  | some (literal, []) => some [literal]
  | some (literal, c :: d :: rest) =>
      if c = 0x2C ∧ d = 0x20 then (readSome? rest).map (literal :: ·) else none
  | some (_, [_]) => none
termination_by t.length
decreasing_by
  have shorter := length_lt_of_readOne? _read
  simp only [List.length_cons] at shorter
  omega

/-- Read a whole text as a list of literals. -/
def readAll? (t : Text) : Option (List Text) :=
  if t = [] then some [] else readSome? t

/-- The quote that closes an escaped value is the one that was written behind it. -/
theorem closing?_escaped (value rest : Text) :
    closing? false (escaped value ++ singleQuote :: rest) =
      some (escaped value ++ [singleQuote], rest) := by
  induction value with
  | nil => simp [escaped, closing?]
  | cons c later ih =>
      rcases escaped_cons c later with ⟨d, -, spelt⟩ | ⟨noBackslash, noQuote, spelt⟩
      · have notQuote : backslash ≠ singleQuote := by decide
        simp [spelt, closing?, notQuote, ih]
      · simp [spelt, closing?, noBackslash, noQuote, ih]

theorem readOne?_quote (value rest : Text) :
    readOne? (quote value ++ rest) = some (quote value, rest) := by
  simp [quote, readOne?, closing?_escaped]

theorem readSome?_last {t literal : Text} (read : readOne? t = some (literal, [])) :
    readSome? t = some [literal] := by
  rw [readSome?]
  split <;> simp_all

theorem readSome?_more {t literal rest : Text}
    (read : readOne? t = some (literal, 0x2C :: 0x20 :: rest)) :
    readSome? t = (readSome? rest).map (literal :: ·) := by
  rw [readSome?]
  split <;> simp_all

theorem readSome?_quotes (value : Text) (values : List Text) :
    readSome? (quote value ++ (values.map quote).flatMap ([0x2C, 0x20] ++ ·)) =
      some (quote value :: values.map quote) := by
  induction values generalizing value with
  | nil => exact readSome?_last (readOne?_quote value [])
  | cons next rest ih =>
      rw [List.map_cons, List.flatMap_cons, List.append_assoc]
      exact (readSome?_more (readOne?_quote value _)).trans
        (congrArg (Option.map (quote value :: ·)) (ih next))

/-- Reading a list of quoted values finds the literals that were written. -/
theorem readAll?_joinWith (values : List Text) :
    readAll? (Text.joinWith ", " (values.map quote)) = some (values.map quote) := by
  cases values with
  | nil => rfl
  | cons value values =>
      rw [List.map_cons, Text.joinWith_cons, readAll?, if_neg (by simp [quote])]
      exact readSome?_quotes value values

end Literal

end NamespaceScan

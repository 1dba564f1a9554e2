import NamespaceScan.Text.Basic

/-!
# Codes for terminals

A code tells a terminal how to show what follows it: an escape character and a
bracket, then parameters, then a letter. Where no terminal reads a text, its
codes are left out.
-/

namespace NamespaceScan.Console

/-- The character that begins a code. -/
def escapeCharacter : CodePoint := 0x1B

/-- What may stand between the bracket and the letter of a code. -/
def isParameter (c : CodePoint) : Bool := c.isDigit || c = 0x3B || c = 0x3F

/-- What is left of a text behind the code that it begins with. -/
def afterCode? : Text → Option Text
  | first :: second :: rest =>
    if first = escapeCharacter ∧ second = 0x5B then
      match rest.dropWhile isParameter with
      | letter :: later => if letter.isLatinLetter then some later else none
      | [] => none
    else none
  | _ => none

/-- A text that begins with a code is that code and what is left behind it. -/
theorem eq_append_of_afterCode? {t later : Text} (behind : afterCode? t = some later) :
    ∃ (parameters : Text) (letter : CodePoint),
      t = escapeCharacter :: 0x5B :: parameters ++ letter :: later ∧
        (∀ c ∈ parameters, isParameter c) ∧ letter.isLatinLetter := by
  match t with
  | [] => cases behind
  | [_] => cases behind
  | first :: second :: rest =>
    rw [afterCode?] at behind
    split at behind
    · rename_i opened
      split at behind
      · rename_i letter tail found
        split at behind
        · rename_i isLetter
          cases behind
          refine ⟨rest.takeWhile isParameter, letter, ?_, ?_, isLetter⟩
          · rw [opened.1, opened.2, List.cons_append, List.cons_append, ← found,
              List.takeWhile_append_dropWhile]
          · intro c member
            exact List.all_eq_true.mp List.all_takeWhile c member
        · cases behind
      · cases behind
    · cases behind

theorem length_lt_of_afterCode? {t later : Text} (behind : afterCode? t = some later) :
    later.length < t.length := by
  obtain ⟨parameters, letter, rfl, -, -⟩ := eq_append_of_afterCode? behind
  simp only [List.length_append, List.length_cons]
  omega

/-- The text without its codes. -/
def withoutCodes : Text → Text
  | [] => []
  | c :: rest =>
    match behind : afterCode? (c :: rest) with
    | some later =>
      have := length_lt_of_afterCode? behind
      withoutCodes later
    | none => c :: withoutCodes rest
termination_by t => t.length
decreasing_by
  · exact this
  · exact Nat.lt_succ_self rest.length

end NamespaceScan.Console

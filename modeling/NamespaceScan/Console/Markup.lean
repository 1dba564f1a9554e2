import NamespaceScan.Text.Basic

/-!
# Markup

Text for the console may hold tags in brackets, which set a style and are not
shown. A bracket is part of a tag when a small letter or one of `#`, `/` and
`@` follows it and the next bracket closes it. Backslashes before a tag make
it plain text.
-/

namespace NamespaceScan.Markup

def backslash : CodePoint := 0x5C
def opening : CodePoint := 0x5B
def closing : CodePoint := 0x5D

/-- A tag can begin with this code point. -/
def beginsTag (c : CodePoint) : Bool :=
  (0x61 ≤ c.val && c.val ≤ 0x7A) || c = 0x23 || c = 0x2F || c = 0x40

/-- Neither bracket. -/
def isInner (c : CodePoint) : Bool := c ≠ opening && c ≠ closing

/-- The tag at the beginning of a text, brackets included, and what follows. -/
def tag? : Text → Option (Text × Text)
  | bracket :: first :: rest =>
    if bracket = opening ∧ beginsTag first ∧ (rest.dropWhile isInner).head? = some closing then
      some
        (bracket :: first :: rest.takeWhile isInner ++ [closing],
          (rest.dropWhile isInner).drop 1)
    else none
  | _ => none

theorem length_tag? {t tag rest : Text} (h : tag? t = some (tag, rest)) :
    rest.length < t.length := by
  unfold tag? at h
  split at h
  · rename_i bracket first tail
    split at h
    · cases h
      have shorter := (List.dropWhile_suffix isInner (l := tail)).length_le
      simp only [List.length_drop, List.length_cons]
      omega
    · cases h
  · cases h

/-- A stretch of marked text: plain text, or a tag with the backslashes before
it. -/
inductive Piece where
  | plain (t : Text)
  | tag (backslashes : Nat) (t : Text)
deriving DecidableEq

/-- Split a text into its tags and single code points between them. -/
def pieces (t : Text) : List Piece :=
  let slashes := t.takeWhile (· = backslash)
  match _ : tag? (t.drop slashes.length) with
  | some (tag, after) => .tag slashes.length tag :: pieces after
  | none =>
    match t with
    | [] => []
    | c :: rest => .plain [c] :: pieces rest
termination_by t.length
decreasing_by
  · have shorter := length_tag? (by assumption)
    simp only [List.length_drop] at shorter
    omega
  · simp

/-- A text whose tags are shown as they are. A single backslash at the end is
doubled. -/
def escape (t : Text) : Text :=
  let escaped : Text := (pieces t).flatMap fun
    | .plain t => t
    | .tag count t => Text.repeated (2 * count + 1) backslash ++ t
  if Text.endsWith escaped [backslash] && !Text.endsWith escaped [backslash, backslash] then
    escaped ++ [backslash]
  else escaped

/-- A stretch of plain text, in which a backslash before a bracket is dropped. -/
def unescape : Text → Text
  | [] => []
  | [c] => [c]
  | c :: d :: rest =>
    if c = backslash && d = opening then opening :: unescape rest else c :: unescape (d :: rest)

/-- Join neighbouring plain pieces. -/
def merge : List Piece → List Piece
  | [] => []
  | .plain t :: rest =>
    match merge rest with
    | .plain u :: others => .plain (t ++ u) :: others
    | others => .plain t :: others
  | piece :: rest => piece :: merge rest

/-- What a marked text shows. An odd number of backslashes before a tag leaves
the tag to be read. -/
def shown (t : Text) : Text :=
  if opening ∈ t then
    (merge (pieces t)).flatMap fun
      | .plain t => unescape t
      | .tag count t =>
        Text.repeated (count / 2) backslash ++ if count % 2 = 1 then t else []
  else t

end NamespaceScan.Markup

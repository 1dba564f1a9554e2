import NamespaceScan.Text.Blank
import NamespaceScan.Text.Grapheme

/-!
# Lines of bounded width

How a text is laid out in lines that are at most a number of columns wide. A
line is broken between words; a word that is wider than a whole line is cut
between two graphemes. Tab stops stand at every eighth column.
-/

namespace NamespaceScan.Console

/-- The space character. -/
def space : CodePoint := 0x20

/-- The columns between two tab stops. -/
def tabWidth : Nat := 8

/-- Controls that are not printed. -/
def isDropped (c : CodePoint) : Bool := [0x07, 0x08, 0x0B, 0x0C, 0x0D].contains c

/-- A line whose tabs are filled up with spaces, the pieces between the tabs
one after the other. -/
def expandPieces (column : Nat) : List Text → Text
  | [] => []
  | [last] => last
  | piece :: rest =>
    let spaced := piece ++ [space]
    let reached := column + Text.columns spaced
    let filled := (reached + (tabWidth - 1)) / tabWidth * tabWidth
    spaced ++ Text.repeated (filled - reached) space ++ expandPieces filled rest

/-- A line without tabs. -/
def expandTabs (line : Text) : Text := expandPieces 0 (line.splitOn 0x09)

/-- The words of a line, each with the blanks behind it; the first one has the
blanks before it too. Only a line of blanks has no words. -/
def words (line : Text) : List Text :=
  let blanks := line.takeWhile CodePoint.isBlank
  match _ : line.dropWhile CodePoint.isBlank with
  | [] => []
  | c :: rest =>
    let letters := rest.takeWhile fun c => !c.isBlank
    let after := rest.dropWhile fun c => !c.isBlank
    (blanks ++ c :: letters ++ after.takeWhile CodePoint.isBlank) ::
      words (after.dropWhile CodePoint.isBlank)
termination_by line.length
decreasing_by
  rename_i found
  have whole := (List.dropWhile_suffix CodePoint.isBlank (l := line)).length_le
  have middle := (List.dropWhile_suffix (fun c : CodePoint => !c.isBlank) (l := rest)).length_le
  have last := (List.dropWhile_suffix CodePoint.isBlank
    (l := rest.dropWhile fun c => !c.isBlank)).length_le
  rw [found, List.length_cons] at whole
  omega

/-- A text without the blanks at its end. -/
def trimEnd (t : Text) : Text := (t.reverse.dropWhile CodePoint.isBlank).reverse

/-- Cut graphemes into pieces of bounded width; `used` columns of the first
piece are taken. -/
def chop (width : Nat) (used : Nat) : List Grapheme → List Text
  | [] => [[]]
  | g :: rest =>
    if used + g.columns ≤ width then
      match chop width (used + g.columns) rest with
      | [] => [g.text]
      | piece :: pieces => (g.text ++ piece) :: pieces
    else
      match chop width g.columns rest with
      | [] => [[], g.text]
      | piece :: pieces => [] :: (g.text ++ piece) :: pieces

/-- Lines that are being filled: those that are full, the one that is open, and
its width. -/
structure Filling where
  full : List Text := []
  line : Text := []
  used : Nat := 0

namespace Filling

/-- End the open line, unless nothing was placed yet, and go on with a piece. -/
def breakBefore (f : Filling) (piece : Text) : Filling where
  full := if f.full = [] ∧ f.line = [] then [] else f.full ++ [f.line]
  line := piece
  used := Text.columns piece

/-- Add a word. -/
def add (width : Nat) (f : Filling) (word : Text) : Filling :=
  let needed := Text.columns (trimEnd word)
  if f.used + needed ≤ width then
    { f with line := f.line ++ word, used := f.used + Text.columns word }
  else if width < needed then (chop width 0 word.graphemes).foldl breakBefore f
  else f.breakBefore word

/-- All lines. -/
def lines (f : Filling) : List Text := f.full ++ [f.line]

end Filling

/-- Drop blanks at the end of a line that is too long. -/
def trimExcess (width : Nat) (line : Text) : Text :=
  let blanks := line.length - (trimEnd line).length
  line.take (line.length - min blanks (line.length - width))

/-- The graphemes at the beginning that have room in a width. One that would
stand over the edge is replaced by a space. -/
def cropped (width : Nat) : List Grapheme → Text
  | [] => []
  | g :: rest =>
    if g.columns ≤ width then g.text ++ cropped (width - g.columns) rest
    else Text.repeated (min width 1) space

/-- The beginning of a line that has room in a width. -/
def crop (width : Nat) (line : Text) : Text :=
  if Text.columns line ≤ width then line
  else if width = 0 then []
  else cropped width line.graphemes

/-- One line broken into lines of bounded width. -/
def wrapLine (width : Nat) (line : Text) : List Text :=
  let line := expandTabs line
  let broken :=
    match words line with
    | [] => [line]
    | words => (words.foldl (Filling.add width) {}).lines
  broken.map fun line => crop width (trimExcess width line)

/-- The lines of a text in a width. -/
def wrap (width : Nat) (t : Text) : List Text :=
  (Text.splitOn 0x0A (t.filter fun c => !isDropped c)).flatMap (wrapLine width)

end NamespaceScan.Console

import NamespaceScan.Text.Blank
import NamespaceScan.Text.Case
import NamespaceScan.Text.Quoted

/-!
# Styles

A style is written in words: attributes such as `bold`, which `not` switches
off, a color, a background color after `on`, and an address after `link`. Two
texts that ask for the same thing have the same canonical form, so that a style
can be closed in other words than those that opened it.
-/

namespace NamespaceScan.Console

/-- What a style can switch on or off, in the order of the canonical form. -/
inductive Attribute where
  | bold | dim | italic | underline | blink | blink2 | reverse | conceal | strike | underline2
  | frame | encircle | overline
deriving DecidableEq

namespace Attribute

/-- The attributes with their words and, where there is one, a short word. -/
def table : List (Attribute × Text × Option Text) :=
  [(.bold, "bold", some "b"), (.dim, "dim", some "d"), (.italic, "italic", some "i"),
   (.underline, "underline", some "u"), (.blink, "blink", none), (.blink2, "blink2", none),
   (.reverse, "reverse", some "r"), (.conceal, "conceal", some "c"), (.strike, "strike", some "s"),
   (.underline2, "underline2", some "uu"), (.frame, "frame", none), (.encircle, "encircle", none),
   (.overline, "overline", some "o")]

/-- The attribute of a word. -/
def ofWord? (word : Text) : Option Attribute :=
  (table.find? fun entry => entry.2.1 = word ∨ entry.2.2 = some word).map (·.1)

end Attribute

/-- What is wrong with a color. -/
inductive ColorError where
  | unknown
  | numberTooLarge
  | notThreeParts
  | partTooLarge

/-- The wording of an error in a color. -/
def ColorError.message (color : Text) : ColorError → Text
  | .unknown => color.quoted ++ " is not a valid color"
  | .numberTooLarge => "color number must be <= 255 in " ++ color.quoted
  | .notThreeParts => "expected three components in " ++ color.quoted
  | .partTooLarge => "color components must be <= 255 in " ++ color.quoted

namespace Color

/-- The shades of gray that have names. -/
def grays : List Nat :=
  [0, 3, 7, 11, 15, 19, 23, 27, 30, 35, 37, 39, 42, 46, 50, 53, 54, 58, 62, 63, 66, 69, 70, 74, 78,
   82, 84, 85, 89, 93, 100]

/-- The named colors other than the shades of gray. -/
def names : List String :=
  ["default", "black", "red", "green", "yellow", "blue", "magenta", "cyan", "white",
   "bright_black", "bright_red", "bright_green", "bright_yellow", "bright_blue", "bright_magenta",
   "bright_cyan", "bright_white", "navy_blue", "dark_blue", "blue3", "blue1", "dark_green",
   "deep_sky_blue4", "dodger_blue3", "dodger_blue2", "green4", "spring_green4", "turquoise4",
   "deep_sky_blue3", "dodger_blue1", "green3", "spring_green3", "dark_cyan", "light_sea_green",
   "deep_sky_blue2", "deep_sky_blue1", "spring_green2", "cyan3", "dark_turquoise", "turquoise2",
   "green1", "spring_green1", "medium_spring_green", "cyan2", "cyan1", "dark_red", "deep_pink4",
   "purple4", "purple3", "blue_violet", "orange4", "medium_purple4", "slate_blue3", "royal_blue1",
   "chartreuse4", "dark_sea_green4", "pale_turquoise4", "steel_blue", "steel_blue3",
   "cornflower_blue", "chartreuse3", "cadet_blue", "sky_blue3", "steel_blue1", "pale_green3",
   "sea_green3", "aquamarine3", "medium_turquoise", "chartreuse2", "sea_green2", "sea_green1",
   "aquamarine1", "dark_slate_gray2", "dark_magenta", "dark_violet", "purple", "light_pink4",
   "plum4", "medium_purple3", "slate_blue1", "yellow4", "wheat4", "light_slate_grey",
   "light_slate_gray", "medium_purple", "light_slate_blue", "dark_olive_green3", "dark_sea_green",
   "light_sky_blue3", "sky_blue2", "dark_sea_green3", "dark_slate_gray3", "sky_blue1",
   "chartreuse1", "light_green", "pale_green1", "dark_slate_gray1", "red3", "medium_violet_red",
   "magenta3", "dark_orange3", "indian_red", "hot_pink3", "medium_orchid3", "medium_orchid",
   "medium_purple2", "dark_goldenrod", "light_salmon3", "rosy_brown", "medium_purple1", "gold3",
   "dark_khaki", "navajo_white3", "light_steel_blue3", "light_steel_blue", "yellow3",
   "light_cyan3", "light_sky_blue1", "green_yellow", "dark_olive_green2", "dark_sea_green1",
   "pale_turquoise1", "deep_pink3", "magenta2", "hot_pink2", "orchid", "medium_orchid1", "orange3",
   "light_pink3", "pink3", "plum3", "violet", "light_goldenrod3", "tan", "misty_rose3", "thistle3",
   "plum2", "khaki3", "light_goldenrod2", "light_yellow3", "light_steel_blue1", "yellow2",
   "dark_olive_green1", "honeydew2", "light_cyan1", "red1", "deep_pink2", "deep_pink1", "magenta1",
   "orange_red1", "indian_red1", "hot_pink", "dark_orange", "salmon1", "light_coral",
   "pale_violet_red1", "orchid2", "orchid1", "orange1", "sandy_brown", "light_salmon1",
   "light_pink1", "pink1", "plum1", "gold1", "navajo_white1", "misty_rose1", "thistle1", "yellow1",
   "light_goldenrod1", "khaki1", "wheat1", "cornsilk1"]

/-- The word names a color. -/
def isName (word : Text) : Bool :=
  names.any (fun name => (name : Text) = word) ||
    grays.any fun shade =>
      word = Text.concat ["grey", Text.ofNat shade] || word = Text.concat ["gray", Text.ofNat shade]

/-- What stands between the given beginning and a closing parenthesis. -/
def enclosed? (start : Text) (word : Text) : Option Text :=
  if Text.startsWith word start && Text.endsWith word ")" then
    some ((word.drop start.length).dropLast)
  else none

/-- The number that decimal digits spell. -/
def number (digits : Text) : Nat := digits.foldl (fun n c => 10 * n + (c.val - 0x30)) 0

/-- Decimal digits and nothing else. -/
def isNumber (t : Text) : Bool := t ≠ [] && t.all CodePoint.isDigit

/-- Check the number of a color. -/
def checkNumber (digits : Text) : Except ColorError Unit :=
  if isNumber digits && digits.length ≤ 3 then
    if number digits ≤ 255 then .ok () else .error .numberTooLarge
  else .error .unknown

/-- Check the three parts of a color. -/
def checkParts (inner : Text) : Except ColorError Unit :=
  let parts := inner.splitOn 0x2C
  if inner = [] || !inner.all fun c => c.isDigit || c = 0x2C then .error .unknown
  else if parts.length ≠ 3 then .error .notThreeParts
  else if !parts.all isNumber then .error .unknown
  else if parts.all fun part => number part ≤ 255 then .ok ()
  else .error .partTooLarge

/-- The canonical form of a color. -/
def read (word : Text) : Except ColorError Text :=
  let color := Text.lower word
  if isName color then .ok color
  else
    match color, enclosed? "color(" color, enclosed? "rgb(" color with
    | _, some digits, _ => (checkNumber digits).map fun _ => color
    | _, _, some inner => (checkParts inner).map fun _ => color
    | hash :: digits, _, _ =>
      if hash = 0x23 ∧ digits.length = 6 ∧ digits.all (·.hexValue?.isSome) then .ok color
      else .error .unknown
    | [], _, _ => .error .unknown

end Color

/-- What is wrong with the words of a style. -/
inductive StyleError where
  | backgroundExpected
  | attributeExpected (found : Text)
  | addressExpected
  | badColor (word : Text) (error : ColorError)
  | badBackground (word : Text) (error : ColorError)

/-- The wording of an error in a style. -/
def StyleError.message : StyleError → Text
  | .backgroundExpected => "color expected after 'on'"
  | .attributeExpected found => "expected style attribute after 'not', found " ++ found.quoted
  | .addressExpected => "URL expected after 'link'"
  | .badColor word error =>
    Text.concat ["unable to parse ", word.quoted, " as color; ", error.message word]
  | .badBackground word error =>
    Text.concat ["unable to parse ", word.quoted, " as background color; ", error.message word]

/-- A style; of two settings of one attribute the first in the list counts. -/
structure Style where
  attributes : List (Attribute × Bool) := []
  color : Option Text := none
  background : Option Text := none
  address : Option Text := none

namespace Style

/-- The words of a text. -/
def words (t : Text) : List Text := (t.splitOnP CodePoint.isBlank).filter (· ≠ [])

/-- A style with more words. -/
def addWords (style : Style) : List Text → Except StyleError Style
  | [] => .ok style
  | word :: rest =>
    let lower := Text.lower word
    if lower = "on" then
      match rest with
      | [] => .error .backgroundExpected
      | background :: rest =>
        match Color.read background with
        | .error error => .error (.badBackground background error)
        | .ok color => addWords { style with background := some color } rest
    else if lower = "not" then
      match rest with
      | [] => .error (.attributeExpected [])
      | name :: rest =>
        match Attribute.ofWord? name with
        | none => .error (.attributeExpected name)
        | some found =>
          addWords { style with attributes := (found, false) :: style.attributes } rest
    else if lower = "link" then
      match rest with
      | [] => .error .addressExpected
      | address :: rest => addWords { style with address := some address } rest
    else
      match Attribute.ofWord? lower with
      | some found => addWords { style with attributes := (found, true) :: style.attributes } rest
      | none =>
        match Color.read lower with
        | .error error => .error (.badColor lower error)
        | .ok color => addWords { style with color := some color } rest

/-- The word for no style at all. -/
def noneWord : Text := "none"

/-- The style that a text asks for. -/
def read (t : Text) : Except StyleError Style :=
  if words t = [noneWord] then .ok {} else addWords {} (words t)

/-- The words of a style in canonical order. -/
def toWords (style : Style) : List Text :=
  let setting (entry : Attribute × Text × Option Text) : Option Text :=
    (style.attributes.lookup entry.1).map fun on =>
      if on then entry.2.1 else Text.concat ["not ", entry.2.1]
  Attribute.table.filterMap setting ++ style.color.toList ++
    (style.background.map fun color => Text.concat ["on ", color]).toList ++
    (style.address.map fun address => Text.concat ["link ", address]).toList

/-- The canonical text of a style. -/
def toText (style : Style) : Text :=
  if style.toWords = [] then noneWord else Text.joinWith " " style.toWords

/-- The canonical form of a text that may ask for a style. -/
def normalize (t : Text) : Text :=
  match read t with
  | .ok style => style.toText
  | .error _ => Text.lower t.strip

/-- The names under which styles are kept. -/
def kept : List String :=
  ["success", "error", "warning", "dim", "path", "provide", "require", "none", "reset", "bright",
   "strong", "code", "emphasize", "prompt", "tree", "rule.line", "rule.text", "table.header",
   "table.footer", "table.cell", "table.title", "table.caption"]

/-- What is wrong with a text that names a style or spells one out. -/
def error? (t : Text) : Option StyleError :=
  if kept.any fun name => (name : Text) = t then none
  else
    match read t with
    | .ok _ => none
    | .error error => some error

end Style

end NamespaceScan.Console

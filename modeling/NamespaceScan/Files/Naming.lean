import NamespaceScan.Problem

/-!
# Texts that name files

The system names files by octets. A text stands for its octets in UTF-8, and a surrogate from
U+DC80 to U+DCFF for a single octet, so that a name which is no UTF-8 can be a text too. The
other surrogates stand for nothing: a text that has one names no file, and neither does a text
with the character that ends a path. Names and paths may have only so many octets.
-/

namespace NamespaceScan

namespace CodePoint

/-- A surrogate that stands for one octet in the name of a file. -/
def isEscapedOctet (c : CodePoint) : Bool := 0xDC80 ≤ c.val && c.val ≤ 0xDCFF

/-- A surrogate that stands for nothing in the name of a file. -/
def isUnwritable (c : CodePoint) : Bool := c.isSurrogate && !c.isEscapedOctet

end CodePoint

/-- The character that ends a path for the file system and so stands in none. -/
def zeroCharacter : CodePoint := 0

/-! ## Octets -/

namespace Text

/-- The number of octets that a text stands for. -/
def octetCount (t : Text) : Nat :=
  (t.map fun c => if c.isEscapedOctet then 1 else Utf8.width c).sum

/-- The first run of surrogates with one that stands for nothing, from that one on, in a text
that begins at the given position. -/
def firstUnwritable (position : Nat) : Text → Option Utf8.EncodeError
  | [] => none
  | c :: rest =>
    if c.isUnwritable then
      some ⟨position, ((c :: rest).takeWhile CodePoint.isSurrogate).length, c⟩
    else firstUnwritable (position + 1) rest

/-- The text can name a file. -/
def isNameable (t : Text) : Bool := t.all fun c => !c.isUnwritable && c ≠ zeroCharacter

end Text

/-- The fault of a text that names no file. Its octets are looked for first. -/
def pathFault? (t : Text) : Option Fault :=
  match t.firstUnwritable 0 with
  | some error => some (.unencodable error)
  | none => if zeroCharacter ∈ t then some .zeroInPath else none

/-! ## Limits -/

/-- The octets that a name may have. -/
def nameLimit : Nat := 255

/-- The octets that a written path may have. -/
def pathLimit : Nat := 4095

/-- The name has too many octets. -/
def isLongName (name : Text) : Bool := nameLimit < Text.octetCount name

/-- The written path has too many octets. -/
def isLongPath (t : Text) : Bool := pathLimit < Text.octetCount t

end NamespaceScan

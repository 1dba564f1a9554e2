import NamespaceScan.Problem
import NamespaceScan.Text.Case
import NamespaceScan.Text.Utf16

/-!
# Encodings

The ways to write text as octets, and the names under which they are asked for.
A name is read without regard to case, and any run of other signs than letters,
digits and points in it counts as one underscore.
-/

namespace NamespaceScan

/-- Which octet of a unit comes first. -/
inductive ByteOrder where
  | little
  | big
deriving DecidableEq

/-- A way to write text as octets. -/
inductive Encoding where
  | utf8
  /-- With a mark at the beginning that is no part of the text. -/
  | markedUtf8
  | latin1
  | ascii
  | windows1252
  /-- Without a given order, a mark at the beginning tells it. -/
  | utf16 (order : Option ByteOrder)
  /-- A name that stands for no encoding. -/
  | unknown (name : Text)
deriving DecidableEq

namespace Encoding

/-! ## Names -/

/-- A name in small letters, with single underscores between its parts. -/
def canonicalName (name : Text) : Text :=
  let isPart (c : CodePoint) : Bool := c.isLatinLetter || c.isDigit || c = 0x2E
  Text.joinWith "_" (((Text.lower name).splitOnP fun c => !isPart c).filter (· ≠ []))

/-- The canonical names of each encoding. -/
def names : List (Encoding × List String) :=
  [(.utf8, ["utf_8", "u8", "utf", "utf8", "utf8_ucs2", "utf8_ucs4", "cp65001", "locale"]),
   (.markedUtf8, ["utf_8_sig"]),
   (.latin1,
    ["latin_1", "8859", "cp819", "csisolatin1", "ibm819", "iso8859", "iso8859_1", "iso_8859_1",
     "iso_8859_1_1987", "iso_ir_100", "l1", "latin", "latin1"]),
   (.ascii,
    ["ascii", "646", "ansi_x3.4_1968", "ansi_x3_4_1968", "ansi_x3.4_1986", "cp367", "csascii",
     "ibm367", "iso646_us", "iso_646.irv_1991", "iso_ir_6", "us", "us_ascii"]),
   (.windows1252, ["cp1252", "1252", "windows_1252"]),
   (.utf16 none, ["utf_16", "u16", "utf16"]),
   (.utf16 (some .little), ["utf_16_le", "unicodelittleunmarked", "utf_16le"]),
   (.utf16 (some .big), ["utf_16_be", "unicodebigunmarked", "utf_16be"])]

/-- The encoding of a name. -/
def ofName (name : Text) : Encoding :=
  let canonical := canonicalName name
  match names.find? fun entry => entry.2.any fun known => (known : Text) = canonical with
  | some (encoding, _) => encoding
  | none => .unknown name

/-! ## Octets -/

/-- Why octets are not read. -/
inductive Unreadable where
  /-- They spell no text, for a reason in words. -/
  | octets (reason : Text)
  | fault (fault : Fault)

/-- The code point with the number of an octet. -/
def codePoint (octet : UInt8) : CodePoint := Fin.ofNat _ octet.toNat

/-- The first octet that is not ASCII, as an error. -/
def asciiError (octets : List UInt8) : Option Text :=
  (octets.zipIdx.find? fun item => 0x80 ≤ item.1).map fun item =>
    undecodedMessage "ascii" item.1 item.2 1 "ordinal not in range(128)"

/-- The characters of the octets from 0x80 to 0x9F in the Windows code page; zero
where there is none. -/
def windowsPage : List Nat :=
  [0x20AC, 0, 0x201A, 0x192, 0x201E, 0x2026, 0x2020, 0x2021, 0x2C6, 0x2030, 0x160, 0x2039, 0x152, 0,
   0x17D, 0, 0, 0x2018, 0x2019, 0x201C, 0x201D, 0x2022, 0x2013, 0x2014, 0x2DC, 0x2122, 0x161,
   0x203A, 0x153, 0, 0x17E, 0x178]

/-- Octets of the Windows code page that begin at a position. -/
def windowsText (position : Nat) : List UInt8 → Except Text Text
  | [] => .ok []
  | octet :: rest =>
    let number := octet.toNat
    let c := if 0x80 ≤ number ∧ number < 0xA0 then windowsPage.getD (number - 0x80) 0 else number
    if c = 0 ∧ octet ≠ 0 then
      .error (undecodedMessage "charmap" octet position 1 "character maps to <undefined>")
    else (windowsText (position + 1) rest).map (Fin.ofNat _ c :: ·)

/-- The unit of two octets. -/
def ByteOrder.unit (order : ByteOrder) (a b : UInt8) : CodePoint :=
  match order with
  | .little => Fin.ofNat _ (256 * b.toNat + a.toNat)
  | .big => Fin.ofNat _ (256 * a.toNat + b.toNat)

/-- The name of the encoding with a given order. -/
def ByteOrder.codec : ByteOrder → Text
  | .little => "utf-16-le"
  | .big => "utf-16-be"

/-- Units of two octets that begin at a position. -/
def unitText (order : ByteOrder) (position : Nat) : List UInt8 → Except Text Text
  | [] => .ok []
  | [a] => .error (undecodedMessage (ByteOrder.codec order) a position 1 "truncated data")
  | [a, b] =>
    let c := ByteOrder.unit order a b
    let fail := undecodedMessage (ByteOrder.codec order) a position 2
    if c.isHighSurrogate then .error (fail "unexpected end of data")
    else if c.isSurrogate then .error (fail "illegal encoding")
    else .ok [c]
  | [a, b, d] =>
    let c := ByteOrder.unit order a b
    let codec := ByteOrder.codec order
    if c.isHighSurrogate then .error (undecodedMessage codec a position 3 "unexpected end of data")
    else if c.isSurrogate then .error (undecodedMessage codec a position 2 "illegal encoding")
    else .error (undecodedMessage codec d (position + 2) 1 "truncated data")
  | a :: b :: d :: e :: rest =>
    let c := ByteOrder.unit order a b
    let second := ByteOrder.unit order d e
    let fail := undecodedMessage (ByteOrder.codec order) a position 2
    if c.isHighSurrogate then
      if second.isLowSurrogate then
        (unitText order (position + 4) rest).map (Utf16.pairValue c second :: ·)
      else .error (fail "illegal UTF-16 surrogate")
    else if c.isSurrogate then .error (fail "illegal encoding")
    else (unitText order (position + 2) (d :: e :: rest)).map (c :: ·)

/-- Units of two octets whose order a mark at the beginning tells. -/
def markedUnits (octets : List UInt8) : Except Unreadable Text :=
  let read (order : ByteOrder) (start : Nat) : Except Unreadable Text :=
    (unitText order start (octets.drop start)).mapError .octets
  match octets with
  | 0xFF :: 0xFE :: _ => read .little 2
  | 0xFE :: 0xFF :: _ => read .big 2
  | [] => .ok []
  | _ => (read .little 0).bind fun _ => .error (.fault .noByteOrder)

/-- The octets of the mark before text in UTF-8. -/
def mark : List UInt8 := [0xEF, 0xBB, 0xBF]

/-- Octets in UTF-8, whose mark is dropped; a piece of the mark alone is no
text. -/
def markedText (octets : ByteArray) : Except Text Text :=
  let start := octets.toList.take 3
  if start.length < 3 ∧ start.isPrefixOf mark then .ok []
  else if start = mark then (Utf8.decode (octets.extract 3 octets.size)).mapError (·.message)
  else (Utf8.decode octets).mapError (·.message)

/-- The text of octets, or why they are none. -/
def decode (octets : ByteArray) : Encoding → Except Unreadable Text
  | .utf8 => (Utf8.decode octets).mapError fun error => .octets error.message
  | .markedUtf8 => (markedText octets).mapError .octets
  | .latin1 => .ok (octets.toList.map codePoint)
  | .ascii =>
    match asciiError octets.toList with
    | some error => .error (.octets error)
    | none => .ok (octets.toList.map codePoint)
  | .windows1252 => (windowsText 0 octets.toList).mapError .octets
  | .utf16 (some order) => (unitText order 0 octets.toList).mapError .octets
  | .utf16 none => markedUnits octets.toList
  | .unknown name => .error (.fault (.unknownEncoding name))

end Encoding

end NamespaceScan

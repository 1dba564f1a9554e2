import NamespaceScan.Text.Basic

/-!
# UTF-8

Reading takes octets one at a time. Octets that do not belong to a
well-formed sequence are grouped by the longest beginning of a well-formed
sequence that they form, so each fault covers a definite stretch of the input.
Strict reading stops at the first fault; tolerant reading puts one replacement
character in the place of each.
-/

namespace NamespaceScan

namespace Utf8

/-- Why octets cannot be read. -/
inductive Fault where
  /-- No sequence begins with this octet. -/
  | invalidStart
  /-- The octet that follows does not continue the sequence. -/
  | invalidContinuation
  /-- The input ends inside a sequence. -/
  | unexpectedEnd
deriving DecidableEq

/-- One step of the reading: a code point, or a stretch of octets at fault. -/
inductive Piece where
  | scalar (c : CodePoint)
  | fault (start count : Nat) (first : UInt8) (cause : Fault)
deriving DecidableEq

/-- A sequence that has begun: how many octets are still missing, the range of
the next one, the bits so far, and where and how the sequence began. -/
structure Pending where
  missing : Nat
  low : UInt8
  high : UInt8
  bits : Nat
  start : Nat
  count : Nat
  first : UInt8
deriving DecidableEq

/-- The state of a reading: the position, a sequence that has begun, and the
pieces read so far with the latest first. -/
structure Reading where
  position : Nat := 0
  pending : Option Pending := none
  pieces : List Piece := []
deriving DecidableEq

/-- The code point of collected bits. -/
def scalarOf (bits : Nat) : CodePoint := Fin.ofNat _ bits

/-- An octet where a new sequence may begin. -/
def begin (r : Reading) (octet : UInt8) : Reading :=
  let n := octet.toNat
  let next := { r with position := r.position + 1 }
  let await (missing : Nat) (low high : UInt8) (bits : Nat) : Reading :=
    { next with pending := some ⟨missing, low, high, bits, r.position, 1, octet⟩ }
  if n < 0x80 then { next with pending := none, pieces := .scalar (scalarOf n) :: r.pieces }
  else if 0xC2 ≤ n ∧ n ≤ 0xDF then await 1 0x80 0xBF (n - 0xC0)
  else if n = 0xE0 then await 2 0xA0 0xBF 0
  else if n = 0xED then await 2 0x80 0x9F 0xD
  else if 0xE1 ≤ n ∧ n ≤ 0xEF then await 2 0x80 0xBF (n - 0xE0)
  else if n = 0xF0 then await 3 0x90 0xBF 0
  else if n = 0xF4 then await 3 0x80 0x8F 4
  else if 0xF1 ≤ n ∧ n ≤ 0xF3 then await 3 0x80 0xBF (n - 0xF0)
  else
    { next with
      pending := none
      pieces := .fault r.position 1 octet .invalidStart :: r.pieces }

/-- The fault that a sequence leaves when it is broken off. -/
def Pending.abandon (p : Pending) (cause : Fault) : Piece := .fault p.start p.count p.first cause

/-- Read one octet. -/
def Reading.step (r : Reading) (octet : UInt8) : Reading :=
  match r.pending with
  | none => begin r octet
  | some p =>
    if p.low ≤ octet ∧ octet ≤ p.high then
      let bits := p.bits * 64 + (octet.toNat - 0x80)
      if p.missing ≤ 1 then
        { position := r.position + 1
          pending := none
          pieces := .scalar (scalarOf bits) :: r.pieces }
      else
        { r with
          position := r.position + 1
          pending := some ⟨p.missing - 1, 0x80, 0xBF, bits, p.start, p.count + 1, p.first⟩ }
    else
      begin { r with pending := none, pieces := p.abandon .invalidContinuation :: r.pieces } octet

/-- The pieces in order, once the input has ended. -/
def Reading.finish (r : Reading) : List Piece :=
  match r.pending with
  | none => r.pieces.reverse
  | some p => (p.abandon .unexpectedEnd :: r.pieces).reverse

/-- The pieces of an octet string. -/
def pieces (octets : ByteArray) : List Piece :=
  (octets.foldl Reading.step {}).finish

/-- The replacement character. -/
def replacement : CodePoint := 0xFFFD

/-- Tolerant reading: one replacement character for each fault. -/
def decodeLossy (octets : ByteArray) : Text :=
  (pieces octets).map fun
    | .scalar c => c
    | .fault .. => replacement

/-- A stretch of octets that strict reading refuses. -/
structure DecodeError where
  /-- The position of the first octet at fault. -/
  start : Nat
  /-- How many octets are at fault. -/
  count : Nat
  /-- The first octet at fault. -/
  first : UInt8
  cause : Fault
deriving DecidableEq

/-- Strict reading: the text, or the first fault. -/
def decode (octets : ByteArray) : Except DecodeError Text :=
  (pieces octets).mapM fun
    | .scalar c => .ok c
    | .fault start count first cause => .error ⟨start, count, first, cause⟩

/-- The octet with the given number. -/
def octet (n : Nat) : UInt8 := UInt8.ofNat n

/-- The octets of one code point. -/
def encodeOne (c : CodePoint) : List UInt8 :=
  let n := c.val
  if n < 0x80 then [octet n]
  else if n < 0x800 then [octet (0xC0 + n / 64), octet (0x80 + n % 64)]
  else if n < 0x10000 then
    [octet (0xE0 + n / 4096), octet (0x80 + n / 64 % 64), octet (0x80 + n % 64)]
  else
    [octet (0xF0 + n / 262144), octet (0x80 + n / 4096 % 64), octet (0x80 + n / 64 % 64),
      octet (0x80 + n % 64)]

/-- The number of octets of one code point. -/
def width (c : CodePoint) : Nat :=
  if c.val < 0x80 then 1 else if c.val < 0x800 then 2 else if c.val < 0x10000 then 3 else 4

/-- A run of surrogates, which have no octets of their own. -/
structure EncodeError where
  /-- The position of the first surrogate of the run. -/
  start : Nat
  /-- How many surrogates stand side by side. -/
  count : Nat
  /-- The first of them. -/
  first : CodePoint
deriving DecidableEq

/-- The first run of surrogates in a text that begins at the given position. -/
def firstSurrogates (position : Nat) : Text → Option EncodeError
  | [] => none
  | c :: rest =>
    if c.isSurrogate then
      some ⟨position, ((c :: rest).takeWhile CodePoint.isSurrogate).length, c⟩
    else firstSurrogates (position + 1) rest

/-- The octets of a text without surrogates. -/
def octets (t : Text) : ByteArray :=
  t.foldl (fun out c => (encodeOne c).foldl ByteArray.push out) ByteArray.empty

/-- Strict writing: the octets, or the first run of surrogates. -/
def encode (t : Text) : Except EncodeError ByteArray :=
  match firstSurrogates 0 t with
  | some error => .error error
  | none => .ok (octets t)

end Utf8

end NamespaceScan

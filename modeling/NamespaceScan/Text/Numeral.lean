import NamespaceScan.Rounding
import NamespaceScan.Text.Basic

/-!
# Numerals

The ways to write a whole number: in a base, with digits behind a point, with a
power of ten, or in the shorter of the last two.
-/

namespace NamespaceScan.Numeral

def zero : CodePoint := 0x30

/-- The digits of a number in a base. -/
def inBase (base n : Nat) : Text := (Nat.toDigits base n).map CodePoint.ofChar

/-- At least so many digits, with zeros before them. -/
def atLeast (count : Nat) (digits : Text) : Text :=
  Text.repeated (count - digits.length) zero ++ digits

/-- Small letters made capital; digits have no others than `a` to `f`. -/
def capital (digits : Text) : Text :=
  digits.map fun c => if 0x61 ≤ c.val ∧ c.val ≤ 0x7A then Fin.ofNat _ (c.val - 0x20) else c

/-- The first `count` digits of a number, rounded, and the power of ten of the
first of them. -/
def leading (count n : Nat) : Text × Nat :=
  let size := (Nat.toDigits 10 n).length
  if size ≤ count then (Text.ofNat n ++ Text.repeated (count - size) zero, size - 1)
  else
    let first := roundedQuotient n (Nat.pow 10 (size - count))
    if first = Nat.pow 10 count then (Text.ofNat (first / 10), size)
    else (Text.ofNat first, size - 1)

/-- The digits behind the point, with the point; it is kept before no digits only
if wanted. -/
def behindPoint (keepPoint : Bool) (digits : Text) : Text :=
  if digits = [] ∧ !keepPoint then [] else 0x2E :: digits

/-- Digits without the zeros at their end. -/
def trimmed (digits : Text) : Text := (digits.reverse.dropWhile (· = zero)).reverse

/-- A number with digits behind the point. -/
def fixed (keepPoint : Bool) (places n : Nat) : Text :=
  Text.ofNat n ++ behindPoint keepPoint (Text.repeated places zero)

/-- One digit, those behind the point, and the power of ten. -/
def withPower (keepPoint : Bool) (digits : Text) (power : Nat) : Text :=
  Text.concat
    [digits.take 1, behindPoint keepPoint (digits.drop 1), "e+", atLeast 2 (Text.ofNat power)]

/-- A number with a power of ten and digits behind the point. -/
def scientific (keepPoint : Bool) (places n : Nat) : Text :=
  let (digits, power) := leading (places + 1) n
  withPower keepPoint digits power

/-- A number with so many digits, and with a power of ten if it has more. Zeros
at the end of the digits behind the point are kept only if wanted. -/
def general (keepZeros : Bool) (count n : Nat) : Text :=
  let count := max count 1
  let (digits, power) := leading count n
  if power < count then
    let fraction := digits.drop (power + 1)
    digits.take (power + 1) ++
      behindPoint keepZeros (if keepZeros then fraction else trimmed fraction)
  else
    let kept := if keepZeros then digits else digits.take 1 ++ trimmed (digits.drop 1)
    withPower keepZeros kept power

end NamespaceScan.Numeral

import NamespaceScan.Text.Basic

/-!
# Decimal numbers

Real numbers as they are written in data files: digits and a power of ten, an
infinity, or no number at all.
-/

namespace NamespaceScan

/-- A written real number. -/
inductive Decimal where
  /-- The digits times a power of ten. -/
  | finite (negative : Bool) (digits : Nat) (exponent : Int)
  | infinite (negative : Bool)
  | undefined
deriving DecidableEq

namespace Decimal

/-- The power of ten from which a number is too small to be told from zero,
whatever its digits are, given how many digits there are. -/
def vanishing (digitCount : Nat) : Int := -(400 + digitCount)

/-- Zero, or too small to be told from zero: at most half of the smallest
positive double. -/
def isZero : Decimal → Bool
  | .finite _ digits exponent =>
    digits = 0 ||
      (exponent < vanishing (Nat.toDigits 10 digits).length ||
        (exponent < 0 && digits * Nat.pow 2 1075 ≤ Nat.pow 10 exponent.natAbs))
  | _ => false

/-- Digits without the zeros at their end, and the power of ten that makes up
for them. -/
def trimmed : Nat → Nat → Int → Nat × Int
  | 0, digits, exponent => (digits, exponent)
  | fuel + 1, digits, exponent =>
    if digits ≠ 0 ∧ digits % 10 = 0 then trimmed fuel (digits / 10) (exponent + 1)
    else (digits, exponent)

/-- Digits with a point, or with a power of ten when the number is below 10⁻⁴
or has more than sixteen places before the point. -/
def positional (digits : Text) (exponent : Int) : Text :=
  let places : Int := digits.length + exponent
  if -4 < places ∧ places ≤ 16 then
    if places ≤ 0 then "0." ++ Text.repeated places.natAbs 0x30 ++ digits
    else if places ≥ digits.length then
      digits ++ Text.repeated (places.toNat - digits.length) 0x30 ++ ".0"
    else digits.take places.toNat ++ "." ++ digits.drop places.toNat
  else
    let power := places - 1
    let size := Text.ofNat power.natAbs
    Text.concat
      [digits.take 1, if digits.length ≤ 1 then "" else "." ++ digits.drop 1,
        if power < 0 then "e-" else "e+", if size.length < 2 then "0" ++ size else size]

/-- The shortest text of a number. -/
def shown : Decimal → Text
  | .finite negative digits exponent =>
    let sign : Text := if negative then "-" else ""
    if digits = 0 then sign ++ "0.0"
    else
      let (digits, exponent) := trimmed (Nat.toDigits 10 digits).length digits exponent
      sign ++ positional (Text.ofNat digits) exponent
  | .infinite negative => if negative then "-inf" else "inf"
  | .undefined => "nan"

end Decimal

end NamespaceScan

/-
Decimal values and their positional writing: zeros are filled in on either side
of the point, and there is never an exponent.
-/
import Placeholders.Text.Basic

namespace Placeholders.Number

/-- Ten to a power. -/
def tenTo (power : Nat) : Nat := Nat.pow 10 power

/-- `count / 10 ^ places`, written with exactly so many places and no point when there are none. -/
def fixedPoint (count places : Nat) : Text :=
  let digits := Text.ofNat count
  let padded := List.replicate (places + 1 - digits.length) '0' ++ digits
  let whole := padded.length - places
  if places = 0 then padded else padded.take whole ++ '.' :: padded.drop whole

/-- The decimal value `digits * 10 ^ exponent`. -/
structure Decimal where
  digits : Nat
  exponent : Int
deriving DecidableEq, Repr

namespace Decimal

/-- Positional writing of a decimal value; a whole number has no point. -/
def toText (d : Decimal) : Text :=
  if 0 ≤ d.exponent then Text.ofNat d.digits ++ List.replicate d.exponent.toNat '0'
  else fixedPoint d.digits (-d.exponent).toNat

end Decimal
end Placeholders.Number

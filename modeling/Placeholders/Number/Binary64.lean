/-
Binary floating point numbers of 64 bits. A finite number is a sign and a
magnitude; a magnitude is a whole number of units, and the unit is two to the
power -1074, the smallest positive number. Every magnitude has one pair of
significand and scale, so equality of numbers is equality of the data, and the
two zeros differ by their sign.
-/
import Placeholders.Number.Rounding

namespace Placeholders.Number

/-- How many units make one: two to the power 1074. -/
def unitsPerOne : Nat := 1 <<< 1074

/-- The value `significand * 2 ^ scale` in units, with as small a scale as the
53 bits of the significand allow: with a scale the significand has its full width,
which starts at `2 ^ 52 = 4503599627370496`. -/
structure Magnitude where
  significand : Nat
  scale : Nat
  significand_lt : significand < 9007199254740992
  scale_le : scale ≤ 2045
  normal : scale = 0 ∨ 4503599627370496 ≤ significand
deriving DecidableEq, Repr

namespace Magnitude

/-- The value in units. -/
def units (m : Magnitude) : Nat := m.significand <<< m.scale

/-- No units at all. -/
def zero : Magnitude := ⟨0, 0, by decide, by decide, .inl rfl⟩

/-- The magnitude nearest to `num / den` units, a half to the even significand;
none when it is beyond the greatest one. -/
def nearest (num den : Nat) : Option Magnitude :=
  let scale := (num / den).log2 - 52
  let significand := roundQuotient num (den <<< scale)
  if h : significand < 9007199254740992 ∧ scale ≤ 2045
      ∧ (scale = 0 ∨ 4503599627370496 ≤ significand) then
    some ⟨significand, scale, h.1, h.2.1, h.2.2⟩
  else if h : scale + 1 ≤ 2045 then
    some ⟨4503599627370496, scale + 1, by decide, h, .inr (Nat.le_refl _)⟩
  else none

end Magnitude

/-- A floating point number. -/
inductive Binary64
  | nan
  | infinite (negative : Bool)
  | finite (negative : Bool) (magnitude : Magnitude)
deriving DecidableEq, Repr

namespace Binary64

/-- The number nearest to `num / den` ones, under a sign; infinite when it is too large. -/
def nearest (negative : Bool) (num den : Nat) : Binary64 :=
  (Magnitude.nearest (num * unitsPerOne) den).elim (infinite negative) (finite negative)

/-- The number nearest to an integer. -/
def ofInt (n : Int) : Binary64 := nearest (n < 0) n.natAbs 1

/-- Zero under a sign. -/
def zero (negative : Bool) : Binary64 := finite negative .zero

/-- Is it neither infinite nor a NaN? -/
def isFinite : Binary64 → Bool
  | finite _ _ => true
  | _ => false

end Binary64
end Placeholders.Number

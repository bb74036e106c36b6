/-
Products and quotients of magnitudes, each rounded once, and scaling by powers of
ten in such steps. A decimal that is scaled in binary arithmetic is not always
the nearest number, which is what some formats ask for.
-/
import Placeholders.Number.Binary64
import Placeholders.Number.Decimal

namespace Placeholders.Number
namespace Magnitude

/-- The magnitude nearest to a natural number; none when it is too large. -/
def ofNat? (n : Nat) : Option Magnitude := nearest (n * unitsPerOne) 1

/-- The product, rounded; none when it is too large. -/
def mul? (a b : Magnitude) : Option Magnitude := nearest (a.units * b.units) unitsPerOne

/-- The quotient, rounded; none when it is too large. -/
def div? (a b : Magnitude) : Option Magnitude := nearest (a.units * unitsPerOne) b.units

/-- The greatest exponent of a power of ten that is a finite number. -/
def maxTenPower : Nat := 308

/-- A power of ten. -/
def tenPower? (exponent : Nat) : Option Magnitude := ofNat? (tenTo exponent)

/-- Multiplies by a power of ten; only zero survives a power that is not finite. -/
def scaleUp? (m : Magnitude) (exponent : Nat) : Option Magnitude :=
  if exponent ≤ maxTenPower then (tenPower? exponent).bind m.mul?
  else if m.significand = 0 then some m else none

/-- Divides so many times by the greatest power of ten, or until nothing is left. -/
def shrink? (m : Magnitude) : Nat → Option Magnitude
  | 0 => some m
  | steps + 1 =>
    if m.significand = 0 then some m
    else
      match (tenPower? maxTenPower).bind m.div? with
      | some q => q.shrink? steps
      | none => none

/-- Divides by a power of ten, in steps by the greatest one and a last step by what is left. -/
def scaleDown? (m : Magnitude) (exponent : Nat) : Option Magnitude :=
  let steps := (exponent - 1) / maxTenPower
  (m.shrink? steps).bind fun q => (tenPower? (exponent - steps * maxTenPower)).bind q.div?

/-- Multiplies or divides by a power of ten. -/
def scale? (m : Magnitude) (exponent : Int) : Option Magnitude :=
  if 0 ≤ exponent then m.scaleUp? exponent.toNat else m.scaleDown? (-exponent).toNat

end Magnitude
end Placeholders.Number

/-
The fewest decimal digits that read back as the same number. The values that
round to a magnitude form an interval, with its ends when the significand is
even. On the decimal grids of rising fineness only the two neighbours of the
value matter: the first grid with a neighbour inside the interval gives the
digits, the nearer neighbour if both are inside, the upper one at equal
distance. The exact value stands at the end of the search, so what is found
always lies in the interval.
-/
import Placeholders.Number.Binary64
import Placeholders.Number.Decimal

namespace Placeholders.Number

namespace Magnitude

/-- Four times the ends of the interval that rounds to the magnitude, in units.
Below a power of two the neighbours are half as far apart as above it. -/
def fourfoldEnds (m : Magnitude) : Nat × Nat :=
  let below := if m.significand = 4503599627370496 ∧ m.scale ≠ 0 then 1 else 2
  ((4 * m.significand - below) <<< m.scale, (4 * m.significand + 2) <<< m.scale)

/-- Does `num / den`, in quarters of a unit, round to the magnitude? -/
def admits (m : Magnitude) (num den : Nat) : Bool :=
  let (low, high) := m.fourfoldEnds
  if m.significand % 2 = 0 then low * den ≤ num && num ≤ high * den
  else low * den < num && num < high * den

/-- The number of digits before the point, counted as negative when zeros follow
the point: the value is below ten to this power, and not below the one before. -/
def decimalOrder (m : Magnitude) : Int :=
  (Text.ofNat (m.units * tenTo 400 / unitsPerOne)).length - 400

/-- The neighbour on the grid of step `10 ^ exponent` that stands for the magnitude. -/
def onGrid? (m : Magnitude) (exponent : Int) : Option Decimal :=
  let step := tenTo exponent.toNat * unitsPerOne
  let shift := tenTo (-exponent).toNat
  let value := m.units * shift
  let down := value / step
  let fits (k : Nat) : Bool := m.admits (4 * k * step) shift
  let upNearer : Bool := step ≤ 2 * (value % step)
  match fits down, fits (down + 1) with
  | true, true => some ⟨if upNearer then down + 1 else down, exponent⟩
  | true, false => some ⟨down, exponent⟩
  | false, true => some ⟨down + 1, exponent⟩
  | false, false => none

/-- The shortest decimal that reads back as the magnitude. -/
def shortest (m : Magnitude) : Decimal :=
  let order := m.decimalOrder
  ((List.range 18).findSome? fun (n : Nat) => m.onGrid? (order - n)).getD
    ⟨m.units * tenTo 1074 / unitsPerOne, -1074⟩

end Magnitude

/-- A minus sign for a negative number. -/
def signText (negative : Bool) : Text := if negative then ['-'] else []

/-- The text of a number that is not finite. -/
def infiniteText (negative : Bool) : Text := signText negative ++ "inf".toList

/-- The text of a NaN has no sign. -/
def nanText : Text := "NaN".toList

/-- The number in its shortest digits, never with an exponent. -/
def Binary64.toText : Binary64 → Text
  | nan => nanText
  | infinite negative => infiniteText negative
  | finite negative m =>
    signText negative ++ if m.significand = 0 then ['0'] else m.shortest.toText

end Placeholders.Number

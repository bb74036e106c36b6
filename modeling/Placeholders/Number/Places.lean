/-
A number with a fixed count of decimal places: its exact value, rounded once,
a half to the even neighbour.
-/
import Placeholders.Number.Shortest

namespace Placeholders.Number

/-- The magnitude in steps of `10 ^ (-places)`, rounded. -/
def Magnitude.inPlaces (m : Magnitude) (places : Nat) : Nat :=
  roundQuotient (m.units * tenTo places) unitsPerOne

/-- The number with exactly so many decimal places; the sign stays, also before a zero. -/
def Binary64.toPlaces (places : Nat) : Binary64 → Text
  | nan => nanText
  | infinite negative => infiniteText negative
  | finite negative m => signText negative ++ fixedPoint (m.inPlaces places) places

end Placeholders.Number

/-
Reading integers: an optional sign, then decimal digits. The signed 64-bit
range is checked on the value, so leading zeros count for nothing.
-/
import Placeholders.Text.Basic

namespace Placeholders.Number

/-- The greatest signed 64-bit number. -/
def maxInt64 : Int := 9223372036854775807

/-- The least signed 64-bit number. -/
def minInt64 : Int := -9223372036854775808

/-- Splits off a sign; a minus sign gives true. -/
def signOf : Text → Bool × Text
  | '-' :: r => (true, r)
  | '+' :: r => (false, r)
  | r => (false, r)

/-- The integer that a text writes, of any size. -/
def readInt? (t : Text) : Option Int :=
  let (negative, digits) := signOf t
  if Text.isDigits digits then
    some (if negative then -(Text.digitsValue digits) else Text.digitsValue digits)
  else none

/-- The integer that a text writes, when it fits 64 bits. -/
def readInt64? (t : Text) : Option Int :=
  (readInt? t).filter fun n => minInt64 ≤ n ∧ n ≤ maxInt64

end Placeholders.Number

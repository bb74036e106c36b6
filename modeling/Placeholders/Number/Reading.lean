/-
Reading floating point numbers: an optional sign; digits with an optional point
on either side, at least one digit; an optional exponent. The words for infinity
and for a NaN may have any case. The result is the number nearest to the exact
decimal value, so no digit is lost before the one rounding.
-/
import Placeholders.Number.Binary64
import Placeholders.Number.Decimal
import Placeholders.Number.Integer

namespace Placeholders.Number

/-- The number nearest to `digits * 10 ^ exponent`. Values at or above `10 ^ 400`
are infinite and values below `10 ^ (-400)` are zero whatever their digits, so
the powers of ten computed here stay small. -/
def ofDecimal (negative : Bool) (digits : Nat) (exponent : Int) : Binary64 :=
  if digits = 0 then .zero negative
  else
    let places : Int := (Text.ofNat digits).length
    if 400 < places + exponent then .infinite negative
    else if places + exponent < -400 then .zero negative
    else if 0 ≤ exponent then .nearest negative (digits * tenTo exponent.toNat) 1
    else .nearest negative digits (tenTo (-exponent).toNat)

/-- An exponent part: nothing, or `e` with an optional sign and digits. -/
def readExponent? : Text → Option Int
  | [] => some 0
  | c :: r => if c == 'e' || c == 'E' then readInt? r else none

/-- A decimal without its sign. -/
def readDecimal? (negative : Bool) (t : Text) : Option Binary64 :=
  let whole := t.takeWhile Char.isDigit
  let afterWhole := t.dropWhile Char.isDigit
  let (fraction, rest) :=
    match afterWhole with
    | '.' :: r => (r.takeWhile Char.isDigit, r.dropWhile Char.isDigit)
    | r => ([], r)
  if whole.isEmpty && fraction.isEmpty then none
  else
    (readExponent? rest).map fun exponent =>
      ofDecimal negative (Text.digitsValue (whole ++ fraction)) (exponent - fraction.length)

/-- The number that a text writes. -/
def readBinary64? (t : Text) : Option Binary64 :=
  let (negative, r) := signOf t
  let word := Text.asciiLower r
  if word == "inf".toList || word == "infinity".toList then some (.infinite negative)
  else if word == "nan".toList then some .nan
  else readDecimal? negative r

end Placeholders.Number

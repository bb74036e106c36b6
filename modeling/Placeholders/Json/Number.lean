/-
JSON numbers. A numeral without point and exponent that fits 64 bits is a whole
number; all other numerals are floats, and so is minus zero. The digits of a float
are gathered in a 64-bit significand: the first digit that does not fit and those
after it only count by their places. The significand is then scaled by a power of
ten in binary arithmetic, and a number out of range is refused.
-/
import Placeholders.Json.Value
import Placeholders.Number.Integer
import Placeholders.Number.Scaling

namespace Placeholders.Json
open Number (Binary64 Magnitude)

/-- The greatest significand. -/
def maxSignificand : Nat := 18446744073709551615

/-- The greatest exponent that is not out of range by itself. -/
def maxExponent : Nat := 2147483647

/-- Gathers digits as long as they fit: the significand, the number of digits
gathered, and what follows. -/
def gatherDigits (significand gathered : Nat) : Text → Nat × Nat × Text
  | [] => (significand, gathered, [])
  | c :: r =>
    let next := significand * 10 + (c.toNat - '0'.toNat)
    if c.isDigit && next ≤ maxSignificand then gatherDigits next (gathered + 1) r
    else (significand, gathered, c :: r)

/-- A float from its sign, significand and power of ten. -/
def floatOf? (negative : Bool) (significand : Nat) (exponent : Int) : Option Json :=
  ((Magnitude.ofNat? significand).bind (·.scale? exponent)).map fun m =>
    .float (.finite negative m)

/-- The exponent part, after its letter. An exponent too large to be held is out of
range, or makes the number zero. -/
def readExponent? (negative : Bool) (significand : Nat) (exponent : Int) (t : Text) :
    Option (Json × Text) :=
  let (minus, afterSign) := Number.signOf t
  let digits := afterSign.takeWhile Char.isDigit
  let rest := afterSign.dropWhile Char.isDigit
  let power := Text.digitsValue digits
  if digits.isEmpty then none
  else if maxExponent < power then
    if significand = 0 || minus then some (.float (.zero negative), rest) else none
  else
    let final : Int := if minus then exponent - power else exponent + power
    (floatOf? negative significand final).map (·, rest)

/-- What may follow the digits of a float: an exponent part. -/
def readFloatEnd? (negative : Bool) (significand : Nat) (exponent : Int) (t : Text) :
    Option (Json × Text) :=
  match t with
  | c :: r =>
    if c = 'e' || c = 'E' then readExponent? negative significand exponent r
    else (floatOf? negative significand exponent).map (·, t)
  | [] => (floatOf? negative significand exponent).map (·, [])

/-- The digits after a point, of which there is at least one. -/
def readFraction? (negative : Bool) (significand : Nat) (exponent : Int) (t : Text) :
    Option (Json × Text) :=
  let (significand, gathered, rest) := gatherDigits significand 0 t
  let afterDigits := rest.dropWhile Char.isDigit
  if afterDigits.length = t.length then none
  else readFloatEnd? negative significand (exponent - gathered) afterDigits

/-- The whole number of a numeral without point and exponent. -/
def wholeOf (negative : Bool) (significand : Nat) : Option Json :=
  if negative then
    if significand = 0 || Number.maxInt64 + 1 < significand then floatOf? true significand 0
    else some (.integer (-significand))
  else some (.integer significand)

/-- A number at the front of a text. -/
def readNumber? (t : Text) : Option (Json × Text) :=
  let (negative, t) : Bool × Text :=
    match t with
    | '-' :: r => (true, r)
    | _ => (false, t)
  match t with
  | [] => none
  | c :: r =>
    if !c.isDigit then none
    else if c = '0' && (r.head?.any Char.isDigit) then none
    else
      let (significand, _, rest) := gatherDigits 0 0 t
      let afterDigits := rest.dropWhile Char.isDigit
      let dropped := rest.length - afterDigits.length
      match afterDigits with
      | '.' :: r => readFraction? negative significand dropped r
      | _ =>
        if dropped = 0 && !(afterDigits.head?.any fun c => c = 'e' || c = 'E') then
          (wholeOf negative significand).map (·, afterDigits)
        else readFloatEnd? negative significand dropped afterDigits

end Placeholders.Json

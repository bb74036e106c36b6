/-
Texts are lists of characters, so that every function on them is a plain
recursion that a proof can follow. Decimal numerals and the cut at a first
separator are here because every layer writes or reads them.
-/
namespace Placeholders

/-- A text, character by character. -/
abbrev Text := List Char

namespace Text

/-- The parts before and after the first `c`, when there is one. -/
def cutAt (c : Char) (t : Text) : Option (Text × Text) :=
  if t.contains c then some (t.takeWhile (· != c), (t.dropWhile (· != c)).tail) else none

/-- The decimal numeral of a natural number. -/
def ofNat (n : Nat) : Text := Nat.toDigits 10 n

/-- The decimal numeral of an integer, with a minus sign when it is negative. -/
def ofInt : Int → Text
  | .ofNat n => ofNat n
  | .negSucc n => '-' :: ofNat (n + 1)

/-- How many bytes the text takes in UTF-8. -/
def byteLength (t : Text) : Nat := t.foldr (fun c n => c.utf8Size + n) 0

/-- The truth values are written in lower case. -/
def ofBool (b : Bool) : Text := if b then "true".toList else "false".toList

/-- Are these decimal digits of ASCII, at least one? -/
def isDigits (t : Text) : Bool := !t.isEmpty && t.all Char.isDigit

/-- The number that a run of decimal digits writes. -/
def digitsValue (t : Text) : Nat := Nat.ofDigitChars 10 t 0

/-- The lower case of the ASCII letters; all else is kept. -/
def asciiLower (t : Text) : Text := t.map Char.toLower

/-- The value of a hexadecimal digit. -/
def hexDigit? (c : Char) : Option Nat :=
  if c.isDigit then some (c.toNat - '0'.toNat)
  else if 'a' ≤ c ∧ c ≤ 'f' then some (c.toNat - 'a'.toNat + 10)
  else if 'A' ≤ c ∧ c ≤ 'F' then some (c.toNat - 'A'.toNat + 10)
  else none

end Text
end Placeholders

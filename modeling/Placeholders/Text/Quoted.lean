/-
Quoted texts for listings: in double quotes, with short escapes for the common
control characters and a hexadecimal escape for all that does not show by itself.
-/
import Placeholders.Text.Basic
import Placeholders.Text.Printable

namespace Placeholders.Text

/-- A code point in lower case hexadecimal digits. -/
def hexOf (n : Nat) : Text := Nat.toDigits 16 n

/-- A character inside a quoted text. -/
def escaped (c : Char) : Text :=
  if c.toNat = 0 then ['\\', '0']
  else if c = '\t' then ['\\', 't']
  else if c = '\r' then ['\\', 'r']
  else if c = '\n' then ['\\', 'n']
  else if c = '\x22' then ['\\', '\x22']
  else if c = '\\' then ['\\', '\\']
  else if isGraphemeExtend c || !isPrintable c then '\\' :: 'u' :: '{' :: (hexOf c.toNat ++ ['}'])
  else [c]

/-- The text in double quotes. -/
def quoted (t : Text) : Text := '\x22' :: (t.flatMap escaped ++ ['\x22'])

end Placeholders.Text

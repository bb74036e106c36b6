/-
JSON values and their writing, on one line or indented. The fields of an object
keep their order.
-/
import Placeholders.Number.Shortest

namespace Placeholders
open Number (Binary64)

/-- A JSON value; whole numbers and floating point numbers are kept apart. -/
inductive Json
  | null
  | bool (b : Bool)
  | integer (n : Int)
  | float (x : Binary64)
  | string (t : Text)
  | array (items : List Json)
  | object (fields : List (Text × Json))

namespace Json

/-- Four lower case hexadecimal digits. -/
def hex4 (n : Nat) : Text :=
  let digits := Nat.toDigits 16 n
  List.replicate (4 - digits.length) '0' ++ digits

/-- A character inside a JSON string: quote, backslash and control characters are escaped. -/
def escaped (c : Char) : Text :=
  if c = '\x22' then ['\\', '\x22']
  else if c = '\\' then ['\\', '\\']
  else if c = '\x08' then ['\\', 'b']
  else if c = '\x0c' then ['\\', 'f']
  else if c = '\n' then ['\\', 'n']
  else if c = '\r' then ['\\', 'r']
  else if c = '\t' then ['\\', 't']
  else if c.toNat < 0x20 then '\\' :: 'u' :: hex4 c.toNat
  else [c]

/-- A JSON string. -/
def quote (t : Text) : Text := '\x22' :: (t.flatMap escaped ++ ['\x22'])

mutual

/-- A value on one line, without blanks. -/
def compact : Json → Text
  | null => "null".toList
  | bool b => Text.ofBool b
  | integer n => Text.ofInt n
  | float x => x.toText
  | string t => quote t
  | array items => '[' :: (compactItems items ++ [']'])
  | object fields => '{' :: (compactFields fields ++ ['}'])

/-- Items with commas between them. -/
def compactItems : List Json → Text
  | [] => []
  | [v] => v.compact
  | v :: vs => v.compact ++ ',' :: compactItems vs

/-- Fields with commas between them. -/
def compactFields : List (Text × Json) → Text
  | [] => []
  | [(key, v)] => quote key ++ ':' :: v.compact
  | (key, v) :: fs => quote key ++ ':' :: (v.compact ++ ',' :: compactFields fs)

end

/-- A new line at a depth of nesting, two blanks for each level. -/
def newLine (depth : Nat) : Text := '\n' :: List.replicate (2 * depth) ' '

mutual

/-- A value at a depth of nesting, each item on a line of its own. -/
def prettyAt (depth : Nat) : Json → Text
  | null => "null".toList
  | bool b => Text.ofBool b
  | integer n => Text.ofInt n
  | float x => x.toText
  | string t => quote t
  | array items =>
    '[' :: (prettyItems (depth + 1) items ++ (if items.isEmpty then [] else newLine depth) ++ [']'])
  | object fields =>
    '{' :: (prettyFields (depth + 1) fields ++ (if fields.isEmpty then [] else newLine depth)
      ++ ['}'])

/-- Each item on a new line, with commas between them. -/
def prettyItems (depth : Nat) : List Json → Text
  | [] => []
  | [v] => newLine depth ++ v.prettyAt depth
  | v :: vs => newLine depth ++ v.prettyAt depth ++ ',' :: prettyItems depth vs

/-- Each field on a new line, with commas between them. -/
def prettyFields (depth : Nat) : List (Text × Json) → Text
  | [] => []
  | [(key, v)] => newLine depth ++ quote key ++ ": ".toList ++ v.prettyAt depth
  | (key, v) :: fs =>
    newLine depth ++ quote key ++ ": ".toList ++ v.prettyAt depth ++ ',' :: prettyFields depth fs

end

/-- A value with each item on a line of its own. -/
def pretty (v : Json) : Text := v.prettyAt 0

end Json
end Placeholders

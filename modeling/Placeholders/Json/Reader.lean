/-
Reading JSON: one value, with blanks around it and nothing else. Control
characters do not stand in strings, an escape gives a code point, and a
surrogate stands only in a pair.
-/
import Placeholders.Json.Number

namespace Placeholders.Json

/-- The four blanks of JSON. -/
def isBlank (c : Char) : Bool := c = ' ' || c = '\n' || c = '\t' || c = '\r'

/-- The text without its leading blanks. -/
def skipBlanks (t : Text) : Text := t.dropWhile isBlank

/-- Four hexadecimal digits at the front. -/
def readHex4? : Text → Option (Nat × Text)
  | a :: b :: c :: d :: r => do
    let a ← Text.hexDigit? a
    let b ← Text.hexDigit? b
    let c ← Text.hexDigit? c
    let d ← Text.hexDigit? d
    return (((a * 16 + b) * 16 + c) * 16 + d, r)
  | _ => none

/-- The character of an escape with hexadecimal digits; a pair of surrogates is one character. -/
def readCodePoint? (t : Text) : Option (Char × Text) := do
  let (n, r) ← readHex4? t
  if 0xdc00 ≤ n ∧ n ≤ 0xdfff then none
  else if 0xd800 ≤ n ∧ n ≤ 0xdbff then
    match r with
    | '\\' :: 'u' :: r =>
      let (m, r) ← readHex4? r
      if 0xdc00 ≤ m ∧ m ≤ 0xdfff then
        return (Char.ofNat (0x10000 + (n - 0xd800) * 0x400 + (m - 0xdc00)), r)
      else none
    | _ => none
  else return (Char.ofNat n, r)

/-- The character that a one-letter escape stands for. -/
def shortEscape? (c : Char) : Option Char :=
  if c = '\x22' || c = '\\' || c = '/' then some c
  else if c = 'b' then some '\x08'
  else if c = 'f' then some '\x0c'
  else if c = 'n' then some '\n'
  else if c = 'r' then some '\r'
  else if c = 't' then some '\t'
  else none

/-- The rest of a string after what was read of it, which is held in reverse. -/
def readString? (fuel : Nat) (before : Text) (t : Text) : Option (Text × Text) :=
  match fuel, t with
  | 0, _ | _, [] => none
  | fuel + 1, '\\' :: 'u' :: r =>
    (readCodePoint? r).bind fun (c, r) => readString? fuel (c :: before) r
  | fuel + 1, '\\' :: c :: r =>
    (shortEscape? c).bind fun c => readString? fuel (c :: before) r
  | fuel + 1, c :: r =>
    if c = '\x22' then some (before.reverse, r)
    else if c = '\\' || c.toNat < 0x20 then none
    else readString? fuel (c :: before) r

/-- A word at the front that stands for a value. -/
def readWord? (t : Text) : Option (Json × Text) :=
  [("null".toList, null), ("true".toList, bool true), ("false".toList, bool false)].findSome?
    fun (word, v) => if word.isPrefixOf t then some (v, t.drop word.length) else none

mutual

/-- A value at the front, after blanks. Each step uses up fuel and at least one character. -/
def readValue? (fuel : Nat) (t : Text) : Option (Json × Text) :=
  match fuel with
  | 0 => none
  | fuel + 1 =>
    match skipBlanks t with
    | '\x22' :: r => (readString? (r.length + 1) [] r).map fun (s, r) => (string s, r)
    | '[' :: r =>
      match skipBlanks r with
      | ']' :: r => some (array [], r)
      | r => (readItems? fuel [] r).map fun (vs, r) => (array vs, r)
    | '{' :: r =>
      match skipBlanks r with
      | '}' :: r => some (object [], r)
      | r => (readFields? fuel [] r).map fun (fs, r) => (object fs, r)
    | t => (readWord? t).or (readNumber? t)

/-- Items up to the closing bracket, after those before, which are held in reverse. -/
def readItems? (fuel : Nat) (before : List Json) (t : Text) : Option (List Json × Text) :=
  match fuel with
  | 0 => none
  | fuel + 1 =>
    (readValue? fuel t).bind fun (v, r) =>
      match skipBlanks r with
      | ',' :: r => readItems? fuel (v :: before) r
      | ']' :: r => some ((v :: before).reverse, r)
      | _ => none

/-- Fields up to the closing brace, after those before, which are held in reverse. -/
def readFields? (fuel : Nat) (before : List (Text × Json)) (t : Text) :
    Option (List (Text × Json) × Text) :=
  match fuel with
  | 0 => none
  | fuel + 1 =>
    match skipBlanks t with
    | '\x22' :: r =>
      (readString? (r.length + 1) [] r).bind fun (key, r) =>
        match skipBlanks r with
        | ':' :: r =>
          (readValue? fuel r).bind fun (v, r) =>
            match skipBlanks r with
            | ',' :: r => readFields? fuel ((key, v) :: before) r
            | '}' :: r => some (((key, v) :: before).reverse, r)
            | _ => none
        | _ => none
    | _ => none

end

/-- The value that a text writes. -/
def read? (t : Text) : Option Json :=
  (readValue? (2 * t.length + 2) t).bind fun (v, r) => if (skipBlanks r).isEmpty then some v else none

end Placeholders.Json

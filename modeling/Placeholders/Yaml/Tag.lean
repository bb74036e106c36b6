/-
Anchors, tags and directives. A tag is a handle and a suffix; a directive gives a
handle its meaning for one document. A suffix is a row of bytes, since its escapes
need not encode a text, and it ends at a byte of zero.
-/
import Placeholders.Text.Utf8
import Placeholders.Yaml.Cursor

namespace Placeholders.Yaml

/-- The characters that may follow an anchor name besides gaps. -/
def endsAnchor (x : Char) : Bool := ['?', ':', ',', ']', '}', '%', '@', '\x60'].contains x

/-- The name of an anchor or alias, after its indicator. -/
def readAnchor? (c : Cursor) : Option (Text × Cursor) :=
  let name := c.rest.takeWhile isWord
  let c := c.advance name.length
  if name.isEmpty || !(c.gapAt 0 || (c.peek 0).any endsAnchor) then none else some (name, c)

/-- May the character stand in the suffix of a tag? Between angle brackets and in
directives the flow indicators may too. -/
def isTagCharacter (wide : Bool) (x : Char) : Bool :=
  isWord x
    || [';', '/', '?', ':', '@', '&', '=', '+', '$', '.', '!', '~', '*', '\x27', '(', ')'].contains x
    || (wide && [',', '[', ']'].contains x)

/-- How many bytes the first byte of a character says will follow. -/
def followingOf? (b : UInt8) : Option Nat :=
  if b < 0x80 then some 0
  else if b < 0xc0 then none
  else if b < 0xe0 then some 1
  else if b < 0xf0 then some 2
  else if b < 0xf8 then some 3
  else none

/-- The byte of an escape: a percent sign and two hexadecimal digits. -/
def readEscapedByte? (c : Cursor) : Option (UInt8 × Cursor) :=
  match c.rest with
  | '%' :: a :: b :: _ => do
    let n := (← Text.hexDigit? a) * 16 + (← Text.hexDigit? b)
    return (UInt8.ofNat n, c.advance 3)
  | _ => none

/-- So many escaped bytes that continue a character. -/
def readFollowing? : Nat → Cursor → Option (List UInt8 × Cursor)
  | 0, c => some ([], c)
  | count + 1, c => do
    let (b, c) ← readEscapedByte? c
    if b < 0x80 || 0xc0 ≤ b then none
    let (rest, c) ← readFollowing? count c
    return (b :: rest, c)

/-- The escaped bytes of one character. Their number is checked, not what they encode. -/
def readEscaped? (c : Cursor) : Option (List UInt8 × Cursor) := do
  let (b, c) ← readEscapedByte? c
  let (rest, c) ← readFollowing? (← followingOf? b) c
  return (b :: rest, c)

/-- Reads the suffix of a tag, with the bytes before it in reverse. -/
def readSuffix? (fuel : Nat) (wide : Bool) (before : List UInt8) (c : Cursor) :
    Option (List UInt8 × Cursor) :=
  match fuel, c.rest with
  | 0, _ => none
  | _, [] => some (before.reverse, c)
  | fuel + 1, x :: _ =>
    if x = '%' then do
      let (bytes, c) ← readEscaped? c
      readSuffix? fuel wide (bytes.reverse ++ before) c
    else if isTagCharacter wide x then
      readSuffix? fuel wide ((Text.utf8 [x]).reverse ++ before) (c.advance 1)
    else some (before.reverse, c)

/-- The bytes before the first byte of zero. -/
def beforeZero (bytes : List UInt8) : List UInt8 := bytes.takeWhile (· != 0)

/-- A suffix that is written with at least one byte. -/
def readFullSuffix? (wide : Bool) (c : Cursor) : Option (List UInt8 × Cursor) := do
  let (suffix, c) ← readSuffix? (c.rest.length + 1) wide [] c
  if suffix.isEmpty then none else return (beforeZero suffix, c)

/-- A handle: an exclamation mark, a name and, if it is there, a second mark. -/
def readHandle? (c : Cursor) : Option (Text × Cursor) :=
  if c.sees '!' then
    let name := (c.rest.drop 1).takeWhile isWord
    let c := c.advance (name.length + 1)
    if c.sees '!' then some ('!' :: (name ++ ['!']), c.advance 1) else some ('!' :: name, c)
  else none

/-- Has the handle a mark at either end? -/
def isFullHandle (handle : Text) : Bool := 1 < handle.length && handle.getLast? == some '!'

/-- The lone mark as a suffix. -/
def loneMark : List UInt8 := Text.utf8 ['!']

/-- A tag as handle and suffix. A verbatim tag, and the lone mark, have an empty handle. -/
def readTag? (inFlow : Bool) (c : Cursor) : Option (Text × List UInt8 × Cursor) := do
  let (handle, suffix, c) ←
    if c.peek 1 == some '<' then do
      let (suffix, c) ← readFullSuffix? true (c.advance 2)
      if c.sees '>' then pure (([] : Text), suffix, c.advance 1) else none
    else do
      let (handle, c) ← readHandle? c
      if isFullHandle handle then
        let (suffix, c) ← readFullSuffix? false c
        pure (handle, suffix, c)
      else
        let (suffix, c) ← readSuffix? (c.rest.length + 1) false (Text.utf8 handle.tail).reverse c
        let suffix := beforeZero suffix
        pure (if suffix.isEmpty then ([], loneMark, c) else (['!'], suffix, c))
  if c.gapAt 0 || (inFlow && c.sees ',') then return (handle, suffix, c) else none

/-- What a directive says. -/
inductive Directive
  | version (major minor : Nat)
  | tag (handle : Text) (start : List UInt8)
deriving DecidableEq, Repr

/-- A version number of at most nine digits. -/
def readVersionNumber? (c : Cursor) : Option (Nat × Cursor) :=
  let digits := c.rest.takeWhile Char.isDigit
  if digits.isEmpty || 9 < digits.length then none
  else some (Text.digitsValue digits, c.advance digits.length)

/-- A directive, after its percent sign, to the end of its line. -/
def readDirective? (c : Cursor) : Option (Directive × Cursor) := do
  let name := c.rest.takeWhile isWord
  let c := c.advance name.length
  if name.isEmpty || !c.gapAt 0 then none
  let c := c.skipWhile isBlank
  let (directive, c) ←
    if name == "YAML".toList then do
      let (major, c) ← readVersionNumber? c
      if !c.sees '.' then none
      let (minor, c) ← readVersionNumber? (c.advance 1)
      pure (Directive.version major minor, c)
    else if name == "TAG".toList then do
      let (handle, c) ← readHandle? c
      if !(isFullHandle handle || handle == ['!']) || !c.blankAt 0 then none
      let (start, c) ← readFullSuffix? true (c.skipWhile isBlank)
      if !c.gapAt 0 then none
      pure (Directive.tag handle start, c)
    else none
  let c ← c.endLine?
  return (directive, c)

end Placeholders.Yaml

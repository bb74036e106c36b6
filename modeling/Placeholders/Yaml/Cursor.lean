/-
A place in a YAML text: what follows it, and where it is. The line and the column
decide how blocks nest, and the count of bytes before it how long a key may be.
-/
import Placeholders.Text.Basic

namespace Placeholders.Yaml

/-- A place in a text. -/
structure Cursor where
  rest : Text
  index : Nat := 0
  line : Nat := 0
  column : Nat := 0

/-- A space or a tab. -/
def isBlank (c : Char) : Bool := c = ' ' || c = '\t'

/-- The characters that end a line. -/
def isBreak (c : Char) : Bool :=
  c = '\n' || c = '\r' || c.toNat = 0x85 || c.toNat = 0x2028 || c.toNat = 0x2029

/-- A character of names: an ASCII letter or digit, a hyphen or an underscore. -/
def isWord (c : Char) : Bool := c.isAlphanum || c = '-' || c = '_'

/-- The byte order mark. -/
def isByteOrderMark (c : Char) : Bool := c.toNat = 0xfeff

/-- May the character stand in a YAML text? Control characters may not, apart from
the tab and the line breaks. -/
def isAllowed (c : Char) : Bool :=
  let n := c.toNat
  n = 0x9 || n = 0xa || n = 0xd || (0x20 ≤ n && n ≤ 0x7e) || n = 0x85 || (0xa0 ≤ n && n ≤ 0xfffd)
    || 0x10000 ≤ n

namespace Cursor

/-- The character at some distance. -/
def peek (c : Cursor) (distance : Nat) : Option Char := c.rest[distance]?

/-- Is this character next? -/
def sees (c : Cursor) (x : Char) : Bool := c.peek 0 == some x

/-- Is the character at some distance a blank? -/
def blankAt (c : Cursor) (distance : Nat) : Bool := (c.peek distance).any isBlank

/-- Is there a line break at some distance? -/
def breakAt (c : Cursor) (distance : Nat) : Bool := (c.peek distance).any isBreak

/-- Is there a line break or the end of the text at some distance? -/
def lineEndAt (c : Cursor) (distance : Nat) : Bool :=
  match c.peek distance with
  | none => true
  | some x => isBreak x

/-- Is there a blank, a line break or the end of the text at some distance? -/
def gapAt (c : Cursor) (distance : Nat) : Bool := c.blankAt distance || c.lineEndAt distance

/-- Moves past characters of the same line. -/
def advance (c : Cursor) (count : Nat) : Cursor :=
  ⟨c.rest.drop count, c.index + Text.byteLength (c.rest.take count), c.line, c.column + count⟩

/-- Moves past a line break; a carriage return and a line feed are one break. -/
def nextLine (c : Cursor) : Cursor :=
  let size := match c.rest with
    | '\r' :: '\n' :: _ => 2
    | _ => 1
  ⟨c.rest.drop size, c.index + Text.byteLength (c.rest.take size), c.line + 1, 0⟩

/-- How the line break here is kept: as a line feed, if it is not one of the two
Unicode separators. -/
def breakText (c : Cursor) : Text :=
  match c.peek 0 with
  | some x => if x.toNat = 0x2028 || x.toNat = 0x2029 then [x] else ['\n']
  | none => []

/-- Moves past the characters of this line that have a property. -/
def skipWhile (c : Cursor) (p : Char → Bool) : Cursor := c.advance (c.rest.takeWhile p).length

/-- Moves to the end of the line. -/
def skipLineText (c : Cursor) : Cursor := c.skipWhile fun x => !isBreak x

/-- Does a marker of three equal characters stand here, at the start of a line? -/
def atMarker (c : Cursor) (x : Char) : Bool :=
  c.column = 0 && c.rest.take 3 == [x, x, x] && c.gapAt 3

/-- Does a document start or end here? -/
def atDocumentMarker (c : Cursor) : Bool := c.atMarker '-' || c.atMarker '.'

/-- Moves past blanks and a comment to the end of the line and past the line break;
nothing else may stand there. -/
def endLine? (c : Cursor) : Option Cursor :=
  let c := c.skipWhile isBlank
  let c := if c.sees '#' then c.skipLineText else c
  if !c.lineEndAt 0 then none else some (if c.breakAt 0 then c.nextLine else c)

end Cursor
end Placeholders.Yaml

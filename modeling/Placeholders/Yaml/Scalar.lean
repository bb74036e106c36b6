/-
The three kinds of scalar texts: plain, quoted and block. A line break between
the words of a plain or quoted scalar is folded to a space, and further breaks
are kept; a block scalar keeps or folds its lines and trims its end as its header
says. Each reader gives the text and the place after it, and fails on a text that
cannot be completed.
-/
import Placeholders.Yaml.Cursor

namespace Placeholders.Yaml

/-- How a scalar is written. -/
inductive Style
  | plain
  | singleQuoted
  | doubleQuoted
  | literal
  | folded
deriving DecidableEq, Repr

/-- What stands between two words: blanks of one line, or line breaks. -/
structure Gap where
  blanks : Text := []
  firstBreak : Text := []
  moreBreaks : Text := []
  broken : Bool := false

namespace Gap

/-- The text that a gap stands for. -/
def toText (g : Gap) : Text :=
  if !g.broken then g.blanks
  else if g.firstBreak == ['\n'] then (if g.moreBreaks.isEmpty then [' '] else g.moreBreaks)
  else g.firstBreak ++ g.moreBreaks

/-- Reads a gap on. Before the column `tabLimit` of a continued line there is no tab. -/
def read? (fuel : Nat) (tabLimit : Int) (g : Gap) (c : Cursor) : Option (Gap × Cursor) :=
  match fuel with
  | 0 => none
  | fuel + 1 =>
    if c.blankAt 0 then
      if g.broken then
        if c.column < tabLimit && c.sees '\t' then none
        else read? fuel tabLimit g (c.advance 1)
      else read? fuel tabLimit { g with blanks := g.blanks ++ c.rest.take 1 } (c.advance 1)
    else if c.breakAt 0 then
      if g.broken then
        read? fuel tabLimit { g with moreBreaks := g.moreBreaks ++ c.breakText } c.nextLine
      else
        read? fuel tabLimit { blanks := [], firstBreak := c.breakText, broken := true } c.nextLine
    else some (g, c)

end Gap

/-- Does a plain scalar end before the character here? -/
def endsPlain (inFlow : Bool) (c : Cursor) : Bool :=
  (c.sees ':' && c.gapAt 1)
    || (inFlow && (c.peek 0).any fun x => [',', '[', ']', '{', '}'].contains x)

/-- A colon that touches an indicator inside a flow collection is an error. -/
def hasStrayColon (inFlow : Bool) (c : Cursor) : Bool :=
  inFlow && c.sees ':' && (c.peek 1).any fun x => [',', '?', '[', ']', '{', '}'].contains x

/-- Reads a word of a plain scalar up to a gap or an indicator; the text before is
held in reverse. -/
def readPlainWord? (fuel : Nat) (inFlow : Bool) (before : Text) (c : Cursor) :
    Option (Text × Cursor) :=
  match fuel, c.rest with
  | 0, _ => none
  | _, [] => some (before, c)
  | fuel + 1, x :: _ =>
    if c.gapAt 0 then some (before, c)
    else if hasStrayColon inFlow c then none
    else if endsPlain inFlow c then some (before, c)
    else readPlainWord? fuel inFlow (x :: before) (c.advance 1)

/-- Reads the words of a plain scalar, with a gap before the next one. The result
tells also whether the gap after the scalar holds a line break. -/
def readPlainFrom? (fuel : Nat) (inFlow : Bool) (indent : Int) (before : Text) (gap : Gap)
    (c : Cursor) : Option (Text × Bool × Cursor) :=
  match fuel with
  | 0 => none
  | fuel + 1 =>
    if c.atDocumentMarker || c.sees '#' then some (before.reverse, gap.broken, c)
    else do
      let (word, c') ← readPlainWord? (c.rest.length + 1) inFlow [] c
      let before' := if word.isEmpty then before else word ++ gap.toText.reverse ++ before
      let gap' := if word.isEmpty then gap else {}
      if !(c'.blankAt 0 || c'.breakAt 0) then return (before'.reverse, gap'.broken, c')
      else
        let (gap'', c'') ← gap'.read? (c'.rest.length + 1) indent c'
        if !inFlow && c''.column < indent then return (before'.reverse, gap''.broken, c'')
        else readPlainFrom? fuel inFlow indent before' gap'' c''

/-- Reads a plain scalar whose lines are indented at least so far. -/
def readPlain? (inFlow : Bool) (indent : Int) (c : Cursor) : Option (Text × Bool × Cursor) :=
  readPlainFrom? (c.rest.length + 1) inFlow indent [] {} c

/-- The character of a one-letter escape in double quotes. -/
def escapeOf? (x : Char) : Option Char :=
  match x with
  | '0' => some (Char.ofNat 0)
  | 'a' => some '\x07'
  | 'b' => some '\x08'
  | 't' | '\t' => some '\t'
  | 'n' => some '\n'
  | 'v' => some '\x0b'
  | 'f' => some '\x0c'
  | 'r' => some '\r'
  | 'e' => some '\x1b'
  | ' ' | '/' | '\\' => some x
  | 'N' => some (Char.ofNat 0x85)
  | '_' => some (Char.ofNat 0xa0)
  | 'L' => some (Char.ofNat 0x2028)
  | 'P' => some (Char.ofNat 0x2029)
  | _ => if x = '\x22' then some x else none

/-- The number of hexadecimal digits after an escape letter. -/
def hexEscapeSize? (x : Char) : Option Nat :=
  match x with
  | 'x' => some 2
  | 'u' => some 4
  | 'U' => some 8
  | _ => none

/-- The number that hexadecimal digits write; as many as asked for have to be there. -/
def hexValue? (size : Nat) (t : Text) : Option Nat :=
  let digits := t.take size
  if digits.length = size then
    digits.foldlM (fun n d => (Text.hexDigit? d).map (n * 16 + ·)) 0
  else none

/-- Reads an escape in double quotes, after its backslash. -/
def readEscape? (c : Cursor) : Option (Char × Cursor) :=
  match c.rest with
  | [] => none
  | x :: r =>
    match hexEscapeSize? x with
    | none => (escapeOf? x).map (·, c.advance 1)
    | some size =>
      (hexValue? size r).bind fun n =>
        if (0xd800 ≤ n && n ≤ 0xdfff) || 0x10ffff < n then none
        else some (Char.ofNat n, c.advance (size + 1))

/-- Reads a word of a quoted scalar, with the text before in reverse. The result
tells also whether a backslash has taken a line break away. -/
def readQuotedWord? (fuel : Nat) (single : Bool) (before : Text) (c : Cursor) :
    Option (Text × Bool × Cursor) :=
  match fuel, c.rest with
  | 0, _ => none
  | _, [] => some (before, false, c)
  | fuel + 1, x :: _ =>
    if c.gapAt 0 then some (before, false, c)
    else if single then
      if x = '\x27' then
        if c.peek 1 == some x then readQuotedWord? fuel single (x :: before) (c.advance 2)
        else some (before, false, c)
      else readQuotedWord? fuel single (x :: before) (c.advance 1)
    else if x = '\x22' then some (before, false, c)
    else if x = '\\' then
      if c.breakAt 1 then some (before, true, (c.advance 1).nextLine)
      else
        (readEscape? (c.advance 1)).bind fun (y, c) => readQuotedWord? fuel single (y :: before) c
    else readQuotedWord? fuel single (x :: before) (c.advance 1)

/-- Reads the words of a quoted scalar up to its closing mark. -/
def readQuotedFrom? (fuel : Nat) (single : Bool) (before : Text) (c : Cursor) :
    Option (Text × Cursor) :=
  match fuel with
  | 0 => none
  | fuel + 1 =>
    if c.atDocumentMarker || c.rest.isEmpty then none
    else do
      let (before, joined, c) ← readQuotedWord? (c.rest.length + 1) single before c
      if c.sees (if single then '\x27' else '\x22') then return (before.reverse, c.advance 1)
      else
        let (gap, c) ← Gap.read? (c.rest.length + 1) 0 { broken := joined } c
        readQuotedFrom? fuel single (gap.toText.reverse ++ before) c

/-- Reads a quoted scalar, after its opening mark. -/
def readQuoted? (single : Bool) (c : Cursor) : Option (Text × Cursor) :=
  readQuotedFrom? (c.rest.length + 1) single [] c

/-- What becomes of the line breaks at the end of a block scalar. -/
inductive Chomping
  | strip
  | clip
  | keep
deriving DecidableEq, Repr

/-- A chomping indicator here. -/
def Chomping.read? (c : Cursor) : Option Chomping :=
  match c.peek 0 with
  | some '+' => some .keep
  | some '-' => some .strip
  | _ => none

/-- An indentation indicator here. -/
def readIndicator? (c : Cursor) : Option Nat :=
  ((c.peek 0).filter Char.isDigit).map fun x => x.toNat - '0'.toNat

/-- Reads the indicators of a block scalar in either order; zero is no indentation. -/
def readHeader? (c : Cursor) : Option (Chomping × Option Nat × Cursor) := do
  let (chomping, indentation, c) ←
    match Chomping.read? c, readIndicator? c with
    | some chomping, _ =>
      let c := c.advance 1
      match readIndicator? c with
      | some n => pure (chomping, some n, c.advance 1)
      | none => pure (chomping, none, c)
    | none, some n =>
      let c := c.advance 1
      match Chomping.read? c with
      | some chomping => pure (chomping, some n, c.advance 1)
      | none => pure (.clip, some n, c)
    | none, none => pure (.clip, none, c)
  if indentation == some 0 then none
  let c ← c.endLine?
  return (chomping, indentation, c)

/-- Reads blank lines and the indentation of the next line. An indentation not yet
known counts all spaces, and the widest line so far is remembered. -/
def readIndentation? (fuel : Nat) (indent : Option Nat) (breaks : Text) (widest : Nat)
    (c : Cursor) : Option (Text × Nat × Cursor) :=
  match fuel with
  | 0 => none
  | fuel + 1 =>
    let wanted := match indent with
      | some n => n - c.column
      | none => c.rest.length
    let spaces := ((c.rest.take wanted).takeWhile (· = ' ')).length
    let c := c.advance spaces
    let widest := max widest c.column
    let short := match indent with
      | some n => c.column < n
      | none => true
    if short && c.sees '\t' then none
    else if c.breakAt 0 then
      readIndentation? fuel indent (breaks ++ c.breakText) widest c.nextLine
    else some (breaks, widest, c)

/-- Reads the lines of a block scalar. The line break before the next line and the
breaks of blank lines after it wait until that line is there. -/
def readBlockLines? (fuel : Nat) (literal : Bool) (indent : Nat) (before lineBreak blankLines : Text)
    (afterBlank : Bool) (c : Cursor) : Option (Text × Text × Text × Cursor) :=
  match fuel with
  | 0 => none
  | fuel + 1 =>
    if c.column != indent || c.rest.isEmpty then some (before, lineBreak, blankLines, c)
    else do
      let startsBlank := c.blankAt 0
      let folds := !literal && lineBreak == ['\n'] && !afterBlank && !startsBlank
      let joint :=
        if folds then (if blankLines.isEmpty then [' '] else blankLines) else lineBreak ++ blankLines
      let line := c.rest.takeWhile fun x => !isBreak x
      let c := c.advance line.length
      let lineBreak := c.breakText
      let c := if c.breakAt 0 then c.nextLine else c
      let (blankLines, _, c) ← readIndentation? (c.rest.length + 1) (some indent) [] 0 c
      readBlockLines? fuel literal indent (before ++ joint ++ line) lineBreak blankLines startsBlank c

/-- Reads a block scalar, after its first indicator, in a block of some indentation. -/
def readBlock? (literal : Bool) (parent : Int) (c : Cursor) : Option (Text × Cursor) := do
  let (chomping, indicated, c) ← readHeader? c
  let indicated := indicated.map fun n => n + parent.toNat
  let (blankLines, widest, c) ← readIndentation? (c.rest.length + 1) indicated [] 0 c
  let indent := indicated.getD (max widest (max (parent + 1).toNat 1))
  let (text, lineBreak, blankLines, c) ←
    readBlockLines? (c.rest.length + 1) literal indent [] [] blankLines false c
  match chomping with
  | .strip => return (text, c)
  | .clip => return (text ++ lineBreak, c)
  | .keep => return (text ++ lineBreak ++ blankLines, c)

end Placeholders.Yaml

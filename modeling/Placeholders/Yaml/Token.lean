/-
The tokens of a YAML text. Blocks have no brackets of their own: a token that
starts further to the right than the block around it opens a block, and one that
starts further to the left closes blocks. What turns out to be a key only at the
colon after it is kept in mind as a candidate; the colon puts the key token, and a
new block if need be, in front of it.
-/
import Placeholders.Yaml.Scalar
import Placeholders.Yaml.Tag

namespace Placeholders.Yaml

/-- A token. -/
inductive Token
  | directive (d : Directive)
  | documentStart
  | documentEnd
  | blockSequence
  | blockMapping
  | blockEnd
  | openSequence
  | closeSequence
  | openMapping
  | closeMapping
  | blockEntry
  | flowEntry
  | key
  | value
  | reference (name : Text)
  | anchor (name : Text)
  | tag (handle : Text) (suffix : List UInt8)
  | scalar (style : Style) (text : Text)
deriving DecidableEq, Repr

/-- Where a key may have started: the number of tokens before it and its place. A
candidate that is required cannot be given up. -/
structure KeyCandidate where
  tokensBefore : Nat
  index : Nat
  line : Nat
  column : Nat
  required : Bool

/-- What is known between two tokens. There is one place for a key candidate for
each open flow collection and one for the block around them. -/
structure Scan where
  cursor : Cursor
  tokens : Array Token := #[]
  indent : Int := -1
  indents : List Int := []
  candidate : Option KeyCandidate := none
  outer : List (Option KeyCandidate) := []
  keyAllowed : Bool := true

namespace Scan

/-- Is a flow collection open? -/
def inFlow (s : Scan) : Bool := !s.outer.isEmpty

/-- Adds a token. -/
def push (s : Scan) (t : Token) : Scan := { s with tokens := s.tokens.push t }

/-- Puts tokens in front of those from a position on. -/
def insertAt (s : Scan) (position : Nat) (ts : Array Token) : Scan :=
  { s with tokens := s.tokens.extract 0 position ++ ts ++ s.tokens.extract position s.tokens.size }

/-- Adds a token for some characters of this line. -/
def take (s : Scan) (count : Nat) (t : Token) : Scan :=
  { s.push t with cursor := s.cursor.advance count }

/-- Goes on after a longer token. -/
def goOn (s : Scan) (t : Token) (c : Cursor) : Scan := { s.push t with cursor := c }

/-- Moves past blanks, comments and line breaks to the next token. A byte order mark
at the start of a line is passed over and takes up a column. In a block, a tab is no
blank where a key may start, and a new line is such a place. -/
def toNextToken (fuel : Nat) (s : Scan) : Scan :=
  match fuel with
  | 0 => s
  | fuel + 1 =>
    let c := s.cursor
    let c := if c.column = 0 && (c.peek 0).any isByteOrderMark then c.advance 1 else c
    let c := c.skipWhile fun x => x = ' ' || ((s.inFlow || !s.keyAllowed) && x = '\t')
    let c := if c.sees '#' then c.skipLineText else c
    if c.breakAt 0 then
      toNextToken fuel { s with cursor := c.nextLine, keyAllowed := s.keyAllowed || !s.inFlow }
    else { s with cursor := c }

/-- Has the candidate been left behind? A key stays on one line and is short. -/
def isStale (c : Cursor) (k : KeyCandidate) : Bool := k.line < c.line || k.index + 1024 < c.index

/-- Gives up a candidate that has been left behind; a required one cannot be given up. -/
def freshen? (c : Cursor) (candidate : Option KeyCandidate) : Option (Option KeyCandidate) :=
  match candidate with
  | some k => if isStale c k then (if k.required then none else some none) else some (some k)
  | none => some none

/-- Gives up all candidates that have been left behind. -/
def dropStale? (s : Scan) : Option Scan := do
  let candidate ← freshen? s.cursor s.candidate
  let outer ← s.outer.mapM (freshen? s.cursor)
  return { s with candidate, outer }

/-- Gives up the candidate at hand. -/
def dropCandidate? (s : Scan) : Option Scan :=
  match s.candidate with
  | some k => if k.required then none else some { s with candidate := none }
  | none => some s

/-- A key may start here, if one is allowed at all. -/
def saveCandidate? (s : Scan) : Option Scan :=
  if s.keyAllowed then
    s.dropCandidate?.map fun s =>
      let c := s.cursor
      { s with
        candidate := some
          ⟨s.tokens.size, c.index, c.line, c.column, !s.inFlow && s.indent = (c.column : Int)⟩ }
  else some s

/-- Opens a block at a column to the right of the block around it. -/
def openBlock (s : Scan) (column : Nat) (position : Nat) (t : Token) : Scan :=
  if s.inFlow || (column : Int) ≤ s.indent then s
  else { s.insertAt position #[t] with indent := column, indents := s.indent :: s.indents }

/-- Closes the blocks around, as long as they start to the right of a column. -/
def closeBlocks (column : Int) (s : Scan) : Scan :=
  if s.inFlow then s
  else
    let open_ := (s.indent :: s.indents).takeWhile fun n => column < n
    let left := (s.indent :: s.indents).dropWhile fun n => column < n
    { s with
      tokens := s.tokens ++ (open_.map fun _ => Token.blockEnd).toArray
      indent := left.head?.getD (-1)
      indents := left.tail }

/-- A bracket or brace that opens a flow collection. -/
def openFlow? (s : Scan) (t : Token) : Option Scan := do
  let s ← s.saveCandidate?
  return { s.take 1 t with candidate := none, outer := s.candidate :: s.outer, keyAllowed := true }

/-- A bracket or brace that closes a flow collection. -/
def closeFlow? (s : Scan) (t : Token) : Option Scan := do
  let s ← s.dropCandidate?
  let s := { s.take 1 t with keyAllowed := false }
  match s.outer with
  | candidate :: outer => return { s with candidate, outer }
  | [] => return s

/-- An indicator of a block sequence or of an explicit key. -/
def blockIndicator? (s : Scan) (block t : Token) (keyAllowed : Bool) : Option Scan := do
  if !s.inFlow && !s.keyAllowed then none
  let s := s.openBlock s.cursor.column s.tokens.size block
  let s ← s.dropCandidate?
  return { s.take 1 t with keyAllowed }

/-- A colon. It makes the candidate at hand a key, or stands for a value without one. -/
def valueIndicator? (s : Scan) : Option Scan :=
  match s.candidate with
  | some k =>
    let s := s.insertAt k.tokensBefore #[Token.key]
    let s := s.openBlock k.column k.tokensBefore .blockMapping
    some { s.take 1 .value with candidate := none, keyAllowed := false }
  | none => s.blockIndicator? .blockMapping .value (!s.inFlow)

/-- A token that may start a key and that no key follows on its line. -/
def inlineToken? (s : Scan) (read : Cursor → Option (Token × Cursor)) : Option Scan := do
  let s ← s.saveCandidate?
  let (t, c) ← read s.cursor
  return { s.goOn t c with keyAllowed := false }

/-- A plain scalar; a key may follow it on a new line. -/
def plainScalar? (s : Scan) : Option Scan := do
  let s ← s.saveCandidate?
  let (text, broken, c) ← readPlain? s.inFlow (s.indent + 1) s.cursor
  return { s.goOn (.scalar .plain text) c with keyAllowed := broken }

/-- A block scalar; a key may follow it. -/
def blockScalar? (s : Scan) (literal : Bool) : Option Scan := do
  let s ← s.dropCandidate?
  let (text, c) ← readBlock? literal s.indent (s.cursor.advance 1)
  return { s.goOn (.scalar (if literal then .literal else .folded) text) c with keyAllowed := true }

/-- A token at the left margin that stands outside of all blocks. -/
def marginToken? (s : Scan) (read : Cursor → Option (Token × Cursor)) : Option Scan := do
  let s ← (s.closeBlocks (-1)).dropCandidate?
  let (t, c) ← read s.cursor
  return { s.goOn t c with keyAllowed := false }

/-- The characters that have a meaning of their own at the start of a token. -/
def indicators : List Char :=
  ['-', '?', ':', ',', '[', ']', '{', '}', '#', '&', '*', '!', '|', '>', '\x27', '\x22', '%', '@',
    '\x60']

/-- May a plain scalar start here? -/
def startsPlain (inFlow : Bool) (c : Cursor) : Bool :=
  match c.peek 0 with
  | none => false
  | some x =>
    (!c.gapAt 0 && !indicators.contains x)
      || (x = '-' && !c.blankAt 1)
      || (!inFlow && (x = '?' || x = ':') && !c.gapAt 1)

/-- The token at this place. -/
def token? (s : Scan) : Option Scan :=
  let c := s.cursor
  match c.peek 0 with
  | none => none
  | some x =>
    if c.column = 0 && x = '%' then
      s.marginToken? fun c => (readDirective? (c.advance 1)).map fun (d, c) => (.directive d, c)
    else if c.atMarker '-' then s.marginToken? fun c => some (.documentStart, c.advance 3)
    else if c.atMarker '.' then s.marginToken? fun c => some (.documentEnd, c.advance 3)
    else if x = '[' then s.openFlow? .openSequence
    else if x = '{' then s.openFlow? .openMapping
    else if x = ']' then s.closeFlow? .closeSequence
    else if x = '}' then s.closeFlow? .closeMapping
    else if x = ',' then
      s.dropCandidate?.map fun s => { s.take 1 .flowEntry with keyAllowed := true }
    else if x = '-' && c.gapAt 1 then s.blockIndicator? .blockSequence .blockEntry true
    else if x = '?' && (s.inFlow || c.gapAt 1) then
      s.blockIndicator? .blockMapping .key (!s.inFlow)
    else if x = ':' && (s.inFlow || c.gapAt 1) then s.valueIndicator?
    else if x = '*' then
      s.inlineToken? fun c => (readAnchor? (c.advance 1)).map fun (n, c) => (.reference n, c)
    else if x = '&' then
      s.inlineToken? fun c => (readAnchor? (c.advance 1)).map fun (n, c) => (.anchor n, c)
    else if x = '!' then
      s.inlineToken? fun c => (readTag? s.inFlow c).map fun (h, t, c) => (.tag h t, c)
    else if x = '|' && !s.inFlow then s.blockScalar? true
    else if x = '>' && !s.inFlow then s.blockScalar? false
    else if x = '\x27' then
      s.inlineToken? fun c =>
        (readQuoted? true (c.advance 1)).map fun (t, c) => (.scalar .singleQuoted t, c)
    else if x = '\x22' then
      s.inlineToken? fun c =>
        (readQuoted? false (c.advance 1)).map fun (t, c) => (.scalar .doubleQuoted t, c)
    else if startsPlain s.inFlow c then s.plainScalar?
    else none

/-- Scans to the end of the text. Each step takes at least one character. -/
def run? (fuel : Nat) (s : Scan) : Option (List Token) :=
  match fuel with
  | 0 => none
  | fuel + 1 => do
    let s := s.toNextToken (s.cursor.rest.length + 1)
    let s ← s.dropStale?
    let s := s.closeBlocks s.cursor.column
    if s.cursor.rest.isEmpty then
      let s ← (s.closeBlocks (-1)).dropCandidate?
      return s.tokens.toList
    else run? fuel (← s.token?)

end Scan

/-- The tokens of a text. -/
def Token.ofText? (t : Text) : Option (List Token) :=
  if t.all isAllowed then Scan.run? (t.length + 1) { cursor := { rest := t } } else none

end Placeholders.Yaml

/-
The tokens of a pipeline stage. Blanks separate tokens, but not inside a pair of
equal quote marks; the marks stay in the token. A quote mark that does not occur
again in the stage is an ordinary character, so no section is left open.
`TokenKind.of` tells the shape of a token.
-/
import Placeholders.Text.Blank

namespace Placeholders.Pattern
open Text (isBlank isDigits)

/-- The two quote marks, the apostrophe and the double quote. -/
def isQuote (c : Char) : Bool := c == '\x27' || c == '\x22'

/-- The unit that `c` starts before `r`, and what follows it: a quoted section up
to the next equal mark, or the character alone. -/
def unitAt (c : Char) (r : Text) : Text × Text :=
  if isQuote c && r.contains c then
    (c :: (r.takeWhile (· != c) ++ [c]), (r.dropWhile (· != c)).tail)
  else ([c], r)

theorem length_unitAt_snd_le (c : Char) (r : Text) : (unitAt c r).2.length ≤ r.length := by
  unfold unitAt
  split
  · have := (List.dropWhile_suffix (· != c) (l := r)).length_le
    simp only [List.length_tail]
    omega
  · exact Nat.le_refl _

/-- The units up to the next blank outside quotes, joined, and what follows them. -/
def tokenAt (s : Text) : Text × Text :=
  match s with
  | [] => ([], [])
  | c :: r =>
    if isBlank c then ([], c :: r)
    else ((unitAt c r).1 ++ (tokenAt (unitAt c r).2).1, (tokenAt (unitAt c r).2).2)
termination_by s.length
decreasing_by
  have := length_unitAt_snd_le c r
  simp only [List.length_cons]
  omega

theorem tokenAt_cons (c : Char) (r : Text) :
    tokenAt (c :: r) = if isBlank c then ([], c :: r)
      else ((unitAt c r).1 ++ (tokenAt (unitAt c r).2).1, (tokenAt (unitAt c r).2).2) := by
  rw [tokenAt]

theorem length_tokenAt_snd_le (s : Text) : (tokenAt s).2.length ≤ s.length := by
  fun_induction tokenAt s with
  | case1 => simp
  | case2 => simp
  | case3 c r _ ih =>
    have := length_unitAt_snd_le c r
    simp only [List.length_cons]
    omega

theorem length_tokenAt_snd_lt {c : Char} {r : Text} (h : isBlank c = false) :
    (tokenAt (c :: r)).2.length < (c :: r).length := by
  have h1 := length_unitAt_snd_le c r
  have h2 := length_tokenAt_snd_le (unitAt c r).2
  rw [tokenAt_cons, h, if_neg (by simp), List.length_cons]
  show (tokenAt (unitAt c r).2).2.length < _
  omega

theorem not_of_dropWhile_eq_cons {p : Char → Bool} {s : Text} {c : Char} {r : Text}
    (h : s.dropWhile p = c :: r) : p c = false := by
  simpa [h] using List.head?_dropWhile_not p s

/-- The tokens of a stage in order: the function name, then its arguments. -/
def tokenize (stage : Text) : List Text :=
  match _ : stage.dropWhile isBlank with
  | [] => []
  | c :: r => (tokenAt (c :: r)).1 :: tokenize (tokenAt (c :: r)).2
termination_by stage.length
decreasing_by
  rename_i h
  have h1 := length_tokenAt_snd_lt (r := r) (not_of_dropWhile_eq_cons h)
  have h2 : (c :: r).length ≤ stage.length := h ▸ (List.dropWhile_suffix isBlank).length_le
  omega

/-- The shape of an argument token. -/
inductive TokenKind
  | stringLiteral
  | integer
  | float
  | opaqueText
deriving DecidableEq, Repr

namespace TokenKind

/-- The word for a kind in listings. -/
def label : TokenKind → Text
  | stringLiteral => "string".toList
  | integer => "integer".toList
  | float => "float".toList
  | opaqueText => "opaque".toList

end TokenKind

/-- Is the token wrapped in two equal quote marks? -/
def isQuoted : Text → Bool
  | [] => false
  | first :: r => isQuote first && r.getLast? == some first

/-- Digits, a point and digits? -/
def isDecimal (token : Text) : Bool :=
  match token.cutAt '.' with
  | some (whole, fraction) => isDigits whole && isDigits fraction
  | none => false

/-- The kind of a token, told by its characters alone. -/
def TokenKind.of (token : Text) : TokenKind :=
  if isQuoted token then .stringLiteral
  else if isDigits token then .integer
  else if isDecimal token then .float
  else .opaqueText

end Placeholders.Pattern

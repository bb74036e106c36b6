/-
Upper and lower case of whole texts. A character may become several, and the
Greek capital sigma becomes its final form at the end of a word.
-/
import Placeholders.Text.Basic
import Placeholders.Text.CaseTable

namespace Placeholders.Text

/-- The upper case of a character. -/
def upperOf (c : Char) : Text :=
  match upperRuns.findSome? (·.map? c.toNat) with
  | some n => [Char.ofNat n]
  | none =>
    match upperSequences.lookup c.toNat with
    | some ns => ns.map Char.ofNat
    | none => [c]

/-- The lower case of a character that stands alone. -/
def lowerOf (c : Char) : Text :=
  match lowerRuns.findSome? (·.map? c.toNat) with
  | some n => [Char.ofNat n]
  | none => if c.toNat = 0x130 then ['i', Char.ofNat 0x307] else [c]

/-- Does a cased letter come next, after characters that casing ignores? -/
def casedNext (t : Text) : Bool :=
  match t.dropWhile fun c => inCodePoints caseIgnorableChanges c.toNat with
  | [] => false
  | c :: _ => inCodePoints casedChanges c.toNat

/-- The lower case of a character between the text before it, in reverse, and the
text after it. A capital sigma at the end of a word is a final sigma. -/
def lowerBetween (before : Text) (c : Char) (after : Text) : Text :=
  if c.toNat = 0x3a3 then
    if casedNext before && !casedNext after then [Char.ofNat 0x3c2] else [Char.ofNat 0x3c3]
  else lowerOf c

/-- Lower case from a place on, with the text before it and the result so far in reverse. -/
def lowerFrom (before result : Text) : Text → Text
  | [] => result.reverse
  | c :: r => lowerFrom (c :: before) ((lowerBetween before c r).reverse ++ result) r

/-- The text in upper case. -/
def upper (t : Text) : Text := t.flatMap upperOf

/-- The text in lower case. -/
def lower (t : Text) : Text := lowerFrom [] [] t

/-- The text with its first character in upper case. -/
def capitalize : Text → Text
  | [] => []
  | c :: r => upperOf c ++ r

end Placeholders.Text

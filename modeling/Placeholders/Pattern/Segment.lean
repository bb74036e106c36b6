/-
A pattern is literal text with placeholders in it. A placeholder opens with a
dollar sign and a brace, runs to the first closing brace and has a body that is
not empty; bodies do not nest. `scan` cuts a pattern into its segments from the
left, and whatever opens no placeholder is literal text.
-/
import Placeholders.Text.Basic

namespace Placeholders.Pattern

/-- A piece of a pattern: text to copy, or the body of a placeholder. -/
inductive Segment
  | literal (text : Text)
  | placeholder (body : Text)
deriving DecidableEq, Repr

/-- A placeholder as it stands in a pattern, delimiters included. -/
def enclose (body : Text) : Text := '$' :: '{' :: (body ++ ['}'])

namespace Segment

/-- The text of a segment as it stands in the pattern. -/
def text : Segment → Text
  | literal t => t
  | placeholder b => enclose b

/-- The body, when the segment is a placeholder. -/
def body? : Segment → Option Text
  | literal _ => none
  | placeholder b => some b

end Segment

/-- The body of the placeholder that opens right here, and the text after it. -/
def placeholderAt : Text → Option (Text × Text)
  | '$' :: '{' :: r =>
    match r.takeWhile (· != '}'), r.dropWhile (· != '}') with
    | c :: b, _ :: rest => some (c :: b, rest)
    | _, _ => none
  | _ => none

theorem length_of_placeholderAt {s b rest : Text} (h : placeholderAt s = some (b, rest)) :
    rest.length < s.length := by
  unfold placeholderAt at h
  split at h
  · rename_i r
    split at h
    · rename_i c b' d rest' hb hr
      have hlen := (List.dropWhile_suffix (· != '}') (l := r)).length_le
      rw [hr] at hlen
      simp only [Option.some.injEq, Prod.mk.injEq] at h
      obtain ⟨-, rfl⟩ := h
      simp only [List.length_cons] at hlen ⊢
      omega
    · simp at h
  · simp at h

/-- The literal text collected so far, which is held in reverse. -/
def literalOf (collected : Text) : List Segment :=
  if collected.isEmpty then [] else [.literal collected.reverse]

/-- Scans on with literal text collected before this place. -/
def scanFrom (collected : Text) (s : Text) : List Segment :=
  match s with
  | [] => literalOf collected
  | c :: r =>
    match _ : placeholderAt (c :: r) with
    | some (b, rest) => literalOf collected ++ .placeholder b :: scanFrom [] rest
    | none => scanFrom (c :: collected) r
termination_by s.length
decreasing_by
  · rename_i h
    exact length_of_placeholderAt h
  · simp

/-- The segments of a pattern in order. -/
def scan (pattern : Text) : List Segment := scanFrom [] pattern

/-- Does a placeholder open anywhere in the text? -/
def hasPlaceholder : Text → Bool
  | [] => false
  | c :: r => (placeholderAt (c :: r)).isSome || hasPlaceholder r

end Placeholders.Pattern

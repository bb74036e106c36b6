/-
What a listing tells. The lines in the listing of a pattern do not stand apart: the text of
a placeholder and the tokens of its stages are written as they are, line breaks and quote
marks included, and can look like other lines. Still no two patterns have the same listing
(`listing_inspect_inj`). Read from the left, it tells each segment and where its lines end:
a literal ends with a quote mark, and those within are escaped; the text of a placeholder
ends with its first closing brace, and all the rest of its lines follows from that text.

A signature is told by its text too, whatever its name is made of (`Signature.toText_inj`).
No type has a parenthesis in it, so the name ends before the last one that opens, and the
types are told from the left again.
-/
import Placeholders.Function.Registry
import Placeholders.Inspect
import Placeholders.Proofs.Segmentation
import Placeholders.Proofs.Tokens
import Mathlib.Tactic.SplitIfs

namespace Placeholders
open Pattern

/-! ## Texts in a row -/

variable {α : Type}

/-- What is written for an element tells the element and where it ends, whatever follows,
and it is not taken for the end of a row. -/
structure IsCode (write : α → Text) (Formed : α → Prop) (Ends : Text → Prop) : Prop where
  tells : ∀ {a b : α} {r s : Text}, Formed a → Formed b → write a ++ r = write b ++ s → a = b ∧ r = s
  goesOn : ∀ {a : α} {r : Text}, Formed a → ¬ Ends (write a ++ r)

namespace IsCode
variable {write : α → Text} {Formed : α → Prop} {Ends : Text → Prop} {as bs : List α}

/-- A row tells its elements and where it ends. -/
theorem row_inj (hcode : IsCode write Formed Ends) (ha : ∀ a ∈ as, Formed a) (hb : ∀ b ∈ bs, Formed b) {r s : Text}
    (hr : Ends r) (hs : Ends s) (h : as.flatMap write ++ r = bs.flatMap write ++ s) : as = bs ∧ r = s := by
  induction as generalizing bs with
  | nil =>
    cases bs with
    | nil => exact ⟨rfl, h⟩
    | cons b bs =>
      rw [List.flatMap_nil, List.nil_append, List.flatMap_cons, List.append_assoc] at h
      exact absurd (h ▸ hr) (hcode.goesOn (hb b List.mem_cons_self))
  | cons a as ih =>
    obtain ⟨hafirst, haothers⟩ := List.forall_mem_cons.mp ha
    rw [List.flatMap_cons, List.append_assoc] at h
    cases bs with
    | nil =>
      rw [List.flatMap_nil, List.nil_append] at h
      exact absurd (h ▸ hs) (hcode.goesOn hafirst)
    | cons b bs =>
      obtain ⟨hbfirst, hbothers⟩ := List.forall_mem_cons.mp hb
      rw [List.flatMap_cons, List.append_assoc] at h
      obtain ⟨rfl, hothers⟩ := hcode.tells hafirst hbfirst h
      obtain ⟨rfl, hend⟩ := ih haothers hbothers hothers
      exact ⟨rfl, hend⟩

theorem eq_of_flatMap_eq (hcode : IsCode write Formed (· = [])) (ha : ∀ a ∈ as, Formed a) (hb : ∀ b ∈ bs, Formed b)
    (h : as.flatMap write = bs.flatMap write) : as = bs :=
  (hcode.row_inj ha hb rfl rfl (congrArg (· ++ []) h)).1

end IsCode

namespace Text

/-! ## Quoted texts -/

theorem hexDigit?_digitChar {d : Nat} (h : d < 16) : hexDigit? d.digitChar = some d := by
  decide +revert

theorem hexOf_eq (n : Nat) : hexOf n = if n < 16 then [n.digitChar] else hexOf (n / 16) ++ [(n % 16).digitChar] :=
  Nat.toDigits_eq_if (by decide)

/-- The digits of a numeral, read from the left, give the number. -/
theorem foldlM_hexOf (n : Nat) : (hexOf n).foldlM (fun v c => (hexDigit? c).map (v * 16 + ·)) 0 = some n := by
  induction n using Nat.strongRecOn with
  | ind n ih =>
    rw [hexOf_eq]
    split
    · next h => simp [hexDigit?_digitChar h]
    · next h =>
      have hlast := hexDigit?_digitChar (Nat.mod_lt n (by decide : 0 < 16))
      have hdivided := Nat.div_add_mod' n 16
      rw [List.foldlM_append, ih (n / 16) (by omega)]
      simp [hlast, hdivided]

theorem hexOf_injective : Function.Injective hexOf := by
  intro m n h
  have hread := foldlM_hexOf m
  rw [h, foldlM_hexOf n] at hread
  exact (Option.some.inj hread).symm

theorem brace_not_mem_hexOf (n : Nat) : '}' ∉ hexOf n := by
  have hdigit : ∀ d : Nat, '}' ≠ d.digitChar := fun d => (Nat.digitChar_ne '}' (by decide)).symm
  induction n using Nat.strongRecOn with
  | ind n ih =>
    rw [hexOf_eq]
    split
    · next h => simp [hdigit]
    · next h => simp [hdigit, ih (n / 16) (by omega)]

/-- The characters with a short escape, and its letter. -/
def shortEscapes : List (Char × Char) :=
  [('\x00', '0'), ('\t', 't'), ('\r', 'r'), ('\n', 'n'), ('\x22', '\x22'), ('\\', '\\')]

theorem eq_of_mem_shortEscapes {c d l : Char} (hc : (c, l) ∈ shortEscapes) (hd : (d, l) ∈ shortEscapes) : c = d := by
  have htable : ∀ p ∈ shortEscapes, ∀ p' ∈ shortEscapes, p.2 = p'.2 → p.1 = p'.1 := by decide
  exact htable _ hc _ hd rfl

theorem ne_of_mem_shortEscapes {c l : Char} (h : (c, l) ∈ shortEscapes) : l ≠ 'u' := by
  have htable : ∀ p ∈ shortEscapes, p.2 ≠ 'u' := by decide
  exact htable _ h

/-- The forms of a character inside a quoted text. -/
inductive Escape : Char → Text → Prop
  | short {c l} : (c, l) ∈ shortEscapes → Escape c ['\\', l]
  | code {c} : Escape c ('\\' :: 'u' :: '{' :: (hexOf c.toNat ++ ['}']))
  | plain {c} : c ≠ '\\' → c ≠ '\x22' → Escape c [c]

theorem escape_escaped (c : Char) : Escape c (escaped c) := by
  unfold escaped
  split_ifs with hnul htab hreturn hline hmark hslash
  · obtain rfl : c = '\x00' := Char.toNat_inj.mp hnul
    exact .short (by decide)
  · exact .short (by rw [htab]; decide)
  · exact .short (by rw [hreturn]; decide)
  · exact .short (by rw [hline]; decide)
  · exact .short (by rw [hmark]; decide)
  · exact .short (by rw [hslash]; decide)
  · exact .code
  · exact .plain hslash hmark

theorem Escape.append_inj {c d : Char} {t u r s : Text} (hc : Escape c t) (hd : Escape d u) (h : t ++ r = u ++ s) :
    c = d ∧ r = s := by
  -- After a backslash, the next character tells the short escapes from each other and from a code.
  cases hc with
  | short hc =>
    simp only [List.cons_append, List.nil_append] at h
    cases hd with
    | short hd =>
      obtain ⟨rfl, rfl⟩ := List.cons.inj (List.cons.inj h).2
      exact ⟨eq_of_mem_shortEscapes hc hd, rfl⟩
    | code => exact absurd (List.cons.inj (List.cons.inj h).2).1 (ne_of_mem_shortEscapes hc)
    | plain hd _ => exact absurd (List.cons.inj h).1.symm hd
  | code =>
    cases hd with
    | short hd => exact absurd (List.cons.inj (List.cons.inj h).2).1.symm (ne_of_mem_shortEscapes hd)
    | code =>
      have hdigits : hexOf c.toNat ++ '}' :: r = hexOf d.toNat ++ '}' :: s := by simpa using h
      have hsame := eq_of_append_cons_eq (brace_not_mem_hexOf _) (brace_not_mem_hexOf _) hdigits
      obtain rfl : c = d := Char.toNat_inj.mp (hexOf_injective hsame)
      exact ⟨rfl, List.append_cancel_left h⟩
    | plain hd _ => exact absurd (List.cons.inj h).1.symm hd
  | plain hc _ =>
    cases hd with
    | short hd => exact absurd (List.cons.inj h).1 hc
    | code => exact absurd (List.cons.inj h).1 hc
    | plain _ _ => exact List.cons.inj h

theorem Escape.head?_ne {c : Char} {t r : Text} (h : Escape c t) : (t ++ r).head? ≠ some '\x22' := by
  cases h with
  | short _ => simp
  | code => simp
  | plain _ hmark => simp [hmark]

-- The characters are given, since unification would look into the tables to find them.
theorem isCode_escaped : IsCode escaped (fun _ => True) fun t => t.head? = some '\x22' where
  tells {c d _ _} _ _ h := (escape_escaped c).append_inj (escape_escaped d) h
  goesOn {c _} _ := (escape_escaped c).head?_ne

/-- A quoted text tells the text and where it ends. -/
theorem quoted_append_inj {t u r s : Text} (h : t.quoted ++ r = u.quoted ++ s) : t = u ∧ r = s := by
  have hrow : t.flatMap escaped ++ '\x22' :: r = u.flatMap escaped ++ '\x22' :: s := by simpa [quoted] using h
  obtain ⟨rfl, hend⟩ := isCode_escaped.row_inj (fun _ _ => trivial) (fun _ _ => trivial) rfl rfl hrow
  exact ⟨rfl, (List.cons.inj hend).2⟩

end Text

/-! ## The listing of a pattern -/

namespace Pattern.Segment

/-- The lines of a segment in the listing of a pattern. -/
def lines (s : Segment) : Text := (SegmentView.of s).toLines

variable {t r : Text}

theorem lines_literal_append : (literal t).lines ++ r = "literal ".toList ++ (t.quoted ++ '\n' :: r) := by
  have hlines : (literal t).lines = "literal ".toList ++ t.quoted ++ ['\n'] := rfl
  rw [hlines, List.append_assoc, List.append_assoc, List.singleton_append]

/-- The lines of a placeholder start with its text, and the rest of them follows from it. -/
theorem exists_lines_placeholder (b : Text) :
    ∃ after, ∀ r, (placeholder b).lines ++ r = "placeholder $\x7b".toList ++ (b ++ '}' :: (after ++ r)) := by
  let key := (Expression.parse b).key.quoted
  let stages := '\n' :: ((Expression.parse b).stages.map StageView.of).flatMap StageView.toLine
  have hlines : (placeholder b).lines =
      "placeholder ".toList ++ enclose b ++ " key=".toList ++ key ++ stages := rfl
  have hopen : "placeholder $\x7b".toList = "placeholder ".toList ++ ['$', '{'] := rfl
  refine ⟨" key=".toList ++ (key ++ stages), fun r => ?_⟩
  rw [hlines, hopen]
  simp only [enclose, List.append_assoc, List.cons_append, List.nil_append]

/-- The body of a placeholder can stand between its delimiters. -/
def IsFormed (s : Segment) : Prop := ∀ b, s = placeholder b → IsBody b

theorem lines_append_inj {s s' : Segment} {r r' : Text} (hs : s.IsFormed) (hs' : s'.IsFormed)
    (h : s.lines ++ r = s'.lines ++ r') : s = s' ∧ r = r' := by
  cases s with
  | literal t =>
    rw [lines_literal_append] at h
    cases s' with
    | literal t' =>
      rw [lines_literal_append] at h
      obtain ⟨rfl, hend⟩ := Text.quoted_append_inj (List.append_cancel_left h)
      exact ⟨rfl, (List.cons.inj hend).2⟩
    | placeholder b' =>
      obtain ⟨after', hlines'⟩ := exists_lines_placeholder b'
      rw [hlines'] at h
      exact absurd (List.cons.inj h).1 (by decide)
  | placeholder b =>
    obtain ⟨after, hlines⟩ := exists_lines_placeholder b
    cases s' with
    | literal t' =>
      rw [hlines, lines_literal_append] at h
      exact absurd (List.cons.inj h).1 (by decide)
    | placeholder b' =>
      obtain ⟨after', hlines'⟩ := exists_lines_placeholder b'
      have htext : b ++ '}' :: (after ++ r) = b' ++ '}' :: (after' ++ r') := by
        rw [hlines, hlines'] at h
        exact List.append_cancel_left h
      obtain rfl := eq_of_append_cons_eq (hs b rfl).2 (hs' b' rfl).2 htext
      -- The same text has the same lines, so what comes after them is the same too.
      exact ⟨rfl, List.append_cancel_left h⟩

theorem isCode_lines : IsCode lines IsFormed (· = []) where
  tells hs hs' h := lines_append_inj hs hs' h
  goesOn {s r} _ h := by
    cases s with
    | literal t => cases h
    | placeholder b => cases h

theorem isFormed_of_mem_scan {pattern : Text} {s : Segment} (h : s ∈ scan pattern) : s.IsFormed := by
  rintro b rfl
  exact (segmented_scan pattern).isSegmentation.bodies b h

end Pattern.Segment

theorem listing_inspect (pattern : Text) : listing (inspect pattern) = (scan pattern).flatMap Segment.lines :=
  List.flatMap_map ..

/-- **The listing of a pattern tells the pattern.** Two patterns have the same listing only if
they are the same, though a line of the one may stand for another thing in the other. -/
theorem listing_inspect_inj (p q : Text) : listing (inspect p) = listing (inspect q) ↔ p = q := by
  constructor
  · intro h
    rw [listing_inspect, listing_inspect] at h
    have hsegments : scan p = scan q := Segment.isCode_lines.eq_of_flatMap_eq
      (fun _ => Segment.isFormed_of_mem_scan) (fun _ => Segment.isFormed_of_mem_scan) h
    calc p = (scan p).flatMap Segment.text := (segmented_scan p).flatMap_text.symm
      _ = (scan q).flatMap Segment.text := by rw [hsegments]
      _ = q := (segmented_scan q).flatMap_text
  · rintro rfl
    rfl

/-- The second line looks like that of a literal, and is a part of a key. -/
example : listing (inspect (enclose "a\nliteral \"b\"\n".toList)) =
    "placeholder $\x7ba\nliteral \"b\"\n\x7d key=\"a\\nliteral \\\"b\\\"\"\n".toList := by
  decide +kernel

/-! ## The texts of signatures -/

theorem eq_of_append_cons_eq_right {c : Char} {b b' r r' : Text} (hr : c ∉ r) (hr' : c ∉ r')
    (h : b ++ c :: r = b' ++ c :: r') : b = b' ∧ r = r' := by
  have hreversed : r.reverse ++ c :: b.reverse = r'.reverse ++ c :: b'.reverse := by
    simpa using congrArg List.reverse h
  have hsame := eq_of_append_cons_eq (by rwa [List.mem_reverse]) (by rwa [List.mem_reverse]) hreversed
  obtain rfl := List.reverse_inj.mp hsame
  exact ⟨List.append_cancel_right h, rfl⟩

namespace ArgType

/-- A type after the first of a parameter list. -/
def further (type : ArgType) : Text := ", ".toList ++ type.label

theorem further_append_inj {a b : ArgType} {r s : Text} (h : a.further ++ r = b.further ++ s) : a = b ∧ r = s := by
  have hlabel : a.label ++ r = b.label ++ s := by
    rw [further, further, List.append_assoc, List.append_assoc] at h
    exact List.append_cancel_left h
  -- The words of two types begin with different letters.
  obtain rfl : a = b := by
    cases a <;> cases b <;> first | rfl | exact absurd (List.cons.inj hlabel).1 (by decide)
  exact ⟨rfl, List.append_cancel_left hlabel⟩

theorem isCode_further : IsCode further (fun _ => True) (· = []) where
  tells _ _ h := further_append_inj h
  goesOn _ h := by cases h

theorem parenthesis_not_mem_further (type : ArgType) : '(' ∉ type.further := by
  cases type <;> decide

end ArgType

theorem signatureText_eq (types : List ArgType) :
    signatureText types = "string".toList ++ types.flatMap ArgType.further := by
  rw [signatureText, intercalate_cons, List.flatMap_map]
  rfl

/-- A parameter list tells the types. -/
theorem signatureText_injective : Function.Injective signatureText := by
  intro types types' h
  rw [signatureText_eq, signatureText_eq] at h
  exact ArgType.isCode_further.eq_of_flatMap_eq (fun _ _ => trivial) (fun _ _ => trivial) (List.append_cancel_left h)

theorem parenthesis_not_mem_signatureText (types : List ArgType) : '(' ∉ signatureText types ++ [')'] := by
  simp [signatureText_eq, ArgType.parenthesis_not_mem_further]

/-- **The text of a signature tells the signature.** Two signatures have the same text only if
they have the same name and the same types, also where a name looks like a signature. -/
theorem Signature.toText_inj (s s' : Signature) : s.toText = s'.toText ↔ s.name = s'.name ∧ s.types = s'.types := by
  constructor
  · intro h
    obtain ⟨hname, htypes⟩ := eq_of_append_cons_eq_right (parenthesis_not_mem_signatureText s.types)
      (parenthesis_not_mem_signatureText s'.types) h
    exact ⟨hname, signatureText_injective (List.append_cancel_right htypes)⟩
  · rintro ⟨hname, htypes⟩
    rw [Signature.toText, hname, htypes, ← Signature.toText]

/-- A name with parentheses and a comma. -/
example : Signature.toText ⟨"f(string, int)".toList, []⟩ = "f(string, int)(string)".toList := by decide

end Placeholders

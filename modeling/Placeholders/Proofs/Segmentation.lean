/-
What a pattern is cut into. `IsSegmentation` says it without the scanner: the
segments join to the pattern, bodies are not empty and have no closing brace,
literals are not empty and never stand side by side, and no placeholder opens
inside a literal. `scan` gives the one list of which all this holds
(`isSegmentation_iff_eq_scan`).

Proofs about scanned patterns go by induction on `Segmented`, which builds the
same cut from the right, a segment at a time.
-/
import Placeholders.Pattern.Segment

namespace Placeholders.Pattern

/-- A text that can stand between the delimiters of a placeholder. -/
def IsBody (b : Text) : Prop := b ≠ [] ∧ '}' ∉ b

/-- The text starts with a whole placeholder. -/
def Opens (s : Text) : Prop := ∃ b rest, IsBody b ∧ s = enclose b ++ rest

/-- What it is for segments to be the segments of a pattern. -/
structure IsSegmentation (pattern : Text) (segments : List Segment) : Prop where
  joined : segments.flatMap Segment.text = pattern
  bodies : ∀ b, .placeholder b ∈ segments → IsBody b
  nonempty : .literal [] ∉ segments
  apart : ∀ before t u after, segments ≠ before ++ .literal t :: .literal u :: after
  /- A position inside a literal is counted in the whole pattern. -/
  unopened : ∀ before t after, segments = before ++ .literal t :: after →
    ∀ i < t.length, ¬ Opens (pattern.drop ((before.flatMap Segment.text).length + i))

/-! ## Where a placeholder opens -/

theorem takeWhile_ne_append {c : Char} {b : Text} (h : c ∉ b) (r : Text) :
    (b ++ c :: r).takeWhile (· != c) = b ∧ (b ++ c :: r).dropWhile (· != c) = c :: r := by
  have hb : ∀ x ∈ b, (x != c) = true := fun x hx => bne_iff_ne.mpr fun hxc => h (hxc ▸ hx)
  constructor
  · rw [List.takeWhile_append_of_pos hb, List.takeWhile_cons_of_neg (by simp), List.append_nil]
  · rw [List.dropWhile_append_of_pos hb, List.dropWhile_cons_of_neg (by simp)]

theorem append_eq_append_cons {α : Type} {a b before rest : List α} {c : α} (h : a ++ b = before ++ c :: rest) :
    (∃ d, a = before ++ c :: d ∧ rest = d ++ b) ∨ ∃ b', before = a ++ b' ∧ b = b' ++ c :: rest := by
  rcases List.append_eq_append_iff.mp h with ⟨b', hbefore, hb⟩ | ⟨d, ha, hrest⟩
  · exact .inr ⟨b', hbefore, hb⟩
  · cases d with
    | nil => exact .inr ⟨[], by rw [ha, List.append_nil, List.append_nil], hrest.symm⟩
    | cons c' d =>
      obtain ⟨rfl, rfl⟩ := List.cons.inj hrest
      exact .inl ⟨d, ha, rfl⟩

theorem eq_of_append_cons_eq {c : Char} {b b' r r' : Text} (hb : c ∉ b) (hb' : c ∉ b')
    (h : b ++ c :: r = b' ++ c :: r') : b = b' := by
  rw [← (takeWhile_ne_append hb r).1, h, (takeWhile_ne_append hb' r').1]

theorem enclose_append (b rest : Text) : enclose b ++ rest = '$' :: ('{' :: (b ++ '}' :: rest)) := by
  simp [enclose]

theorem placeholderAt_enclose {b : Text} (h : IsBody b) (rest : Text) :
    placeholderAt (enclose b ++ rest) = some (b, rest) := by
  obtain ⟨hne, hmem⟩ := h
  have hcut := takeWhile_ne_append hmem rest
  rw [enclose_append]
  unfold placeholderAt
  simp only [hcut.1, hcut.2]
  cases b with
  | nil => exact absurd rfl hne
  | cons c b => rfl

theorem eq_enclose_of_placeholderAt {s b rest : Text} (h : placeholderAt s = some (b, rest)) :
    IsBody b ∧ s = enclose b ++ rest := by
  unfold placeholderAt at h
  split at h
  · next r =>
    split at h
    · next c b' d rest' hb hd =>
      cases h
      have hmem : ∀ x ∈ c :: b', (x != '}') = true := by
        intro x hx
        rw [← hb] at hx
        exact List.all_eq_true.mp List.all_takeWhile x hx
      have hclose : (d != '}') = false := by
        simpa [hd] using List.head?_dropWhile_not (· != '}') r
      simp only [bne_eq_false_iff_eq] at hclose
      refine ⟨⟨List.cons_ne_nil c b', fun hx => by simpa using hmem _ hx⟩, ?_⟩
      have hr := List.takeWhile_append_dropWhile (p := (· != '}')) (l := r)
      rw [hb, hd, hclose] at hr
      rw [← hr]
      simp [enclose]
    · cases h
  · cases h

theorem opens_iff {s : Text} : Opens s ↔ (placeholderAt s).isSome = true := by
  constructor
  · rintro ⟨b, rest, hb, rfl⟩
    rw [placeholderAt_enclose hb]; rfl
  · intro h
    obtain ⟨⟨b, rest⟩, hs⟩ := Option.isSome_iff_exists.mp h
    obtain ⟨hb, rfl⟩ := eq_enclose_of_placeholderAt hs
    exact ⟨b, rest, hb, rfl⟩

instance (s : Text) : Decidable (Opens s) := decidable_of_iff _ opens_iff.symm

theorem not_opens_nil : ¬ Opens [] := by decide

theorem placeholderAt_eq_none {s : Text} (h : ¬ Opens s) : placeholderAt s = none := by
  rw [opens_iff, Bool.not_eq_true, Option.isSome_eq_false_iff, Option.isNone_iff_eq_none] at h
  exact h

/-! ## Text in which no placeholder opens -/

/-- No placeholder opens inside `t` when `rest` follows it. -/
def Passes (t rest : Text) : Prop := ∀ i < t.length, ¬ Opens ((t ++ rest).drop i)

theorem passes_nil (rest : Text) : Passes [] rest := fun _ h => absurd h (Nat.not_lt_zero _)

theorem passes_cons {c : Char} {t rest : Text} :
    Passes (c :: t) rest ↔ ¬ Opens (c :: (t ++ rest)) ∧ Passes t rest := by
  constructor
  · intro h
    exact ⟨h 0 (by simp), fun i hi => h (i + 1) (by simpa using hi)⟩
  · rintro ⟨h0, h⟩ i hi
    cases i with
    | zero => exact h0
    | succ i => exact h i (by simpa using hi)

/-- Every text is passed up to a place where a placeholder opens, or to its end. -/
theorem exists_passes : ∀ s : Text, ∃ t rest, s = t ++ rest ∧ Passes t rest ∧ (rest = [] ∨ Opens rest)
  | [] => ⟨[], [], rfl, passes_nil _, .inl rfl⟩
  | c :: r => by
    by_cases h : Opens (c :: r)
    · exact ⟨[], c :: r, rfl, passes_nil _, .inr h⟩
    · obtain ⟨t, rest, rfl, hp, hr⟩ := exists_passes r
      exact ⟨c :: t, rest, rfl, passes_cons.mpr ⟨h, hp⟩, hr⟩

theorem Opens.append {s : Text} (h : Opens s) (rest : Text) : Opens (s ++ rest) := by
  obtain ⟨b, r, hb, rfl⟩ := h
  exact ⟨b, r ++ rest, hb, List.append_assoc _ _ _⟩

theorem Opens.head?_eq {s : Text} (h : Opens s) : s.head? = some '$' := by
  obtain ⟨b, r, -, rfl⟩ := h
  rfl

/-- What is passed before a text is passed before any shorter one. -/
theorem Passes.of_append {t rest rest' : Text} (h : Passes t (rest ++ rest')) : Passes t rest := by
  intro i hi hopen
  refine h i hi ?_
  have hlonger := hopen.append rest'
  rwa [← List.drop_append_of_le_length (by rw [List.length_append]; omega), List.append_assoc] at hlonger

theorem passes_append {t u rest : Text} : Passes (t ++ u) rest ↔ Passes t (u ++ rest) ∧ Passes u rest := by
  induction t with
  | nil => simp [passes_nil]
  | cons c t ih => rw [List.cons_append, passes_cons, passes_cons, ih, List.append_assoc, and_assoc]

theorem passes_of_dollar_not_mem {t : Text} (h : '$' ∉ t) (rest : Text) : Passes t rest := by
  induction t with
  | nil => exact passes_nil rest
  | cons c t ih =>
    simp only [List.mem_cons, not_or] at h
    refine passes_cons.mpr ⟨fun hopen => h.1 ?_, ih h.2⟩
    exact (Option.some.inj hopen.head?_eq).symm

/-- What a literal passes before a placeholder it passes before all that does not
start with a brace: the literal may end in a dollar sign, and nothing else in it
waits for what comes. -/
theorem Passes.of_head? {t rest rest' : Text} (h : Passes t rest) (hr : Opens rest)
    (hhead : rest'.head? ≠ some '{') : Passes t rest' := by
  intro i hi hopen
  refine h i hi ?_
  obtain ⟨b, r, ⟨hne, hbrace⟩, rfl⟩ := hr
  obtain ⟨c, s, ⟨hcne, hcbrace⟩, heq⟩ := hopen
  rw [List.drop_append_of_le_length (Nat.le_of_lt hi)] at heq ⊢
  have hv : t.drop i ≠ [] := by simpa using hi
  generalize t.drop i = v at heq hv
  match v, hv with
  | [d], _ =>
    simp only [enclose, List.cons_append, List.nil_append, List.cons.injEq] at heq
    rw [heq.2] at hhead
    exact absurd rfl hhead
  | d :: e :: v, _ =>
    simp only [enclose, List.cons_append, List.cons.injEq] at heq
    obtain ⟨rfl, rfl, heq⟩ := heq
    by_cases hv : '}' ∈ v
    · -- The brace that closes is in the literal: the placeholder would stand there already.
      obtain ⟨w, x, rfl, hw⟩ := List.eq_append_cons_of_mem hv
      have hcw : w = c := eq_of_append_cons_eq hw hcbrace (by simpa using heq)
      subst hcw
      exact ⟨w, x ++ (enclose b ++ r), ⟨hcne, hcbrace⟩, by simp [enclose]⟩
    · -- It is not: the body would run on to the end of the placeholder that follows.
      refine ⟨v ++ '$' :: '{' :: b, r, ⟨by simp, ?_⟩, by simp [enclose]⟩
      simp [hv, hbrace]

/-- What a literal passes before one placeholder it passes before any other. -/
theorem Passes.of_opens {t rest rest' : Text} (h : Passes t rest) (hr : Opens rest) (hr' : Opens rest') :
    Passes t rest' := by
  refine h.of_head? hr ?_
  rw [hr'.head?_eq]
  decide

/-! ## The scanner, a segment at a time -/

theorem scanFrom_enclose (collected : Text) {b : Text} (h : IsBody b) (rest : Text) :
    scanFrom collected (enclose b ++ rest) = literalOf collected ++ .placeholder b :: scan rest := by
  have hat := placeholderAt_enclose h rest
  rw [enclose_append] at hat ⊢
  rw [scanFrom]
  split
  · next b' rest' hs => rw [hat] at hs; cases hs; rfl
  · next hs => rw [hat] at hs; cases hs

theorem scanFrom_passes (collected : Text) {t rest : Text} (h : Passes t rest) :
    scanFrom collected (t ++ rest) = scanFrom (t.reverse ++ collected) rest := by
  induction t generalizing collected with
  | nil => rfl
  | cons c t ih =>
    obtain ⟨h0, ht⟩ := passes_cons.mp h
    have hnone := placeholderAt_eq_none h0
    rw [List.cons_append, scanFrom]
    split
    · next hs => rw [hnone] at hs; cases hs
    · rw [ih (c :: collected) ht, List.reverse_cons, List.append_assoc]; rfl

theorem scan_nil : scan [] = [] := by
  unfold scan; rw [scanFrom]; rfl

theorem scan_enclose {b : Text} (h : IsBody b) (rest : Text) :
    scan (enclose b ++ rest) = .placeholder b :: scan rest := scanFrom_enclose [] h rest

theorem literalOf_reverse {t : Text} (h : t ≠ []) : literalOf t.reverse = [.literal t] := by
  simp [literalOf, h]

theorem scan_literal {t rest : Text} (hne : t ≠ []) (hp : Passes t rest) (hr : rest = [] ∨ Opens rest) :
    scan (t ++ rest) = .literal t :: scan rest := by
  have hscan : scan (t ++ rest) = scanFrom t.reverse rest := by
    unfold scan; rw [scanFrom_passes [] hp, List.append_nil]
  rw [hscan]
  rcases hr with rfl | ⟨b, r, hb, rfl⟩
  · rw [scanFrom, literalOf_reverse hne, scan_nil]
  · rw [scanFrom_enclose _ hb, scan_enclose hb, literalOf_reverse hne]; rfl

/-- Segments put together in front of what is already cut. -/
inductive Segmented : Text → List Segment → Prop
  | nil : Segmented [] []
  | placeholder {b rest segments} : IsBody b → Segmented rest segments →
      Segmented (enclose b ++ rest) (.placeholder b :: segments)
  | literal {t rest segments} : t ≠ [] → Passes t rest → rest = [] ∨ Opens rest → Segmented rest segments →
      Segmented (t ++ rest) (.literal t :: segments)

theorem Segmented.eq_scan {pattern : Text} {segments : List Segment} (h : Segmented pattern segments) :
    segments = scan pattern := by
  induction h with
  | nil => exact scan_nil.symm
  | placeholder hb _ ih => rw [scan_enclose hb, ih]
  | literal hne hp hr _ ih => rw [scan_literal hne hp hr, ih]

theorem exists_segmented (pattern : Text) : ∃ segments, Segmented pattern segments := by
  obtain ⟨t, rest, heq, hp, hr⟩ := exists_passes pattern
  by_cases hne : t = []
  · subst hne
    rcases hr with rfl | ⟨b, r, hb, rfl⟩
    · exact ⟨[], heq ▸ .nil⟩
    · have hlt : r.length < pattern.length := by rw [heq]; simp [enclose]; omega
      obtain ⟨segments, h⟩ := exists_segmented r
      exact ⟨.placeholder b :: segments, heq ▸ .placeholder hb h⟩
  · have hlt : rest.length < pattern.length := by
      have := List.length_pos_iff.mpr hne
      rw [heq, List.length_append]; omega
    obtain ⟨segments, h⟩ := exists_segmented rest
    exact ⟨.literal t :: segments, heq ▸ .literal hne hp hr h⟩
termination_by pattern.length

theorem segmented_scan (pattern : Text) : Segmented pattern (scan pattern) := by
  obtain ⟨segments, h⟩ := exists_segmented pattern
  exact h.eq_scan ▸ h

/-! ## Cuts and other bodies -/

theorem Segmented.flatMap_text {pattern : Text} {segments : List Segment} (h : Segmented pattern segments) :
    segments.flatMap Segment.text = pattern := by
  induction h with
  | nil => rfl
  | placeholder _ _ ih => rw [List.flatMap_cons, ih]; rfl
  | literal _ _ _ _ ih => rw [List.flatMap_cons, ih]; rfl

theorem opens_of_segmented {rest : Text} {segments : List Segment} (h : Segmented rest segments) (hr : Opens rest) :
    ∃ body tail, segments = .placeholder body :: tail ∧ IsBody body := by
  cases h with
  | nil => exact absurd hr not_opens_nil
  | placeholder hb _ => exact ⟨_, _, rfl, hb⟩
  | literal hne hp _ _ => exact absurd hr (hp 0 (List.length_pos_iff.mpr hne))

/-- A cut between segments leaves those on either side what they are. -/
theorem Segmented.cut {pattern : Text} {before after : List Segment} (h : Segmented pattern (before ++ after)) :
    Segmented (before.flatMap Segment.text) before ∧ Segmented (after.flatMap Segment.text) after := by
  induction before generalizing pattern with
  | nil => exact ⟨.nil, h.flatMap_text.symm ▸ h⟩
  | cons s before ih =>
    rw [List.cons_append] at h
    cases h with
    | placeholder hb hrest => exact ⟨.placeholder hb (ih hrest).1, (ih hrest).2⟩
    | literal hne hp hr hrest =>
      refine ⟨.literal hne ?_ ?_ (ih hrest).1, (ih hrest).2⟩
      · rw [← hrest.flatMap_text, List.flatMap_append] at hp
        exact hp.of_append
      · cases before with
        | nil => exact .inl rfl
        | cons s' before =>
          rcases hr with rfl | hopen
          · have hnil := hrest.eq_scan
            rw [scan_nil] at hnil
            cases hnil
          · obtain ⟨body, tail, hcons, hb⟩ := opens_of_segmented hrest hopen
            cases hcons
            exact .inr ⟨body, _, hb, rfl⟩

/-- A segment with another body, if it is a placeholder. -/
def Segment.mapBody (f : Text → Text) : Segment → Segment
  | .literal t => .literal t
  | .placeholder body => .placeholder (f body)

/-- Segments stay segments when the bodies are replaced by others. -/
theorem Segmented.mapBody {f : Text → Text} (hf : ∀ b, IsBody b → IsBody (f b)) {pattern : Text}
    {segments : List Segment} (h : Segmented pattern segments) :
    Segmented ((segments.map (Segment.mapBody f)).flatMap Segment.text) (segments.map (Segment.mapBody f)) := by
  induction h with
  | nil => exact .nil
  | placeholder hb _ ih => exact .placeholder (hf _ hb) ih
  | @literal t rest segments hne hp hr hseg ih =>
    rcases hr with rfl | hopen
    · rw [hseg.eq_scan, scan_nil]
      exact .literal hne hp (.inl rfl) .nil
    · obtain ⟨body, tail, rfl, hb⟩ := opens_of_segmented hseg hopen
      have hopen' : Opens (((.placeholder body :: tail).map (Segment.mapBody f)).flatMap Segment.text) :=
        ⟨f body, _, hf body hb, rfl⟩
      exact .literal hne (hp.of_opens hopen hopen') (.inr hopen') ih

theorem scan_mapBody {f : Text → Text} (hf : ∀ b, IsBody b → IsBody (f b)) (pattern : Text) :
    scan (((scan pattern).map (Segment.mapBody f)).flatMap Segment.text) =
      (scan pattern).map (Segment.mapBody f) :=
  ((segmented_scan pattern).mapBody hf).eq_scan.symm

/-! ## The two descriptions agree -/

/-- A segment in front of a segmentation. -/
theorem IsSegmentation.cons {s : Segment} {rest : Text} {segments : List Segment}
    (h : IsSegmentation rest segments) (hbody : ∀ b, s = .placeholder b → IsBody b)
    (hlit : ∀ t, s = .literal t → t ≠ [] ∧ Passes t rest)
    (hapart : ∀ t u after, s = .literal t → segments ≠ .literal u :: after) :
    IsSegmentation (s.text ++ rest) (s :: segments) := by
  refine ⟨by rw [List.flatMap_cons, h.joined], ?_, ?_, ?_, ?_⟩
  · intro b hb
    rcases List.mem_cons.mp hb with heq | hmem
    · exact hbody b heq.symm
    · exact h.bodies b hmem
  · intro hmem
    rcases List.mem_cons.mp hmem with heq | hmem
    · exact (hlit [] heq.symm).1 rfl
    · exact h.nonempty hmem
  · intro before t u after heq
    cases before with
    | nil =>
      obtain ⟨hs, htail⟩ := List.cons.inj heq
      exact hapart t u after hs htail
    | cons s' before => exact h.apart before t u after (List.cons.inj heq).2
  · intro before t after heq i hi
    cases before with
    | nil =>
      obtain ⟨rfl, -⟩ := List.cons.inj heq
      simpa [Segment.text] using (hlit t rfl).2 i hi
    | cons s' before =>
      obtain ⟨rfl, htail⟩ := List.cons.inj heq
      have hrest := h.unopened before t after htail i hi
      rw [List.flatMap_cons, List.length_append, Nat.add_assoc, ← List.drop_drop, List.drop_left]
      exact hrest

/-- The segments after the first are the segments of the text after it. -/
theorem IsSegmentation.tail {s : Segment} {pattern : Text} {segments : List Segment}
    (h : IsSegmentation pattern (s :: segments)) :
    ∃ rest, pattern = s.text ++ rest ∧ IsSegmentation rest segments := by
  refine ⟨segments.flatMap Segment.text, by rw [← h.joined, List.flatMap_cons], rfl, ?_, ?_, ?_, ?_⟩
  · exact fun b hb => h.bodies b (List.mem_cons_of_mem s hb)
  · exact fun hmem => h.nonempty (List.mem_cons_of_mem s hmem)
  · exact fun before t u after heq => h.apart (s :: before) t u after (by rw [heq]; rfl)
  · intro before t after heq i hi
    have hpos := h.unopened (s :: before) t after (by rw [heq]; rfl) i hi
    rw [← h.joined, List.flatMap_cons, List.flatMap_cons, List.length_append, Nat.add_assoc,
      ← List.drop_drop, List.drop_left] at hpos
    exact hpos

theorem Segmented.isSegmentation {pattern : Text} {segments : List Segment} (h : Segmented pattern segments) :
    IsSegmentation pattern segments := by
  induction h with
  | nil => exact ⟨rfl, by simp, by simp, by simp, by simp⟩
  | @placeholder b rest segments hb _ ih =>
    refine ih.cons (s := .placeholder b) (fun b' heq => ?_) (fun t heq => ?_) (fun t u after heq => ?_)
    · cases heq; exact hb
    · cases heq
    · cases heq
  | @literal t rest segments hne hp hr hseg ih =>
    refine ih.cons (s := .literal t) (fun b heq => ?_) (fun t' heq => ?_) (fun t' u after _ htail => ?_)
    · cases heq
    · cases heq; exact ⟨hne, hp⟩
    · -- What follows a literal is nothing or opens a placeholder, so no literal starts there.
      subst htail
      have hpos := List.length_pos_iff.mpr fun hu : u = [] => ih.nonempty (by simp [hu])
      rcases hr with rfl | hopen
      · have hu := ih.joined
        simp only [List.flatMap_cons, List.append_eq_nil_iff, Segment.text] at hu
        rw [hu.1] at hpos
        exact absurd hpos (Nat.lt_irrefl 0)
      · exact ih.unopened [] u after rfl 0 hpos hopen

theorem IsSegmentation.segmented {pattern : Text} {segments : List Segment} (h : IsSegmentation pattern segments) :
    Segmented pattern segments := by
  induction segments generalizing pattern with
  | nil =>
    have hp := h.joined
    simp only [List.flatMap_nil] at hp
    exact hp ▸ .nil
  | cons s segments ih =>
    obtain ⟨rest, rfl, htail⟩ := h.tail
    have hrest := ih htail
    cases s with
    | placeholder b => exact .placeholder (h.bodies b (by simp)) hrest
    | literal t =>
      have hne : t ≠ [] := fun ht => h.nonempty (by simp [ht])
      have hp : Passes t rest := by
        intro i hi
        simpa [Segment.text] using h.unopened [] t segments rfl i hi
      refine .literal hne hp ?_ hrest
      cases hrest with
      | nil => exact .inl rfl
      | placeholder hb hseg => exact .inr ⟨_, _, hb, rfl⟩
      | literal => exact absurd rfl (h.apart [] t _ _)

/-! ## Whether there is a placeholder -/

theorem hasPlaceholder_enclose {b : Text} (h : IsBody b) (rest : Text) :
    hasPlaceholder (enclose b ++ rest) = true := by
  have hat := placeholderAt_enclose h rest
  rw [enclose_append] at hat ⊢
  rw [hasPlaceholder, hat]; rfl

theorem hasPlaceholder_passes {t rest : Text} (h : Passes t rest) :
    hasPlaceholder (t ++ rest) = hasPlaceholder rest := by
  induction t with
  | nil => rfl
  | cons c t ih =>
    obtain ⟨h0, ht⟩ := passes_cons.mp h
    rw [List.cons_append, hasPlaceholder, placeholderAt_eq_none h0, ih ht]; rfl

theorem Segmented.hasPlaceholder_iff {pattern : Text} {segments : List Segment}
    (h : Segmented pattern segments) :
    hasPlaceholder pattern = true ↔ ∃ body, .placeholder body ∈ segments := by
  induction h with
  | nil => simp [hasPlaceholder]
  | @placeholder b rest segments hb _ _ =>
    exact ⟨fun _ => ⟨b, by simp⟩, fun _ => hasPlaceholder_enclose hb rest⟩
  | literal _ hp _ _ ih =>
    rw [hasPlaceholder_passes hp, ih]
    simp

/-- **A pattern has one segmentation, and it is what `scan` gives.** Some segment
of it is a placeholder just when `hasPlaceholder` says so. -/
theorem isSegmentation_iff_eq_scan (pattern : Text) :
    (∀ segments, IsSegmentation pattern segments ↔ segments = scan pattern) ∧
      (hasPlaceholder pattern = true ↔ ∃ body, .placeholder body ∈ scan pattern) := by
  refine ⟨fun segments => ⟨fun h => h.segmented.eq_scan, ?_⟩, (segmented_scan pattern).hasPlaceholder_iff⟩
  rintro rfl
  exact (segmented_scan pattern).isSegmentation

/- Neither an empty body nor a dollar sign before a dollar sign opens anything. -/
example : scan "{$${}${a}${b}}".toList =
    [.literal ['{', '$', '$', '{', '}'], .placeholder ['a'], .placeholder ['b'], .literal ['}']] := by cbv

end Placeholders.Pattern

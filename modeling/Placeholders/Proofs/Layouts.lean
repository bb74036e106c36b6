/-
How a stage is laid out: a gap, then tokens with a gap after each, every token a row of
quoted sections and single characters (`IsLayout`). A stage has one layout, and
`tokenize` gives its tokens (`tokenize_layout`).

The tokens can also be read in one pass over the characters (`Reading`). A quote mark
is opened there only with an equal mark ahead, and each step keeps one ahead
(`Closes`), so nothing is open at the end.
-/
import Placeholders.Proofs.Tokens

namespace Placeholders.Pattern
open Text (isBlank IsGap)

/-- What tokens are made of: quoted sections and single characters. -/
inductive Piece
  | quoted (q : Char) (x : Text)
  | single (c : Char)
deriving DecidableEq, Repr

namespace Piece

/-- The piece as written. -/
def text : Piece → Text
  | quoted q x => q :: (x ++ [q])
  | single c => [c]

/-- Can the piece stand with `rest` after it? A quote mark is a single character only
where no equal mark comes after it. -/
def Fits : Piece → Text → Prop
  | quoted q x, _ => isQuote q = true ∧ q ∉ x
  | single c, rest => isBlank c = false ∧ (isQuote c = true → c ∉ rest)

instance : (p : Piece) → (rest : Text) → Decidable (p.Fits rest)
  | quoted q x, _ => inferInstanceAs (Decidable (isQuote q = true ∧ q ∉ x))
  | single c, rest => inferInstanceAs (Decidable (isBlank c = false ∧ (isQuote c = true → c ∉ rest)))

end Piece

/-- A token in its pieces, and the gap after it. -/
structure Word where
  pieces : List Piece
  gap : Text
deriving DecidableEq, Repr

namespace Word

/-- The pieces of the word, joined. -/
def token (w : Word) : Text := w.pieces.flatMap Piece.text

/-- The word as written. -/
def text (w : Word) : Text := w.token ++ w.gap

/-- Can the word stand with these words after it? -/
structure Fits (w : Word) (after : List Word) : Prop where
  gap : IsGap w.gap
  parted : after ≠ [] → w.gap ≠ []
  filled : w.pieces ≠ []
  pieces : ∀ p right, p :: right <:+ w.pieces →
    p.Fits (right.flatMap Piece.text ++ (w.gap ++ after.flatMap text))

end Word

/-- A gap, and words. -/
structure Layout where
  lead : Text
  words : List Word
deriving DecidableEq, Repr

namespace Layout

/-- The layout as written. -/
def text (l : Layout) : Text := l.lead ++ l.words.flatMap Word.text

/-- The tokens in order. -/
def tokens (l : Layout) : List Text := l.words.map Word.token

/-- The piece is in the layout, with `rest` after it. -/
def Has (l : Layout) (p : Piece) (rest : Text) : Prop :=
  ∃ w after right, w :: after <:+ l.words ∧ p :: right <:+ w.pieces ∧
    rest = right.flatMap Piece.text ++ (w.gap ++ after.flatMap Word.text)

end Layout

/-- A layout of the stage. -/
structure IsLayout (stage : Text) (l : Layout) : Prop where
  written : l.text = stage
  lead : IsGap l.lead
  words : ∀ w after, w :: after <:+ l.words → w.Fits after

theorem forall_suffix_cons {α : Type} {P : α → List α → Prop} {b : α} {l : List α} :
    (∀ a after, a :: after <:+ b :: l → P a after) ↔ P b l ∧ ∀ a after, a :: after <:+ l → P a after := by
  constructor
  · exact fun h => ⟨h b l (List.suffix_refl _), fun a after hs => h a after (hs.trans (List.suffix_cons b l))⟩
  · rintro ⟨hb, h⟩ a after hs
    rcases List.suffix_cons_iff.mp hs with heq | hs
    · cases heq
      exact hb
    · exact h a after hs

/-! ## The pieces of one token -/

/-- Pieces that fit, with `rest` after them. -/
def Row (ps : List Piece) (rest : Text) : Prop :=
  ∀ p right, p :: right <:+ ps → p.Fits (right.flatMap Piece.text ++ rest)

variable {p p' : Piece} {ps ps' : List Piece} {rest : Text}

theorem row_nil : Row [] rest := by
  intro p right h
  cases List.suffix_nil.mp h

theorem row_cons : Row (p :: ps) rest ↔ p.Fits (ps.flatMap Piece.text ++ rest) ∧ Row ps rest :=
  forall_suffix_cons

theorem Piece.text_ne_nil (p : Piece) : p.text ≠ [] := by
  cases p <;> exact List.cons_ne_nil _ _

theorem Piece.text_injective : Function.Injective Piece.text := by
  intro p p' h
  cases p with
  | quoted q x =>
    cases p' with
    | quoted q' x' =>
      obtain ⟨rfl, h⟩ := List.cons.inj h
      rw [List.append_cancel_right h]
    | single c' => simp [Piece.text] at h
  | single c =>
    cases p' with
    | quoted q' x' => simp [Piece.text] at h
    | single c' => rw [List.singleton_inj.mp h]

theorem Row.units (h : Row ps rest) : Units (ps.flatMap Piece.text) rest := by
  induction ps with
  | nil => exact .nil
  | cons p ps ih =>
    obtain ⟨hp, hps⟩ := row_cons.mp h
    cases p with
    | quoted q x =>
      have heq : (Piece.quoted q x :: ps).flatMap Piece.text = q :: (x ++ q :: ps.flatMap Piece.text) := by
        simp [Piece.text]
      exact heq ▸ .quoted hp.1 hp.2 (ih hps)
    | single c => exact .single hp.1 hp.2 (ih hps)

theorem exists_row {t : Text} (h : Units t rest) : ∃ ps, Row ps rest ∧ ps.flatMap Piece.text = t := by
  induction h with
  | nil => exact ⟨[], row_nil, rfl⟩
  | @quoted q x t rest hq hx _ ih =>
    obtain ⟨ps, hps, rfl⟩ := ih
    exact ⟨.quoted q x :: ps, row_cons.mpr ⟨⟨hq, hx⟩, hps⟩, by simp [Piece.text]⟩
  | @single c t rest hc hlone _ ih =>
    obtain ⟨ps, hps, rfl⟩ := ih
    exact ⟨.single c :: ps, row_cons.mpr ⟨⟨hc, hlone⟩, hps⟩, rfl⟩

/-- A piece that fits is the unit that its first character starts. -/
theorem Piece.Fits.exists_unitAt (h : p.Fits rest) : ∃ c r, p.text ++ rest = c :: r ∧ unitAt c r = (p.text, rest) := by
  cases p with
  | quoted q x => exact ⟨q, x ++ q :: rest, by simp [Piece.text], unitAt_quoted h.1 h.2 rest⟩
  | single c => exact ⟨c, rest, rfl, unitAt_single h.2⟩

/-- Rows with the same text have the same pieces. -/
theorem Row.eq_of_text (h : Row ps rest) (h' : Row ps' rest)
    (heq : ps.flatMap Piece.text = ps'.flatMap Piece.text) : ps = ps' := by
  induction ps generalizing ps' with
  | nil =>
    cases ps' with
    | nil => rfl
    | cons p' ps' => exact absurd (List.append_eq_nil_iff.mp heq.symm).1 p'.text_ne_nil
  | cons p ps ih =>
    cases ps' with
    | nil => exact absurd (List.append_eq_nil_iff.mp heq).1 p.text_ne_nil
    | cons p' ps' =>
      obtain ⟨hp, hps⟩ := row_cons.mp h
      obtain ⟨hp', hps'⟩ := row_cons.mp h'
      obtain ⟨c, r, hcr, hunit⟩ := hp.exists_unitAt
      obtain ⟨c', r', hcr', hunit'⟩ := hp'.exists_unitAt
      rw [List.flatMap_cons, List.flatMap_cons] at heq
      rw [← List.append_assoc, ← heq, List.append_assoc, hcr] at hcr'
      cases hcr'
      obtain ⟨htext, hrest⟩ := Prod.mk.inj (hunit.symm.trans hunit')
      rw [Piece.text_injective htext, ih hps hps' (List.append_cancel_right hrest)]

/-! ## The words of one stage -/

/-- Words that fit. -/
def Laid (ws : List Word) : Prop := ∀ w after, w :: after <:+ ws → w.Fits after

variable {w : Word} {ws ws' : List Word} {g g' : Text}

theorem laid_nil : Laid [] := by
  intro w after h
  cases List.suffix_nil.mp h

theorem laid_cons : Laid (w :: ws) ↔ w.Fits ws ∧ Laid ws := forall_suffix_cons

namespace Word.Fits

theorem row (h : w.Fits ws) : Row w.pieces (w.gap ++ ws.flatMap Word.text) := h.pieces

theorem token_ne_nil (h : w.Fits ws) : w.token ≠ [] := by
  intro hnil
  obtain ⟨p, hp⟩ := List.exists_mem_of_ne_nil _ h.filled
  exact p.text_ne_nil (List.flatMap_eq_nil_iff.mp hnil p hp)

theorem stops (h : w.Fits ws) : Stops (w.gap ++ ws.flatMap Word.text) := by
  intro c hc
  cases hgap : w.gap with
  | nil =>
    cases ws with
    | nil =>
      rw [hgap] at hc
      cases hc
    | cons w' ws => exact absurd hgap (h.parted (List.cons_ne_nil w' ws))
  | cons d g =>
    rw [hgap] at hc
    cases hc
    exact h.gap c (hgap ▸ List.mem_cons_self)

theorem tokenAt_eq (h : w.Fits ws) :
    tokenAt (w.token ++ (w.gap ++ ws.flatMap Word.text)) = (w.token, w.gap ++ ws.flatMap Word.text) :=
  tokenAt_of_units h.row.units h.stops

end Word.Fits

namespace Laid

theorem text_ne_nil (h : Laid ws) (hne : ws ≠ []) : ws.flatMap Word.text ≠ [] := by
  cases ws with
  | nil => exact absurd rfl hne
  | cons w ws =>
    intro hnil
    exact (laid_cons.mp h).1.token_ne_nil (List.append_eq_nil_iff.mp (List.append_eq_nil_iff.mp hnil).1).1

/-- Words that fit do not start with a blank. -/
theorem head_not_blank (h : Laid ws) : ∀ c ∈ (ws.flatMap Word.text).head?, isBlank c = false := by
  intro c hc
  cases ws with
  | nil => cases hc
  | cons w ws =>
    obtain ⟨hw, -⟩ := laid_cons.mp h
    have hunits : Units w.token _ := hw.row.units
    cases htoken : w.token with
    | nil => exact absurd htoken hw.token_ne_nil
    | cons d t =>
      rw [List.flatMap_cons, Word.text, htoken] at hc
      rw [htoken] at hunits
      cases hc
      exact hunits.head_not_blank

theorem tokenized (h : Laid ws) (hg : IsGap g) : Tokenized (g ++ ws.flatMap Word.text) (ws.map Word.token) := by
  induction ws generalizing g with
  | nil => exact (List.append_nil g).symm ▸ .nil hg
  | cons w ws ih =>
    obtain ⟨hw, hws⟩ := laid_cons.mp h
    rw [List.flatMap_cons, Word.text, List.append_assoc]
    exact .cons hg hw.token_ne_nil hw.row.units hw.stops (ih hws hw.gap)

end Laid

theorem exists_laid {stage : Text} {ts : List Text} (h : Tokenized stage ts) :
    ∃ g ws, IsGap g ∧ Laid ws ∧ g ++ ws.flatMap Word.text = stage := by
  induction h with
  | @nil g hg => exact ⟨g, [], hg, laid_nil, List.append_nil g⟩
  | @cons g t rest ts hg hne hunits hstops _ ih =>
    obtain ⟨gap, ws, hgap, hlaid, rfl⟩ := ih
    obtain ⟨ps, hrow, rfl⟩ := exists_row hunits
    have hfilled : ps ≠ [] := fun hnil => hne (congrArg (List.flatMap Piece.text) hnil)
    have hparted : ws ≠ [] → gap ≠ [] := by
      -- Without a gap the token would not end where the words begin.
      rintro hws rfl
      obtain ⟨c, r, hcr⟩ := List.exists_cons_of_ne_nil (hlaid.text_ne_nil hws)
      have hblank : isBlank c = true := hstops c (by rw [hcr]; rfl)
      rw [hlaid.head_not_blank c (by rw [hcr]; rfl)] at hblank
      cases hblank
    refine ⟨g, ⟨ps, gap⟩ :: ws, hg, laid_cons.mpr ⟨⟨hgap, hparted, hfilled, hrow⟩, hlaid⟩, ?_⟩
    rw [List.flatMap_cons, Word.text, List.append_assoc]
    rfl

theorem append_gap_inj {t t' : Text} (hg : IsGap g) (hg' : IsGap g') (ht : ∀ c ∈ t.head?, isBlank c = false)
    (ht' : ∀ c ∈ t'.head?, isBlank c = false) (heq : g ++ t = g' ++ t') : g = g' ∧ t = t' := by
  have hself : ∀ u : Text, (∀ c ∈ u.head?, isBlank c = false) → u.dropWhile isBlank = u := by
    intro u hu
    cases u with
    | nil => rfl
    | cons c r => exact List.dropWhile_cons_of_neg (by simp [hu c rfl])
  have hdrop := congrArg (List.dropWhile isBlank) heq
  rw [Text.dropWhile_gap hg, Text.dropWhile_gap hg', hself t ht, hself t' ht'] at hdrop
  exact ⟨List.append_cancel_right (hdrop ▸ heq), hdrop⟩

/-- Words with the same text are the same, and so are the gaps before them. -/
theorem Laid.eq_of_text (h : Laid ws) (h' : Laid ws') (hg : IsGap g) (hg' : IsGap g')
    (heq : g ++ ws.flatMap Word.text = g' ++ ws'.flatMap Word.text) : g = g' ∧ ws = ws' := by
  induction ws generalizing ws' g g' with
  | nil =>
    obtain ⟨rfl, htext⟩ := append_gap_inj hg hg' h.head_not_blank h'.head_not_blank heq
    by_cases hne : ws' = []
    · exact ⟨rfl, hne.symm⟩
    · exact absurd htext.symm (h'.text_ne_nil hne)
  | cons w ws ih =>
    obtain ⟨rfl, htext⟩ := append_gap_inj hg hg' h.head_not_blank h'.head_not_blank heq
    cases ws' with
    | nil => exact absurd htext (h.text_ne_nil (List.cons_ne_nil w ws))
    | cons w' ws' =>
      obtain ⟨hw, hws⟩ := laid_cons.mp h
      obtain ⟨hw', hws'⟩ := laid_cons.mp h'
      rw [List.flatMap_cons, List.flatMap_cons, Word.text, Word.text, List.append_assoc, List.append_assoc] at htext
      obtain ⟨htoken, hrest⟩ := Prod.mk.inj (hw.tokenAt_eq.symm.trans (htext ▸ hw'.tokenAt_eq))
      obtain ⟨hgap, rfl⟩ := ih hws hws' hw.gap hw'.gap hrest
      obtain ⟨ps, gap⟩ := w
      obtain ⟨ps', gap'⟩ := w'
      cases hgap
      have hpieces : ps = ps' := hw.row.eq_of_text hw'.row htoken
      exact ⟨rfl, hpieces ▸ rfl⟩

namespace IsLayout

variable {stage : Text} {l l' : Layout}

theorem tokenize_eq (h : IsLayout stage l) : tokenize stage = l.tokens := by
  have htokenized : Tokenized l.text l.tokens := Laid.tokenized h.words h.lead
  exact tokenized_iff.mp (h.written ▸ htokenized)

theorem eq (h : IsLayout stage l) (h' : IsLayout stage l') : l = l' := by
  have htext : l.text = l'.text := h.written.trans h'.written.symm
  obtain ⟨hlead, hwords⟩ := Laid.eq_of_text h.words h'.words h.lead h'.lead htext
  cases l
  cases l'
  cases hlead
  cases hwords
  rfl

/-- A quote mark that starts a piece opens a section just when an equal mark comes later. -/
theorem isQuoted_iff (h : IsLayout stage l) {p : Piece} {rest t : Text} {q : Char} (hp : l.Has p rest)
    (hq : isQuote q = true) (htext : p.text = q :: t) : (∃ x, p = .quoted q x) ↔ q ∈ t ++ rest := by
  obtain ⟨w, after, right, hw, hright, rfl⟩ := hp
  have hfits := (h.words w after hw).pieces p right hright
  cases p with
  | quoted q' x =>
    obtain ⟨rfl, rfl⟩ := List.cons.inj htext
    exact iff_of_true ⟨x, rfl⟩ (by simp)
  | single c =>
    obtain ⟨rfl, rfl⟩ := List.cons.inj htext
    exact iff_of_false (by simp) (hfits.2 hq)

end IsLayout

theorem exists_isLayout (stage : Text) : ∃ l, IsLayout stage l := by
  obtain ⟨ts, h⟩ := exists_tokenized stage
  obtain ⟨g, ws, hg, hlaid, htext⟩ := exists_laid h
  exact ⟨⟨g, ws⟩, htext, hg, hlaid⟩

/-! ## One pass over the characters -/

/-- What has been read: the tokens before, what there is of the next one, and the mark
that closes the section that is open. -/
structure Reading where
  tokens : List Text := []
  token : Text := []
  mark : Option Char := none
deriving DecidableEq, Repr

namespace Reading

/-- Reads a character with `rest` after it. -/
def step (s : Reading) (c : Char) (rest : Text) : Reading :=
  match s.mark with
  | some q => { s with token := s.token ++ [c], mark := if c = q then none else some q }
  | none =>
    if isBlank c then (if s.token = [] then s else { tokens := s.tokens ++ [s.token] })
    else { s with token := s.token ++ [c], mark := if isQuote c ∧ c ∈ rest then some c else none }

/-- Reads a text with `rest` after it. -/
def run (s : Reading) : Text → Text → Reading
  | [], _ => s
  | c :: t, rest => run (s.step c (t ++ rest)) t rest

/-- All tokens, with the one that the text ends in. -/
def all (s : Reading) : List Text := if s.token = [] then s.tokens else s.tokens ++ [s.token]

/-- Is the mark that closes the open section still ahead? -/
def Closes (s : Reading) (rest : Text) : Prop := ∀ q ∈ s.mark, q ∈ rest

theorem Closes.step {s : Reading} {c : Char} {rest : Text} (h : s.Closes (c :: rest)) :
    (s.step c rest).Closes rest := by
  intro q hq
  unfold Reading.step at hq
  split at hq
  · next q' hmark =>
    -- In a section: it goes on, unless this is its mark.
    split at hq
    · cases hq
    · next hne =>
      cases hq
      exact (List.mem_cons.mp (h q hmark)).resolve_left (Ne.symm hne)
  · next hmark =>
    split at hq
    · split at hq
      · rw [hmark] at hq
        cases hq
      · cases hq
    · split at hq
      · next hquote =>
        cases hq
        exact hquote.2
      · cases hq

/-- At every place of a text an open section is closed later in it. -/
theorem Closes.run {s : Reading} {t rest : Text} (h : s.Closes (t ++ rest)) : (s.run t rest).Closes rest := by
  induction t generalizing s with
  | nil => exact h
  | cons c t ih => exact ih h.step

theorem run_append (s : Reading) (t t' rest : Text) : s.run (t ++ t') rest = (s.run t (t' ++ rest)).run t' rest := by
  induction t generalizing s with
  | nil => rfl
  | cons c t ih =>
    rw [List.cons_append, run, run, ih, List.append_assoc]

/-! ### The tokens of a pass -/

variable {done : List Text} {token rest : Text}

theorem run_gap {g : Text} (hg : IsGap g) : run ⟨done, [], none⟩ g rest = ⟨done, [], none⟩ := by
  induction g with
  | nil => rfl
  | cons c g ih =>
    have hblank : isBlank c = true := hg c List.mem_cons_self
    have hstep : step ⟨done, [], none⟩ c (g ++ rest) = ⟨done, [], none⟩ := by simp [step, hblank]
    rw [run, hstep]
    exact ih fun d hd => hg d (List.mem_cons_of_mem c hd)

theorem run_section {q : Char} {x : Text} (hx : q ∉ x) :
    run ⟨done, token, some q⟩ (x ++ [q]) rest = ⟨done, token ++ (x ++ [q]), none⟩ := by
  induction x generalizing token with
  | nil => simp [run, step]
  | cons c x ih =>
    simp only [List.mem_cons, not_or] at hx
    obtain ⟨hne, hx⟩ := hx
    have hstep : step ⟨done, token, some q⟩ c (x ++ [q] ++ rest) = ⟨done, token ++ [c], some q⟩ := by
      simp [step, Ne.symm hne]
    rw [List.cons_append, run, hstep, ih hx, List.append_assoc]
    rfl

theorem run_units {t : Text} (h : Units t rest) : run ⟨done, token, none⟩ t rest = ⟨done, token ++ t, none⟩ := by
  induction h generalizing token with
  | nil => rw [run, List.append_nil]
  | @quoted q x t rest hq hx _ ih =>
    have hstep : step ⟨done, token, none⟩ q (x ++ q :: t ++ rest) = ⟨done, token ++ [q], some q⟩ := by
      simp [step, isBlank_of_isQuote hq, hq]
    have hsplit : x ++ q :: t = (x ++ [q]) ++ t := by simp
    rw [run, hstep, hsplit, run_append, run_section hx, ih]
    simp
  | @single c t rest hc hlone _ ih =>
    have hopen : ¬ (isQuote c = true ∧ c ∈ t ++ rest) := fun ⟨hq, hmem⟩ => hlone hq hmem
    have hstep : step ⟨done, token, none⟩ c (t ++ rest) = ⟨done, token ++ [c], none⟩ := by
      simp only [step, hc, Bool.false_eq_true, if_false, if_neg hopen]
    rw [run, hstep, ih, List.append_assoc]
    rfl

/-- A token is done at the blank after it, or at the end. -/
theorem all_run_of_stops {t : Text} (hne : t ≠ []) (h : Stops rest) :
    (run ⟨done, t, none⟩ rest []).all = (run ⟨done ++ [t], [], none⟩ rest []).all := by
  cases rest with
  | nil => simp [run, all, hne]
  | cons c rest =>
    have hblank : isBlank c = true := h c rfl
    simp [run, step, hblank, hne]

theorem all_run_of_tokenized {stage : Text} {ts : List Text} (h : Tokenized stage ts) :
    (run ⟨done, [], none⟩ stage []).all = done ++ ts := by
  induction h generalizing done with
  | nil hg => rw [run_gap hg, List.append_nil]; rfl
  | @cons g t rest ts hg hne hunits hstops _ ih =>
    rw [run_append, run_gap hg, run_append, List.append_nil, run_units hunits, List.nil_append,
      all_run_of_stops hne hstops, ih, List.append_assoc]
    rfl

end Reading

/-- **The grammar of a stage.** A stage has one layout: a gap, then tokens with gaps
between them that are not empty, each a row of quoted sections and single characters.
`tokenize` gives the tokens of that layout. A quote mark that starts a piece of it
opens a section just when an equal mark comes later in the stage. The same tokens are
read in one pass, and wherever the pass is in a section the mark that closes it is
still to come; so none is open at the end. -/
theorem tokenize_layout (stage : Text) :
    (∃ l, IsLayout stage l ∧ (∀ l', IsLayout stage l' → l' = l) ∧ tokenize stage = l.tokens ∧
      ∀ p rest, l.Has p rest → ∀ q t, isQuote q = true → p.text = q :: t →
        ((∃ x, p = .quoted q x) ↔ q ∈ t ++ rest)) ∧
      (Reading.run {} stage []).all = tokenize stage ∧ (Reading.run {} stage []).mark = none ∧
      ∀ before after, before ++ after = stage → (Reading.run {} before after).Closes after := by
  obtain ⟨l, hl⟩ := exists_isLayout stage
  have hnone : ∀ rest, Reading.Closes {} rest := by
    intro rest q hq
    cases hq
  refine ⟨⟨l, hl, fun l' hl' => hl'.eq hl, hl.tokenize_eq, fun p rest hp q t hq => hl.isQuoted_iff hp hq⟩, ?_, ?_,
    fun before after _ => (hnone _).run⟩
  · exact (Reading.all_run_of_tokenized (tokenized_iff.mpr rfl)).trans (List.nil_append _)
  · have hclosed : (Reading.run {} stage []).Closes [] := (hnone _).run
    exact Option.eq_none_iff_forall_not_mem.mpr fun q hq => List.not_mem_nil (hclosed q hq)

/-- A section inside a token, then a mark of each kind without a partner. -/
def mixed : Text := " 'a b'x\" 'y".toList

/-- The layout of `mixed`. -/
def mixedLayout : Layout where
  lead := [' ']
  words := [⟨[.quoted '\x27' "a b".toList, .single 'x', .single '\x22'], [' ']⟩, ⟨[.single '\x27', .single 'y'], []⟩]

theorem mixedLayout_isLayout : IsLayout mixed mixedLayout := by
  refine ⟨by decide, Text.isGap_space, laid_cons.mpr ⟨?_, laid_cons.mpr ⟨?_, laid_nil⟩⟩⟩
  · refine ⟨Text.isGap_space, by decide, by decide, ?_⟩
    exact row_cons.mpr ⟨by decide, row_cons.mpr ⟨by decide, row_cons.mpr ⟨by decide, row_nil⟩⟩⟩
  · refine ⟨Text.isGap_nil, by decide, by decide, ?_⟩
    exact row_cons.mpr ⟨by decide, row_cons.mpr ⟨by decide, row_nil⟩⟩

theorem tokenize_layout_mixed :
    IsLayout mixed mixedLayout ∧ (∀ l, IsLayout mixed l → l = mixedLayout) ∧
      tokenize mixed = ["'a b'x\"".toList, "'y".toList] ∧
      mixedLayout.Has (.single '\x22') " 'y".toList ∧ isQuote '\x22' = true ∧
      ((∃ x, Piece.single '\x22' = .quoted '\x22' x) ↔ '\x22' ∈ " 'y".toList) ∧
      (Reading.run {} mixed []).mark = none ∧
      (Reading.run {} " 'a".toList " b'x\" 'y".toList).mark = some '\x27' ∧
      (Reading.run {} " 'a".toList " b'x\" 'y".toList).Closes " b'x\" 'y".toList := by
  have hhas : mixedLayout.Has (.single '\x22') " 'y".toList :=
    ⟨_, _, _, List.suffix_refl _, ⟨[.quoted '\x27' "a b".toList, .single 'x'], rfl⟩, by decide⟩
  obtain ⟨⟨l, -, hunique, htokens, hquote⟩, -, hmark, hcloses⟩ := tokenize_layout mixed
  obtain rfl : mixedLayout = l := hunique _ mixedLayout_isLayout
  exact ⟨mixedLayout_isLayout, hunique, htokens, hhas, by decide, hquote _ _ hhas _ [] (by decide) rfl, hmark,
    by decide, hcloses " 'a".toList _ (by decide)⟩

end Placeholders.Pattern

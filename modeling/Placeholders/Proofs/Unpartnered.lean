/-
Quote marks without a partner. The pass over a stage is outside of every section just
where a piece of the layout begins (`IsLayout.mark_eq_none_iff`); so the marks that it
comes to there, with no equal mark ahead, are the single marks of the layout
(`IsLayout.unpartnered_iff`).

A token with such a mark should be opaque. It is, unless it begins with a section and
ends in the mark of that section (`kind_of_unpartnered`): the kind of a token is told by
its two ends, and there they look like a pair.
-/
import Placeholders.Proofs.Layouts
import Placeholders.Proofs.Quoting

namespace Placeholders.Pattern
open Text (isBlank IsGap)

/-- The mark `q`, with `rest` after it in the stage, neither opens nor closes a section:
the pass comes to it outside of every section, and no equal mark is ahead. A mark inside
a section is a part of that section. -/
structure Unpartnered (stage : Text) (q : Char) (rest : Text) : Prop where
  isMark : isQuote q = true
  last : q ∉ rest
  outside : ∃ before, before ++ q :: rest = stage ∧ (Reading.run {} before (q :: rest)).mark = none

/-- The word begins with a section, and its last piece ends in the mark of that section. -/
def Word.IsWrapped (w : Word) : Prop :=
  ∃ q x mid p, w.pieces = .quoted q x :: (mid ++ [p]) ∧ p.text.getLast? = some q

/-! ## Where the pass is outside of a section -/

namespace Reading

variable {s : Reading} {rest : Text}

theorem mark_run_gap {g : Text} (hg : IsGap g) (hs : s.mark = none) : (s.run g rest).mark = none := by
  induction g generalizing s with
  | nil => exact hs
  | cons c g ih =>
    have hblank : isBlank c = true := hg c List.mem_cons_self
    refine ih (fun d hd => hg d (List.mem_cons_of_mem c hd)) ?_
    unfold step
    rw [hs]
    dsimp only
    rw [if_pos hblank]
    split
    · exact hs
    · rfl

theorem mark_run_units {t : Text} (h : Units t rest) (hs : s.mark = none) : (s.run t rest).mark = none := by
  obtain ⟨done, token, mark⟩ := s
  cases hs
  rw [run_units h]

theorem mark_run_inside {q : Char} {x : Text} (hx : q ∉ x) (hs : s.mark = some q) : (s.run x rest).mark = some q := by
  induction x generalizing s with
  | nil => exact hs
  | cons c x ih =>
    simp only [List.mem_cons, not_or] at hx
    refine ih hx.2 ?_
    simp [step, hs, Ne.symm hx.1]

end Reading

variable {s : Reading} {p : Piece} {ps : List Piece} {ws : List Word} {before rest u : Text} {c : Char}

theorem Piece.Fits.units (h : p.Fits rest) : Units p.text rest := by
  have hrow : Row [p] rest := row_cons.mpr ⟨h, row_nil⟩
  simpa using hrow.units

/-- Inside a piece the pass is in its section. -/
theorem Piece.Fits.eq_nil_of_mark (h : p.Fits rest) (hs : s.mark = none) {d : Text} (htext : p.text = before ++ c :: d)
    (hmark : (s.run before (c :: (d ++ rest))).mark = none) : before = [] := by
  cases before with
  | nil => rfl
  | cons b before =>
    exfalso
    cases p with
    | single c' => simp [Piece.text] at htext
    | quoted q x =>
      obtain ⟨rfl, hbody⟩ := List.cons.inj htext
      have hbefore : q ∉ before := by
        intro hq
        rcases append_eq_append_cons hbody with ⟨d', rfl, -⟩ | ⟨b', rfl, hend⟩
        · exact h.2 (List.mem_append_left _ hq)
        · cases b' with
          | nil => exact h.2 (by simpa using hq)
          | cons => simp at hend
      have hopen : (s.step q (before ++ c :: (d ++ rest))).mark = some q := by
        have hahead : q ∈ before ++ c :: (d ++ rest) := by
          have hmem : q ∈ x ++ [q] ++ rest := by simp
          rw [hbody] at hmem
          simpa using hmem
        simp [Reading.step, hs, isBlank_of_isQuote h.1, h.1, hahead]
      rw [Reading.run, Reading.mark_run_inside hbefore hopen] at hmark
      cases hmark

theorem Row.starts (h : Row ps rest) (hs : s.mark = none) (htext : ps.flatMap Piece.text = before ++ c :: u)
    (hmark : (s.run before (c :: (u ++ rest))).mark = none) :
    ∃ p right t, p :: right <:+ ps ∧ p.text = c :: t ∧ u = t ++ right.flatMap Piece.text := by
  induction ps generalizing s before with
  | nil => simp at htext
  | cons p ps ih =>
    obtain ⟨hp, hps⟩ := row_cons.mp h
    rw [List.flatMap_cons] at htext
    rcases append_eq_append_cons htext with ⟨d, hd, rfl⟩ | ⟨before', rfl, htext'⟩
    · rw [List.append_assoc] at hmark
      obtain rfl := hp.eq_nil_of_mark hs hd hmark
      exact ⟨p, ps, d, List.suffix_refl _, hd, rfl⟩
    · have hrest : before' ++ c :: (u ++ rest) = ps.flatMap Piece.text ++ rest := by rw [htext']; simp
      rw [Reading.run_append, hrest] at hmark
      obtain ⟨p', right, t, hsuffix, hp', hu⟩ := ih hps (Reading.mark_run_units hp.units hs) htext' hmark
      exact ⟨p', right, t, hsuffix.trans (List.suffix_cons p ps), hp', hu⟩

/-- In a row of words the pass is outside of a section only in a gap and where a piece begins. -/
theorem Laid.starts (h : Laid ws) (hs : s.mark = none) (hc : isBlank c = false)
    (htext : ws.flatMap Word.text = before ++ c :: rest) (hmark : (s.run before (c :: rest)).mark = none) :
    ∃ w after p right t, w :: after <:+ ws ∧ p :: right <:+ w.pieces ∧ p.text = c :: t ∧
      rest = t ++ (right.flatMap Piece.text ++ (w.gap ++ after.flatMap Word.text)) := by
  induction ws generalizing s before with
  | nil => simp at htext
  | cons w ws ih =>
    obtain ⟨hw, hws⟩ := laid_cons.mp h
    rw [List.flatMap_cons, Word.text, List.append_assoc] at htext
    rcases append_eq_append_cons htext with ⟨d, hd, rfl⟩ | ⟨before', rfl, htext'⟩
    · obtain ⟨p, right, t, hsuffix, hp, rfl⟩ := hw.row.starts hs hd hmark
      exact ⟨w, ws, p, right, t, List.suffix_refl _, hsuffix, hp, by simp⟩
    · rcases append_eq_append_cons htext' with ⟨d, hd, -⟩ | ⟨before'', rfl, htext''⟩
      · have hblank := hw.gap c (by rw [hd]; simp)
        rw [hc] at hblank
        cases hblank
      · rw [Reading.run_append, Reading.run_append, ← htext', ← htext''] at hmark
        have htoken := Reading.mark_run_units hw.row.units hs
        obtain ⟨w', after, p, right, t, hsuffix, hp, htext, hrest⟩ :=
          ih hws (Reading.mark_run_gap hw.gap htoken) htext'' hmark
        exact ⟨w', after, p, right, t, hsuffix.trans (List.suffix_cons w ws), hp, htext, hrest⟩

theorem Laid.mark_run {ws' : List Word} (h : Laid (ws ++ ws')) (hs : s.mark = none) :
    (s.run (ws.flatMap Word.text) (ws'.flatMap Word.text)).mark = none := by
  induction ws generalizing s with
  | nil => exact hs
  | cons w ws ih =>
    rw [List.cons_append] at h
    obtain ⟨hw, hws⟩ := laid_cons.mp h
    have hunits := hw.row.units
    rw [List.flatMap_append] at hunits
    rw [List.flatMap_cons, Word.text, Reading.run_append, Reading.run_append]
    exact ih hws (Reading.mark_run_gap hw.gap (Reading.mark_run_units hunits hs))

theorem Row.mark_run {ps' : List Piece} (h : Row (ps ++ ps') rest) (hs : s.mark = none) :
    (s.run (ps.flatMap Piece.text) (ps'.flatMap Piece.text ++ rest)).mark = none := by
  induction ps generalizing s with
  | nil => exact hs
  | cons p ps ih =>
    rw [List.cons_append] at h
    obtain ⟨hp, hps⟩ := row_cons.mp h
    have hunits := hp.units
    rw [List.flatMap_append, List.append_assoc] at hunits
    rw [List.flatMap_cons, Reading.run_append]
    exact ih hps (Reading.mark_run_units hunits hs)

namespace IsLayout

variable {stage : Text} {l : Layout}

theorem mark_run_words (h : IsLayout stage l) {ws' : List Word} (hwords : ws ++ ws' = l.words) :
    (Reading.run {} (l.lead ++ ws.flatMap Word.text) (ws'.flatMap Word.text)).mark = none := by
  have hlaid : Laid (ws ++ ws') := hwords ▸ h.words
  rw [Reading.run_append]
  exact hlaid.mark_run (Reading.mark_run_gap h.lead rfl)

theorem exists_before (h : IsLayout stage l) (hp : l.Has p rest) :
    ∃ before, before ++ (p.text ++ rest) = stage ∧ (Reading.run {} before (p.text ++ rest)).mark = none := by
  obtain ⟨w, after, right, ⟨ws, hws⟩, ⟨ps, hps⟩, rfl⟩ := hp
  have hrow : Row (ps ++ p :: right) (w.gap ++ after.flatMap Word.text) := hps ▸ (h.words w after ⟨ws, hws⟩).row
  have hhead : p.text ++ (right.flatMap Piece.text ++ (w.gap ++ after.flatMap Word.text)) =
      (p :: right).flatMap Piece.text ++ (w.gap ++ after.flatMap Word.text) := by simp
  have hword : ps.flatMap Piece.text ++ ((p :: right).flatMap Piece.text ++ (w.gap ++ after.flatMap Word.text)) =
      (w :: after).flatMap Word.text := by simp [Word.text, Word.token, ← hps]
  rw [hhead]
  refine ⟨l.lead ++ ws.flatMap Word.text ++ ps.flatMap Piece.text, ?_, ?_⟩
  · rw [List.append_assoc, List.append_assoc, hword, ← List.flatMap_append, hws]
    exact h.written
  · rw [Reading.run_append, hword]
    exact hrow.mark_run (h.mark_run_words hws)

/-- The pass is outside of every section just where a piece begins, gaps apart. -/
theorem mark_eq_none_iff (h : IsLayout stage l) (hc : isBlank c = false) (hstage : before ++ c :: rest = stage) :
    (Reading.run {} before (c :: rest)).mark = none ↔
      ∃ p right t, l.Has p right ∧ p.text = c :: t ∧ rest = t ++ right := by
  constructor
  · intro hmark
    have htext : l.lead ++ l.words.flatMap Word.text = before ++ c :: rest := h.written.trans hstage.symm
    rcases append_eq_append_cons htext with ⟨d, hd, -⟩ | ⟨before', rfl, hwords⟩
    · have hblank := h.lead c (by rw [hd]; simp)
      rw [hc] at hblank
      cases hblank
    · rw [Reading.run_append] at hmark
      obtain ⟨w, after, p, right, t, hw, hp, hpt, rfl⟩ :=
        Laid.starts h.words (Reading.mark_run_gap h.lead rfl) hc hwords hmark
      exact ⟨p, _, t, ⟨w, after, right, hw, hp, rfl⟩, hpt, rfl⟩
  · rintro ⟨p, right, t, hp, htext, rfl⟩
    obtain ⟨before', hstage', hmark⟩ := h.exists_before hp
    rw [htext, List.cons_append] at hstage' hmark
    obtain rfl := List.append_cancel_right (hstage.trans hstage'.symm)
    exact hmark

/-- The marks without a partner are the single marks of the layout. -/
theorem unpartnered_iff (h : IsLayout stage l) {q : Char} (hq : isQuote q = true) :
    Unpartnered stage q rest ↔ l.Has (.single q) rest := by
  constructor
  · rintro ⟨-, hlast, before, hstage, hmark⟩
    obtain ⟨p, right, t, hp, htext, rfl⟩ := (h.mark_eq_none_iff (isBlank_of_isQuote hq) hstage).mp hmark
    have hopens := (h.isQuoted_iff hp hq htext).not.mpr hlast
    cases p with
    | quoted q' x =>
      obtain ⟨rfl, -⟩ := List.cons.inj htext
      exact absurd ⟨x, rfl⟩ hopens
    | single c =>
      obtain ⟨rfl, rfl⟩ := List.cons.inj htext
      exact hp
  · intro hp
    have hlast : q ∉ [] ++ rest := (h.isQuoted_iff hp hq rfl).not.mp (by simp)
    exact ⟨hq, hlast, h.exists_before hp⟩

theorem single_mem (h : IsLayout stage l) {w : Word} {after : List Word} {q : Char} (hw : w :: after <:+ l.words)
    (htoken : w.token = before ++ q :: u) (hmark : Unpartnered stage q (u ++ (w.gap ++ after.flatMap Word.text))) :
    .single q ∈ w.pieces := by
  obtain ⟨ws, hws⟩ := hw
  have hword : before ++ q :: (u ++ (w.gap ++ after.flatMap Word.text)) = (w :: after).flatMap Word.text := by
    simp [Word.text, htoken]
  obtain ⟨-, hlast, before', hstage, houtside⟩ := hmark
  have hbefore : before' = l.lead ++ ws.flatMap Word.text ++ before := by
    refine List.append_cancel_right (hstage.trans (h.written.symm.trans ?_))
    rw [Layout.text, ← hws, List.flatMap_append, ← hword]
    simp
  rw [hbefore, Reading.run_append, hword] at houtside
  obtain ⟨p, right, t, hp, htext, rfl⟩ :=
    (h.words w after ⟨ws, hws⟩).row.starts (h.mark_run_words hws) htoken houtside
  cases p with
  | quoted q' x =>
    -- A section has its mark once more.
    obtain ⟨rfl, rfl⟩ := List.cons.inj htext
    simp at hlast
  | single c =>
    obtain ⟨rfl, -⟩ := List.cons.inj htext
    exact hp.mem List.mem_cons_self

end IsLayout

/-! ## The kind of a token with a mark -/

theorem kind_of_mem {token : Text} {q : Char} (hq : isQuote q = true) (hmem : q ∈ token) :
    TokenKind.of token = if isQuoted token then .stringLiteral else .opaqueText := by
  have hdigits : ∀ t, q ∈ t → ¬ Text.isDigits t = true := by
    intro t ht h
    rw [not_isQuote_of_isDigit (isDigit_of_isDigits h q ht)] at hq
    cases hq
  have hdecimal : ¬ isDecimal token = true := by
    intro h
    obtain ⟨whole, fraction, rfl, hwhole, hfraction⟩ := exists_of_isDecimal h
    rcases List.mem_append.mp hmem with hmem | hmem
    · exact hdigits whole hmem hwhole
    · rcases List.mem_cons.mp hmem with rfl | hmem
      · exact absurd hq (by decide)
      · exact hdigits fraction hmem hfraction
  unfold TokenKind.of
  rw [if_neg (hdigits token hmem), if_neg hdecimal]

theorem exists_of_isQuoted {token : Text} (h : isQuoted token = true) :
    ∃ q t, isQuote q = true ∧ token = q :: (t ++ [q]) := by
  cases token with
  | nil => cases h
  | cons q r =>
    simp only [isQuoted, Bool.and_eq_true, beq_iff_eq] at h
    exact ⟨q, r.dropLast, h.1, by rw [List.dropLast_append_getLast? q h.2]⟩

theorem argument_of_isQuoted {token : Text} (h : isQuoted token = true) :
    ∃ q t, token = q :: (t ++ [q]) ∧ Argument.ofToken? token (.ofToken token) = some (.string t) := by
  have htype : ArgType.ofToken token = .string := by
    simp [ArgType.ofToken, ArgType.ofToken?, TokenKind.of, h, ArgType.ofKind]
  obtain ⟨q, t, hq, rfl⟩ := exists_of_isQuoted h
  refine ⟨q, t, rfl, ?_⟩
  rw [htype]
  simp [Argument.ofToken?, unquote?, utf8Size_of_isQuote hq]

namespace Word

variable {w : Word} {q : Char}

/-- Whether a word that begins with a section looks quoted is told by its last piece. -/
theorem isQuoted_token {x : Text} {mid : List Piece} (h : w.pieces = .quoted q x :: (mid ++ [p])) :
    isQuoted w.token = true ↔ isQuote q = true ∧ p.text.getLast? = some q := by
  have htoken : w.token = q :: ((x ++ q :: mid.flatMap Piece.text) ++ p.text) := by
    rw [token, h]
    simp [Piece.text]
  have hlast := List.getLast?_eq_some_getLast p.text_ne_nil
  rw [htoken, isQuoted, List.getLast?_append, hlast, Option.some_or]
  simp

theorem isQuoted_iff_isWrapped (h : Row w.pieces rest) (hmem : .single q ∈ w.pieces) :
    isQuoted w.token = true ↔ w.IsWrapped := by
  constructor
  · intro hquoted
    cases hpieces : w.pieces with
    | nil =>
      rw [hpieces] at hmem
      cases hmem
    | cons p ps =>
      rw [hpieces] at h hmem
      obtain ⟨hp, -⟩ := row_cons.mp h
      cases p with
      | single c =>
        -- The mark at the front would have to come again at the end.
        exfalso
        have htoken : w.token = c :: ps.flatMap Piece.text := by rw [token, hpieces]; rfl
        simp only [htoken, isQuoted, Bool.and_eq_true, beq_iff_eq] at hquoted
        exact hp.2 hquoted.1 (List.mem_append_left rest (List.mem_of_getLast? hquoted.2))
      | quoted q' x =>
        have hne : ps ≠ [] := by
          rintro rfl
          simp at hmem
        rw [← List.dropLast_concat_getLast hne] at hpieces
        exact ⟨q', x, _, _, hpieces, ((isQuoted_token hpieces).mp hquoted).2⟩
  · rintro ⟨q', x, mid, p, hpieces, hlast⟩
    rw [hpieces] at h
    exact (isQuoted_token hpieces).mpr ⟨(row_cons.mp h).1.1, hlast⟩

end Word

/-- **A token with a quote mark that has no partner is opaque**, and is handed over as raw
text, unless it begins with a section and ends in the mark of that section. Then it is
a string literal, and its value is all that stands between its two ends. -/
theorem kind_of_unpartnered (stage : Text) :
    ∃ l, IsLayout stage l ∧ tokenize stage = l.tokens ∧
      ∀ w after, w :: after <:+ l.words → ∀ before q u, w.token = before ++ q :: u →
        Unpartnered stage q (u ++ (w.gap ++ after.flatMap Word.text)) →
        (¬ w.IsWrapped → TokenKind.of w.token = .opaqueText ∧
          Argument.ofToken? w.token (.ofToken w.token) = some (.raw w.token)) ∧
        (w.IsWrapped → TokenKind.of w.token = .stringLiteral ∧
          ∃ q t, w.token = q :: (t ++ [q]) ∧ Argument.ofToken? w.token (.ofToken w.token) = some (.string t)) := by
  obtain ⟨l, hl⟩ := exists_isLayout stage
  refine ⟨l, hl, hl.tokenize_eq, fun w after hw before q u htoken hmark => ?_⟩
  have hkind := kind_of_mem hmark.isMark (htoken ▸ by simp : q ∈ w.token)
  have hquoted := Word.isQuoted_iff_isWrapped (hl.words w after hw).row (hl.single_mem hw htoken hmark)
  constructor
  · intro hwrapped
    rw [if_neg (hquoted.not.mpr hwrapped)] at hkind
    exact ⟨hkind, by simp [ArgType.ofToken, ArgType.ofToken?, hkind, Argument.ofToken?]⟩
  · intro hwrapped
    have hends := hquoted.mpr hwrapped
    rw [if_pos hends] at hkind
    exact ⟨hkind, argument_of_isQuoted hends⟩

/-- A double quote without a partner, then an apostrophe without one after a section. -/
def clipped : Text := "\"x 'a'b'".toList

/-- The layout of `clipped`. -/
def clippedLayout : Layout where
  lead := []
  words := [⟨[.single '\x22', .single 'x'], [' ']⟩,
    ⟨[.quoted '\x27' ['a'], .single 'b', .single '\x27'], []⟩]

theorem clippedLayout_isLayout : IsLayout clipped clippedLayout := by
  refine ⟨by decide, Text.isGap_nil, laid_cons.mpr ⟨?_, laid_cons.mpr ⟨?_, laid_nil⟩⟩⟩
  · refine ⟨Text.isGap_space, by decide, by decide, ?_⟩
    exact row_cons.mpr ⟨by decide, row_cons.mpr ⟨by decide, row_nil⟩⟩
  · refine ⟨Text.isGap_nil, by decide, by decide, ?_⟩
    exact row_cons.mpr ⟨by decide, row_cons.mpr ⟨by decide, row_cons.mpr ⟨by decide, row_nil⟩⟩⟩

theorem kind_of_unpartnered_clipped :
    tokenize clipped = ["\"x".toList, "'a'b'".toList] ∧
      Unpartnered clipped '\x22' "x 'a'b'".toList ∧ TokenKind.of "\"x".toList = .opaqueText ∧
      Argument.ofToken? "\"x".toList (.ofToken "\"x".toList) = some (.raw "\"x".toList) ∧
      Unpartnered clipped '\x27' [] ∧ TokenKind.of "'a'b'".toList = .stringLiteral ∧
      ∃ q t, "'a'b'".toList = q :: (t ++ [q]) ∧
        Argument.ofToken? "'a'b'".toList (.ofToken "'a'b'".toList) = some (.string t) := by
  have hfirst : Unpartnered clipped '\x22' "x 'a'b'".toList := ⟨by decide, by decide, [], rfl, rfl⟩
  have hlast : Unpartnered clipped '\x27' [] := ⟨by decide, by decide, "\"x 'a'b".toList, by decide, by decide⟩
  have hsingle : ¬ Word.IsWrapped ⟨[.single '\x22', .single 'x'], [' ']⟩ := by
    rintro ⟨q, x, mid, p, hpieces, -⟩
    cases hpieces
  have hwrapped : Word.IsWrapped ⟨[.quoted '\x27' ['a'], .single 'b', .single '\x27'], []⟩ :=
    ⟨'\x27', ['a'], [.single 'b'], .single '\x27', rfl, rfl⟩
  obtain ⟨l, hl, htokens, hkinds⟩ := kind_of_unpartnered clipped
  obtain rfl := hl.eq clippedLayout_isLayout
  obtain ⟨hfree, -⟩ := hkinds _ _ (List.suffix_refl _) [] _ _ rfl hfirst
  obtain ⟨-, hstring⟩ := hkinds _ _ (List.suffix_cons _ _) "'a'b".toList _ [] rfl hlast
  exact ⟨htokens, hfirst, (hfree hsingle).1, (hfree hsingle).2, hlast, (hstring hwrapped).1, (hstring hwrapped).2⟩

/-- A section, and a mark of the same kind at the end of the token that has no partner:
they pass for a pair. -/
theorem stringLiteral_of_unpartnered :
    tokenize "f 'a'b'".toList = [['f'], "'a'b'".toList] ∧ Unpartnered "f 'a'b'".toList '\x27' [] ∧
      TokenKind.of "'a'b'".toList = .stringLiteral ∧
      Argument.ofToken? "'a'b'".toList (.ofToken "'a'b'".toList) = some (.string "a'b".toList) := by
  exact ⟨by decide +kernel, ⟨by decide, by decide, "f 'a'b".toList, by decide, by decide⟩, by decide, by decide⟩

end Placeholders.Pattern

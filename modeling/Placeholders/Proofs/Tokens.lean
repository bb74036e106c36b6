/-
The grammar of a stage. A token is a row of units (`Units`): quoted sections and
single characters, where a quote mark may be a single character only if no equal
mark follows it in the stage. A stage is gaps and tokens in turn (`Tokenized`),
and `tokenize` gives its tokens (`tokenized_iff`).

Whether a quote mark stands alone hangs on all that follows it, so `Units` is
told what follows. It asks only which quote marks are there (`Units.mono`); this
is why tokens keep their shape when the gaps between them are made single spaces
(`Tokenized.spaced`).
-/
import Placeholders.Pattern.Token
import Placeholders.Proofs.Trimming

namespace Placeholders.Pattern
open Text (isBlank IsGap)

/-- The units of a token with `rest` after it. -/
inductive Units : Text → Text → Prop
  | nil {rest} : Units [] rest
  | quoted {q x t rest} : isQuote q = true → q ∉ x → Units t rest → Units (q :: (x ++ q :: t)) rest
  | single {c t rest} : isBlank c = false → (isQuote c = true → c ∉ t ++ rest) → Units t rest →
      Units (c :: t) rest

/-- A token may end before this text: it is empty or starts with a blank. -/
def Stops (rest : Text) : Prop := ∀ c ∈ rest.head?, isBlank c = true

theorem isBlank_of_isQuote {c : Char} (h : isQuote c = true) : isBlank c = false := by
  simp only [isQuote, Bool.or_eq_true, beq_iff_eq] at h
  rcases h with rfl | rfl <;> decide

/-! ## One token -/

theorem unitAt_quoted {q : Char} {x : Text} (hq : isQuote q = true) (hx : q ∉ x) (rest : Text) :
    unitAt q (x ++ q :: rest) = (q :: (x ++ [q]), rest) := by
  have hall : ∀ c ∈ x, (c != q) = true := fun c hc => bne_iff_ne.mpr fun hcq => hx (hcq ▸ hc)
  unfold unitAt
  rw [if_pos (by simp [hq]), List.takeWhile_append_of_pos hall, List.dropWhile_append_of_pos hall]
  simp

theorem unitAt_single {c : Char} {r : Text} (h : isQuote c = true → c ∉ r) : unitAt c r = ([c], r) := by
  unfold unitAt
  rw [if_neg]
  intro hc
  simp only [Bool.and_eq_true, List.contains_eq_mem, decide_eq_true_eq] at hc
  exact h hc.1 hc.2

theorem tokenAt_of_stops {rest : Text} (h : Stops rest) : tokenAt rest = ([], rest) := by
  cases rest with
  | nil => rw [tokenAt]
  | cons c r => rw [tokenAt_cons, if_pos (h c rfl)]

theorem tokenAt_of_units {t rest : Text} (h : Units t rest) (hr : Stops rest) :
    tokenAt (t ++ rest) = (t, rest) := by
  induction h with
  | nil => exact tokenAt_of_stops hr
  | @quoted q x t rest hq hx _ ih =>
    have heq : q :: (x ++ q :: t) ++ rest = q :: (x ++ q :: (t ++ rest)) := by simp
    have hblank := isBlank_of_isQuote hq
    rw [heq, tokenAt_cons, hblank, unitAt_quoted hq hx, ih hr]
    simp
  | @single c t rest hc hlone _ ih =>
    rw [List.cons_append, tokenAt_cons, hc, unitAt_single hlone, ih hr]
    simp

/-- What is read at a place is a row of units, up to a blank or the end. -/
theorem units_tokenAt (s : Text) :
    s = (tokenAt s).1 ++ (tokenAt s).2 ∧ Units (tokenAt s).1 (tokenAt s).2 ∧ Stops (tokenAt s).2 := by
  fun_induction tokenAt s with
  | case1 => exact ⟨rfl, .nil, by simp [Stops]⟩
  | case2 c r hc => exact ⟨rfl, .nil, by simpa [Stops] using hc⟩
  | case3 c r hc ih =>
    obtain ⟨heq, hunits, hstops⟩ := ih
    have hblank : isBlank c = false := by simpa using hc
    by_cases hq : isQuote c = true ∧ c ∈ r
    · -- The section runs to the next equal mark.
      obtain ⟨hquote, hmem⟩ := hq
      obtain ⟨x, r', rfl, hx⟩ := List.eq_append_cons_of_mem hmem
      rw [unitAt_quoted hquote hx] at heq hunits hstops ⊢
      dsimp only at heq hunits hstops ⊢
      refine ⟨?_, ?_, hstops⟩
      · rw [List.append_assoc, ← heq]; simp
      · simpa using Units.quoted hquote hx hunits
    · have hone := unitAt_single (c := c) (r := r) fun hquote hmem => hq ⟨hquote, hmem⟩
      rw [hone] at heq hunits hstops ⊢
      dsimp only at heq hunits hstops ⊢
      refine ⟨by rw [List.singleton_append, List.cons_append, ← heq], ?_, hstops⟩
      exact .single hblank (fun hquote hmem => hq ⟨hquote, heq ▸ hmem⟩) hunits

/-! ## One stage -/

/-- Gaps and tokens in turn. A token ends at a blank, so the gaps inside are not empty. -/
inductive Tokenized : Text → List Text → Prop
  | nil {g} : IsGap g → Tokenized g []
  | cons {g t rest ts} : IsGap g → t ≠ [] → Units t rest → Stops rest → Tokenized rest ts →
      Tokenized (g ++ (t ++ rest)) (t :: ts)

theorem Units.head_not_blank {c : Char} {t rest : Text} (h : Units (c :: t) rest) : isBlank c = false := by
  cases h with
  | quoted hq _ _ => exact isBlank_of_isQuote hq
  | single hc _ _ => exact hc

theorem tokenize_of_dropWhile_nil {stage : Text} (h : stage.dropWhile isBlank = []) : tokenize stage = [] := by
  rw [tokenize]
  split
  · rfl
  · next hs => rw [h] at hs; cases hs

theorem tokenize_of_dropWhile_cons {stage : Text} {c : Char} {r : Text}
    (h : stage.dropWhile isBlank = c :: r) :
    tokenize stage = (tokenAt (c :: r)).1 :: tokenize (tokenAt (c :: r)).2 := by
  rw [tokenize]
  split
  · next hs => rw [h] at hs; cases hs
  · next hs => rw [h] at hs; cases hs; rfl

theorem Tokenized.eq_tokenize {stage : Text} {ts : List Text} (h : Tokenized stage ts) : ts = tokenize stage := by
  induction h with
  | @nil g hg => exact (tokenize_of_dropWhile_nil (Text.IsGap.trimStart_eq_nil hg)).symm
  | @cons g t rest ts hg hne hunits hstops _ ih =>
    have hat := tokenAt_of_units hunits hstops
    cases t with
    | nil => exact absurd rfl hne
    | cons c t =>
      have hdrop : (g ++ (c :: t ++ rest)).dropWhile isBlank = c :: (t ++ rest) := by
        rw [Text.dropWhile_gap hg, List.cons_append, List.dropWhile_cons_of_neg]
        simp [hunits.head_not_blank]
      rw [List.cons_append] at hat hdrop ⊢
      rw [tokenize_of_dropWhile_cons hdrop, hat, ih]

theorem exists_tokenized (stage : Text) : ∃ ts, Tokenized stage ts := by
  obtain ⟨g, hg, heq⟩ := Text.exists_trimStart stage
  cases hs : Text.trimStart stage with
  | nil =>
    rw [hs, List.append_nil] at heq
    exact ⟨[], heq ▸ .nil hg⟩
  | cons c r =>
    have hblank := not_of_dropWhile_eq_cons hs
    have hlt := length_tokenAt_snd_lt (r := r) hblank
    have hle : (c :: r).length ≤ stage.length := hs ▸ (List.dropWhile_suffix isBlank).length_le
    obtain ⟨hsplit, hunits, hstops⟩ := units_tokenAt (c :: r)
    have hne : (tokenAt (c :: r)).1 ≠ [] := by
      intro hnil
      rw [hnil, List.nil_append] at hsplit
      rw [← hsplit] at hlt
      exact absurd hlt (Nat.lt_irrefl _)
    obtain ⟨ts, hts⟩ := exists_tokenized (tokenAt (c :: r)).2
    have htok := Tokenized.cons hg hne hunits hstops hts
    rw [← hsplit, ← hs, ← heq] at htok
    exact ⟨_, htok⟩
termination_by stage.length

/-- A stage has one row of tokens, and `tokenize` gives it. -/
theorem tokenized_iff {stage : Text} {ts : List Text} : Tokenized stage ts ↔ tokenize stage = ts := by
  refine ⟨fun h => h.eq_tokenize.symm, ?_⟩
  rintro rfl
  obtain ⟨ts, h⟩ := exists_tokenized stage
  exact h.eq_tokenize ▸ h

/-- Only a blank stage has no tokens. -/
theorem tokenize_eq_nil_iff {stage : Text} : tokenize stage = [] ↔ stage.all Text.isBlank = true := by
  rw [← tokenized_iff, List.all_eq_true]
  constructor
  · intro h
    generalize hts : ([] : List Text) = ts at h
    cases h with
    | nil hg => exact hg
    | cons => cases hts
  · exact fun hg => .nil hg

/-! ## Other gaps, the same tokens -/

/-- A token keeps its units when no quote mark is added to what follows it. -/
theorem Units.mono {t rest rest' : Text} (h : Units t rest)
    (hsub : ∀ q, isQuote q = true → q ∈ rest' → q ∈ rest) : Units t rest' := by
  induction h with
  | nil => exact .nil
  | quoted hq hx _ ih => exact .quoted hq hx (ih hsub)
  | @single c t rest hc hlone _ ih =>
    refine .single hc (fun hq hmem => ?_) (ih hsub)
    refine hlone hq ?_
    rcases List.mem_append.mp hmem with hmem | hmem
    · exact List.mem_append_left rest hmem
    · exact List.mem_append_right t (hsub c hq hmem)

theorem not_isQuote_of_isGap {g : Text} (hg : IsGap g) {q : Char} (hq : isQuote q = true) : q ∉ g := by
  intro hmem
  have hblank := hg q hmem
  rw [isBlank_of_isQuote hq] at hblank
  cases hblank

theorem stops_append_gap {rest h : Text} (hh : IsGap h) (hs : Stops rest) : Stops (rest ++ h) := by
  cases rest with
  | nil => exact fun c hc => hh c (List.mem_of_mem_head? hc)
  | cons d r => exact hs

theorem Tokenized.gap_append {g stage : Text} {ts : List Text} (hg : IsGap g) (h : Tokenized stage ts) :
    Tokenized (g ++ stage) ts := by
  cases h with
  | nil hg' => exact .nil (hg.append hg')
  | cons hg' hne hunits hstops hts =>
    rw [← List.append_assoc]
    exact .cons (hg.append hg') hne hunits hstops hts

theorem Tokenized.append_gap {stage h : Text} {ts : List Text} (hts : Tokenized stage ts) (hh : IsGap h) :
    Tokenized (stage ++ h) ts := by
  induction hts with
  | nil hg => exact .nil (hg.append hh)
  | @cons g t rest ts hg hne hunits hstops _ ih =>
    rw [List.append_assoc, List.append_assoc]
    refine .cons hg hne (hunits.mono fun q hq hmem => ?_) (stops_append_gap hh hstops) ih
    rcases List.mem_append.mp hmem with hmem | hmem
    · exact hmem
    · exact absurd hmem (not_isQuote_of_isGap hh hq)

/-- Gaps around a stage change no token. -/
theorem tokenize_pad {g h : Text} (hg : IsGap g) (hh : IsGap h) (stage : Text) :
    tokenize (g ++ (stage ++ h)) = tokenize stage :=
  tokenized_iff.mp (((tokenized_iff.mpr rfl).append_gap hh).gap_append hg)

theorem tokenize_trim (stage : Text) : tokenize stage.trim = tokenize stage := by
  obtain ⟨g, h, hg, hh, heq⟩ := Text.exists_trim stage
  conv => rhs; rw [heq, tokenize_pad hg hh]

theorem Tokenized.mem {stage : Text} {ts : List Text} (h : Tokenized stage ts) :
    ∀ t ∈ ts, ∀ c ∈ t, c ∈ stage := by
  induction h with
  | nil => intro t ht; cases ht
  | @cons g t rest ts _ _ _ _ _ ih =>
    intro t' ht' c hc
    rcases List.mem_cons.mp ht' with rfl | ht'
    · exact List.mem_append_right g (List.mem_append_left rest hc)
    · exact List.mem_append_right g (List.mem_append_right t (ih t' ht' c hc))

theorem mem_of_mem_tokenize {stage t : Text} (ht : t ∈ tokenize stage) {c : Char} (hc : c ∈ t) : c ∈ stage :=
  (tokenized_iff.mpr rfl).mem t ht c hc

/-! ## Single spaces -/

/-- The tokens, each after a space. -/
def spaced (ts : List Text) : Text := ts.flatMap (' ' :: ·)

theorem spaced_cons (t : Text) (ts : List Text) : spaced (t :: ts) = ' ' :: (t ++ spaced ts) := rfl

theorem stops_spaced (ts : List Text) : Stops (spaced ts) := by
  cases ts with
  | nil => simp [spaced, Stops]
  | cons t ts => simp [spaced_cons, Stops]; decide

theorem mem_spaced {ts : List Text} {c : Char} (h : c ∈ spaced ts) : c = ' ' ∨ ∃ t ∈ ts, c ∈ t := by
  obtain ⟨t, ht, hc⟩ := List.mem_flatMap.mp h
  rcases List.mem_cons.mp hc with rfl | hc
  · exact .inl rfl
  · exact .inr ⟨t, ht, hc⟩

/-- Tokens stay what they are when each gap is made one space. -/
theorem Tokenized.spaced {stage : Text} {ts : List Text} (h : Tokenized stage ts) : Tokenized (spaced ts) ts := by
  induction h with
  | nil => exact .nil Text.isGap_nil
  | @cons g t rest ts _ hne hunits _ hts ih =>
    rw [spaced_cons, ← List.singleton_append]
    refine .cons Text.isGap_space hne (hunits.mono fun q hq hmem => ?_) (stops_spaced ts) ih
    rcases mem_spaced hmem with rfl | ⟨t', ht', hc⟩
    · exact absurd hq (by decide)
    · exact hts.mem t' ht' q hc

/-- Tokens that end nowhere inside, whatever follows them, can stand in any row. -/
theorem tokenized_spaced {ts : List Text} (h : ∀ t ∈ ts, t ≠ [] ∧ ∀ rest, Units t rest) :
    Tokenized (spaced ts) ts := by
  induction ts with
  | nil => exact .nil Text.isGap_nil
  | cons t ts ih =>
    obtain ⟨hne, hunits⟩ := h t List.mem_cons_self
    rw [spaced_cons, ← List.singleton_append]
    exact .cons Text.isGap_space hne (hunits _) (stops_spaced ts)
      (ih fun u hu => h u (List.mem_cons_of_mem t hu))

/-- A join is the first text and the others with the separator before each. -/
theorem intercalate_cons (sep t : Text) (ts : List Text) :
    List.intercalate sep (t :: ts) = t ++ ts.flatMap (sep ++ ·) := by
  induction ts generalizing t with
  | nil => simp
  | cons u ts ih => rw [List.intercalate_cons_cons, ih, List.flatMap_cons, List.append_assoc, List.append_assoc]

theorem cons_intercalate {ts : List Text} (hne : ts ≠ []) : ' ' :: List.intercalate [' '] ts = spaced ts := by
  obtain ⟨t, ts, rfl⟩ := List.exists_cons_of_ne_nil hne
  rw [intercalate_cons]
  rfl

theorem mem_intercalate_space {ts : List Text} {c : Char} (h : c ∈ List.intercalate [' '] ts) :
    c = ' ' ∨ ∃ t ∈ ts, c ∈ t := by
  by_cases hne : ts = []
  · subst hne; cases h
  · exact mem_spaced (cons_intercalate hne ▸ List.mem_cons_of_mem ' ' h)

theorem tokenize_spaced (ts : List Text) : tokenize (spaced ts) = tokenize (List.intercalate [' '] ts) := by
  by_cases hne : ts = []
  · subst hne; rfl
  · have hpad := tokenize_pad Text.isGap_space Text.isGap_nil (List.intercalate [' '] ts)
    rwa [List.append_nil, List.singleton_append, cons_intercalate hne] at hpad

/-- Tokens that are read with a space before each are read with a space between them. -/
theorem Tokenized.tokenize_joined {ts : List Text} (h : Tokenized (Pattern.spaced ts) ts) :
    tokenize (List.intercalate [' '] ts) = ts :=
  (tokenize_spaced ts).symm.trans (tokenized_iff.mp h)

/-- Tokens joined by single spaces are read back. -/
theorem tokenize_intercalate (stage : Text) :
    tokenize (List.intercalate [' '] (tokenize stage)) = tokenize stage :=
  (tokenized_iff.mpr rfl).spaced.tokenize_joined

end Placeholders.Pattern

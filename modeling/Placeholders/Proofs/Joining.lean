/-
Tokens joined by single spaces. They are read back just when each is one token by
itself and no quote mark without a partner in one of them comes again in a later one
(`Joinable`): there it would find a partner, and the token would not end. The tokens of
a stage are always so, and so a stage may be joined from them (`tokenize_join_iff`).
-/
import Placeholders.Proofs.Unpartnered

namespace Placeholders.Pattern
open Text (isBlank IsGap)

/-- Each text is one token, and a mark without a partner in one of them is in no later one. -/
structure Joinable (ts : List Text) : Prop where
  alone : ∀ t ∈ ts, tokenize t = [t]
  apart : ts.Pairwise fun t u => ∀ q rest, Unpartnered t q rest → q ∉ u

variable {t stage rest : Text} {ts : List Text}

theorem joinable_cons : Joinable (t :: ts) ↔
    tokenize t = [t] ∧ (∀ q rest, Unpartnered t q rest → ∀ u ∈ ts, q ∉ u) ∧ Joinable ts := by
  constructor
  · rintro ⟨halone, hapart⟩
    obtain ⟨hfirst, hrest⟩ := List.forall_mem_cons.mp halone
    obtain ⟨hlater, hpairs⟩ := List.pairwise_cons.mp hapart
    exact ⟨hfirst, fun q rest hq u hu => hlater u hu q rest hq, hrest, hpairs⟩
  · rintro ⟨hfirst, hlater, hrest, hpairs⟩
    exact ⟨List.forall_mem_cons.mpr ⟨hfirst, hrest⟩,
      List.pairwise_cons.mpr ⟨fun u hu q rest hq => hlater q rest hq u hu, hpairs⟩⟩

/-! ## Single spaces leave no room -/

theorem tokenized_cons_iff : Tokenized stage (t :: ts) ↔ ∃ g rest, stage = g ++ (t ++ rest) ∧ IsGap g ∧ t ≠ [] ∧
    Units t rest ∧ Stops rest ∧ Tokenized rest ts := by
  constructor
  · intro h
    cases h with
    | cons hg hne hunits hstops hts => exact ⟨_, _, rfl, hg, hne, hunits, hstops, hts⟩
  · rintro ⟨g, rest, rfl, hg, hne, hunits, hstops, hts⟩
    exact .cons hg hne hunits hstops hts

theorem gap_ne_nil_of_stops {g : Text} (hne : t ≠ []) (hunits : Units t rest) (h : Stops (g ++ (t ++ rest))) :
    g ≠ [] := by
  rintro rfl
  obtain ⟨c, t, rfl⟩ := List.exists_cons_of_ne_nil hne
  have hblank : isBlank c = true := h c rfl
  rw [hunits.head_not_blank] at hblank
  cases hblank

/-- Where a token may end, the tokens after it take up their length and a blank each. -/
theorem Tokenized.length_spaced_le (h : Tokenized stage ts) (hs : Stops stage) :
    (Pattern.spaced ts).length ≤ stage.length := by
  induction h with
  | nil => exact Nat.zero_le _
  | @cons g t rest ts _ hne hunits hstops _ ih =>
    have hgap := List.length_pos_of_ne_nil (gap_ne_nil_of_stops hne hunits hs)
    have hrest := ih hstops
    simp only [spaced_cons, List.length_cons, List.length_append]
    omega

theorem tokenized_spaced_cons_iff : Tokenized (spaced (t :: ts)) (t :: ts) ↔
    t ≠ [] ∧ Units t (spaced ts) ∧ Tokenized (spaced ts) ts := by
  constructor
  · intro h
    obtain ⟨g, rest, heq, -, hne, hunits, hstops, hts⟩ := tokenized_cons_iff.mp h
    have hgap := List.length_pos_of_ne_nil (gap_ne_nil_of_stops hne hunits (heq ▸ stops_spaced (t :: ts)))
    have hrest := hts.length_spaced_le hstops
    have hlength := congrArg List.length heq
    simp only [spaced_cons, List.length_cons, List.length_append] at hlength
    rw [spaced_cons, ← List.singleton_append] at heq
    obtain ⟨-, htail⟩ := List.append_inj heq (by rw [List.length_singleton]; omega)
    obtain rfl := List.append_cancel_left htail
    exact ⟨hne, hunits, hts⟩
  · rintro ⟨hne, hunits, hts⟩
    rw [spaced_cons, ← List.singleton_append]
    exact .cons Text.isGap_space hne hunits (stops_spaced ts) hts

theorem tokenize_intercalate_iff (ts : List Text) : tokenize (List.intercalate [' '] ts) = ts ↔ Tokenized (spaced ts) ts := by
  rw [tokenized_iff, tokenize_spaced]

theorem tokenize_eq_self_iff : tokenize t = [t] ↔ t ≠ [] ∧ Units t [] := by
  have hjoined := tokenize_intercalate_iff [t]
  rw [List.intercalate_singleton] at hjoined
  rw [hjoined, tokenized_spaced_cons_iff]
  exact ⟨fun ⟨hne, hunits, _⟩ => ⟨hne, hunits⟩, fun ⟨hne, hunits⟩ => ⟨hne, hunits, .nil Text.isGap_nil⟩⟩

/-! ## What may follow a token -/

theorem Piece.fits_append_iff {p : Piece} :
    p.Fits (t ++ rest) ↔ p.Fits t ∧ ∀ q, p = .single q → isQuote q = true → q ∉ rest := by
  cases p with
  | quoted q x => exact ⟨fun h => ⟨h, fun _ hp => nomatch hp⟩, And.left⟩
  | single c =>
    constructor
    · rintro ⟨hblank, hlast⟩
      refine ⟨⟨hblank, fun hq hmem => hlast hq (List.mem_append_left rest hmem)⟩, ?_⟩
      rintro q ⟨⟩ hq hmem
      exact hlast hq (List.mem_append_right t hmem)
    · rintro ⟨⟨hblank, hlast⟩, hrest⟩
      refine ⟨hblank, fun hq hmem => ?_⟩
      rcases List.mem_append.mp hmem with hmem | hmem
      · exact hlast hq hmem
      · exact hrest c rfl hq hmem

/-- A row may be followed by what has none of its single marks. -/
theorem row_iff {ps : List Piece} :
    Row ps rest ↔ Row ps [] ∧ ∀ q right, isQuote q = true → .single q :: right <:+ ps → q ∉ rest := by
  constructor
  · intro h
    have hfits := fun p right hp => Piece.fits_append_iff.mp (h p right hp)
    refine ⟨fun p right hp => ?_, fun q right hq hp => (hfits _ right hp).2 q rfl hq⟩
    rw [List.append_nil]
    exact (hfits p right hp).1
  · rintro ⟨h, hlater⟩ p right hp
    have hfits := h p right hp
    rw [List.append_nil] at hfits
    refine Piece.fits_append_iff.mpr ⟨hfits, ?_⟩
    rintro q rfl hq
    exact hlater q right hq hp

theorem isLayout_of_row {ps : List Piece} (h : Row ps []) (hne : ps ≠ []) :
    IsLayout (ps.flatMap Piece.text) ⟨[], [⟨ps, []⟩]⟩ := by
  refine ⟨by simp [Layout.text, Word.text, Word.token], Text.isGap_nil, laid_cons.mpr ⟨?_, laid_nil⟩⟩
  exact ⟨Text.isGap_nil, fun hafter => absurd rfl hafter, hne, h⟩

theorem Row.unpartnered_iff {ps : List Piece} (h : Row ps []) (hne : ps ≠ []) {q : Char} (hq : isQuote q = true) :
    Unpartnered (ps.flatMap Piece.text) q rest ↔ ∃ right, .single q :: right <:+ ps ∧ rest = right.flatMap Piece.text := by
  rw [(isLayout_of_row h hne).unpartnered_iff hq]
  constructor
  · rintro ⟨w, after, right, hw, hright, rfl⟩
    obtain ⟨rfl, rfl⟩ := List.cons.inj (hw.eq_of_length (by simpa using hw.length_le))
    exact ⟨right, hright, by simp⟩
  · rintro ⟨right, hright, rfl⟩
    exact ⟨⟨ps, []⟩, [], right, List.suffix_refl _, hright, by simp⟩

/-- A token may be followed by what has none of its marks that have no partner. -/
theorem units_iff (hne : t ≠ []) : Units t rest ↔ tokenize t = [t] ∧ ∀ q u, Unpartnered t q u → q ∉ rest := by
  have hfilled : ∀ ps : List Piece, ps.flatMap Piece.text = t → ps ≠ [] := by
    rintro _ rfl rfl
    exact hne rfl
  constructor
  · intro h
    obtain ⟨ps, hrow, htext⟩ := exists_row h
    obtain ⟨halone, hlater⟩ := row_iff.mp hrow
    refine ⟨tokenize_eq_self_iff.mpr ⟨hne, htext ▸ halone.units⟩, fun q u hq => ?_⟩
    have hmark := hq.isMark
    rw [← htext, halone.unpartnered_iff (hfilled ps htext) hmark] at hq
    obtain ⟨right, hright, -⟩ := hq
    exact hlater q right hmark hright
  · rintro ⟨halone, hmarks⟩
    obtain ⟨ps, hrow, htext⟩ := exists_row (tokenize_eq_self_iff.mp halone).2
    refine htext ▸ (row_iff.mpr ⟨hrow, fun q right hq hright => hmarks q (right.flatMap Piece.text) ?_⟩).units
    rw [← htext, hrow.unpartnered_iff (hfilled ps htext) hq]
    exact ⟨right, hright, rfl⟩

/-! ## A row of tokens -/

theorem mem_spaced_iff {q : Char} (hq : isQuote q = true) : q ∈ spaced ts ↔ ∃ t ∈ ts, q ∈ t := by
  constructor
  · intro h
    rcases mem_spaced h with rfl | h
    · exact absurd hq (by decide)
    · exact h
  · rintro ⟨t, ht, hmem⟩
    exact List.mem_flatMap.mpr ⟨t, ht, List.mem_cons_of_mem ' ' hmem⟩

theorem tokenized_spaced_iff (hne : ∀ t ∈ ts, t ≠ []) : Tokenized (spaced ts) ts ↔ Joinable ts := by
  induction ts with
  | nil => exact iff_of_true (.nil Text.isGap_nil) ⟨List.forall_mem_nil _, .nil⟩
  | cons t ts ih =>
    obtain ⟨ht, hts⟩ := List.forall_mem_cons.mp hne
    have hlater : (∀ q rest, Unpartnered t q rest → q ∉ spaced ts) ↔
        ∀ q rest, Unpartnered t q rest → ∀ u ∈ ts, q ∉ u := by
      refine forall₂_congr fun q rest => forall_congr' fun hq => ?_
      rw [mem_spaced_iff hq.isMark]
      push Not
      rfl
    rw [tokenized_spaced_cons_iff, units_iff ht, ih hts, joinable_cons, hlater, and_assoc]
    exact and_iff_right ht

theorem Tokenized.ne_nil (h : Tokenized stage ts) : ∀ t ∈ ts, t ≠ [] := by
  induction h with
  | nil => exact List.forall_mem_nil _
  | cons _ hne _ _ _ ih => exact List.forall_mem_cons.mpr ⟨hne, ih⟩

/-- **Joining undoes tokenizing, and nothing else does.** Texts that are not empty are
read back from their join by single spaces just when they are joinable. The tokens of a
stage are, so a stage has the tokens of their join. -/
theorem tokenize_join_iff :
    (∀ ts : List Text, (∀ t ∈ ts, t ≠ []) → (tokenize (List.intercalate [' '] ts) = ts ↔ Joinable ts)) ∧
      ∀ stage, (∀ t ∈ tokenize stage, t ≠ []) ∧ Joinable (tokenize stage) ∧
        tokenize (List.intercalate [' '] (tokenize stage)) = tokenize stage := by
  have hiff : ∀ ts : List Text, (∀ t ∈ ts, t ≠ []) → (tokenize (List.intercalate [' '] ts) = ts ↔ Joinable ts) :=
    fun ts hne => (tokenize_intercalate_iff ts).trans (tokenized_spaced_iff hne)
  refine ⟨hiff, fun stage => ?_⟩
  have hne : ∀ t ∈ tokenize stage, t ≠ [] := (tokenized_iff.mpr rfl : Tokenized stage _).ne_nil
  have hback := tokenize_intercalate stage
  exact ⟨hne, (hiff _ hne).mp hback, hback⟩

/-- A double quote that is a part of a section comes again. -/
def parted : List Text := [['f'], "'a\"b'".toList, ['\x22'], "'x".toList]

/-- An apostrophe without a partner comes again. -/
def paired : List Text := ["'a".toList, "b'".toList]

theorem tokenize_join_iff_parted :
    (∀ t ∈ parted, t ≠ []) ∧ tokenize (List.intercalate [' '] parted) = parted ∧ Joinable parted ∧
      (∀ t ∈ paired, t ≠ []) ∧ tokenize (List.intercalate [' '] paired) = ["'a b'".toList] ∧ ¬ Joinable paired ∧
      Joinable (tokenize (List.intercalate [' '] paired)) := by
  have hparted : ∀ t ∈ parted, t ≠ [] := by decide
  have hpaired : ∀ t ∈ paired, t ≠ [] := by decide
  have hback : tokenize (List.intercalate [' '] parted) = parted := by decide +kernel
  have hone : tokenize (List.intercalate [' '] paired) = ["'a b'".toList] := by decide +kernel
  have hother : ["'a b'".toList] ≠ paired := by decide
  obtain ⟨hiff, hstage⟩ := tokenize_join_iff
  exact ⟨hparted, hback, (hiff parted hparted).mp hback, hpaired, hone,
    fun h => hother (hone.symm.trans ((hiff paired hpaired).mpr h)), (hstage _).2.1⟩

end Placeholders.Pattern

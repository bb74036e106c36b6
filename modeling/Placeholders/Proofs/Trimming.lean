/-
What trimming takes away: a gap on either side (`exists_trim`), and nothing that
a gap more would change (`trim_pad`).
-/
import Placeholders.Text.Blank

namespace Placeholders.Text

/-- A text of blanks, maybe empty. -/
def IsGap (g : Text) : Prop := ∀ c ∈ g, isBlank c = true

theorem isGap_nil : IsGap [] := by simp [IsGap]

theorem isGap_space : IsGap [' '] := by
  intro c hc
  rw [List.mem_singleton] at hc
  subst hc; decide

theorem IsGap.append {g h : Text} (hg : IsGap g) (hh : IsGap h) : IsGap (g ++ h) := by
  intro c hc
  rcases List.mem_append.mp hc with hc | hc
  · exact hg c hc
  · exact hh c hc

theorem IsGap.reverse {g : Text} (hg : IsGap g) : IsGap g.reverse :=
  fun c hc => hg c (List.mem_reverse.mp hc)

theorem dropWhile_gap {g : Text} (hg : IsGap g) (t : Text) :
    (g ++ t).dropWhile isBlank = t.dropWhile isBlank := List.dropWhile_append_of_pos hg

theorem trimStart_gap {g : Text} (hg : IsGap g) (t : Text) : trimStart (g ++ t) = trimStart t :=
  dropWhile_gap hg t

theorem trimEnd_gap {g : Text} (hg : IsGap g) (t : Text) : trimEnd (t ++ g) = trimEnd t := by
  unfold trimEnd
  rw [List.reverse_append, dropWhile_gap hg.reverse]

theorem IsGap.trimStart_eq_nil {g : Text} (hg : IsGap g) : trimStart g = [] := by
  unfold trimStart
  simpa using dropWhile_gap hg []

theorem exists_trimStart (t : Text) : ∃ g, IsGap g ∧ t = g ++ trimStart t :=
  ⟨t.takeWhile isBlank, fun c hc => List.all_eq_true.mp List.all_takeWhile c hc,
    List.takeWhile_append_dropWhile.symm⟩

theorem exists_trimEnd (t : Text) : ∃ g, IsGap g ∧ t = trimEnd t ++ g := by
  obtain ⟨g, hg, heq⟩ := exists_trimStart t.reverse
  refine ⟨g.reverse, hg.reverse, ?_⟩
  unfold trimEnd
  rw [← List.reverse_append]
  exact List.reverse_eq_iff.mp heq

/-- A text is its trimmed form with a gap on either side. -/
theorem exists_trim (t : Text) : ∃ g h, IsGap g ∧ IsGap h ∧ t = g ++ (trim t ++ h) := by
  obtain ⟨g, hg, heq⟩ := exists_trimStart t
  obtain ⟨h, hh, heq'⟩ := exists_trimEnd (trimStart t)
  exact ⟨g, h, hg, hh, by rw [trim, ← heq', ← heq]⟩

/-- Gaps around a text are trimmed away. -/
theorem trim_pad {g h : Text} (hg : IsGap g) (hh : IsGap h) (t : Text) :
    trim (g ++ (t ++ h)) = trim t := by
  unfold trim
  rw [trimStart_gap hg]
  cases ht : trimStart t with
  | nil =>
    obtain ⟨g', hg', heq⟩ := exists_trimStart t
    rw [ht, List.append_nil] at heq
    rw [heq, (hg'.append hh).trimStart_eq_nil]
  | cons c r =>
    have happ : trimStart (t ++ h) = trimStart t ++ h := by
      unfold trimStart at ht ⊢
      rw [List.dropWhile_append, ht]; rfl
    rw [happ, ht, trimEnd_gap hh]

/-- A text without blanks has nothing to trim. -/
theorem trim_of_not_blank {t : Text} (h : ∀ c ∈ t, isBlank c = false) : trim t = t := by
  have hkeep : ∀ s : Text, (∀ c ∈ s, isBlank c = false) → s.dropWhile isBlank = s := by
    intro s hs
    cases s with
    | nil => rfl
    | cons c r => simp [hs c List.mem_cons_self]
  have hreverse : ∀ c ∈ t.reverse, isBlank c = false := fun c hc => h c (List.mem_reverse.mp hc)
  simp only [trim, trimStart, trimEnd, hkeep t h, hkeep t.reverse hreverse, List.reverse_reverse]

theorem trim_trim (t : Text) : trim (trim t) = trim t := by
  obtain ⟨g, h, hg, hh, heq⟩ := exists_trim t
  conv => rhs; rw [heq, trim_pad hg hh]

theorem mem_of_mem_trim {t : Text} {c : Char} (hc : c ∈ trim t) : c ∈ t := by
  obtain ⟨g, h, -, -, heq⟩ := exists_trim t
  rw [heq]
  exact List.mem_append_right g (List.mem_append_left h hc)

end Placeholders.Text

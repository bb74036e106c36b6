/-
The bars of a body. A key and stages that are neat, trimmed and without bars, are read
back from a body that has ` | ` between them, blank ones included (`parse_joined`): a
stage at the end has its space before it, and so keeps its bar. Of any body the key and
the stages are neat, the bars at the end do not count, and each of the others starts a
stage (`parse_bars`).
-/
import Mathlib.Data.List.DropRight
import Placeholders.Proofs.Bodies

namespace Placeholders.Pattern.Expression
open Text (IsGap)

/-- What a key or a stage is once it is read: trimmed, and without a bar. -/
structure IsNeat (t : Text) : Prop where
  trimmed : t.trim = t
  barless : '|' ∉ t

variable {key body : Text} {stages : List Text}

/-! ## Bars at the end -/

theorem dropFinalBars_append_bars (body : Text) (n : Nat) :
    dropFinalBars (body ++ List.replicate n '|') = dropFinalBars body := by
  have hbars : ∀ c ∈ List.replicate n '|', (c == '|') = true := fun c hc => by simp [List.eq_of_mem_replicate hc]
  unfold dropFinalBars
  rw [List.reverse_append, List.reverse_replicate, List.dropWhile_append_of_pos hbars]

theorem parse_append_bars (body : Text) (n : Nat) : parse (body ++ List.replicate n '|') = parse body := by
  rw [parse, dropFinalBars_append_bars, ← parse]

/-! ## What is read of a body -/

theorem isNeat_of_mem {t : Text} (ht : t ∈ (parse body).key :: (parse body).stages) : IsNeat t := by
  obtain ⟨k, ps, heq, hparts⟩ := exists_parts body
  rw [heq] at ht
  obtain ⟨p, hp, rfl⟩ : ∃ p ∈ k :: ps, p.trim = t := List.mem_map.mp ht
  exact ⟨Text.trim_trim p, fun hbar => (hparts p hp).1 (Text.mem_of_mem_trim hbar)⟩

theorem length_splitOn (a : Char) (t : Text) : (t.splitOn a).length = t.count a + 1 := by
  induction t with
  | nil => simp
  | cons c t ih =>
    rw [List.splitOn_cons_eq_if_modifyHead, List.count_cons]
    split
    · rw [List.length_cons, ih]
    · rw [List.length_modifyHead, ih, Nat.add_zero]

/-- There are as many stages as bars before the bars at the end. -/
theorem length_stages (body : Text) : (parse body).stages.length = (body.rdropWhile (· == '|')).count '|' := by
  have hlength := length_splitOn '|' (dropFinalBars body)
  obtain ⟨k, ps, hps⟩ := List.exists_cons_of_ne_nil (List.splitOn_ne_nil '|' (dropFinalBars body))
  rw [hps, List.length_cons] at hlength
  have hstages : (parse body).stages = ps.map Text.trim := by rw [parse, hps]; rfl
  rw [hstages, List.length_map]
  exact Nat.succ.inj hlength

/-- A trimmed text is blank only if it is empty. -/
theorem IsNeat.eq_nil_iff {t : Text} (h : IsNeat t) : t.all Text.isBlank = true ↔ t = [] := by
  constructor
  · intro hall
    have hgap : IsGap t := List.all_eq_true.mp hall
    have htrim := Text.trim_pad hgap Text.isGap_nil []
    rw [List.nil_append, List.append_nil, h.trimmed] at htrim
    exact htrim
  · rintro rfl
    rfl

theorem getElem?_calls (body : Text) (i : Nat) :
    (parse body).calls[i]? = some none ↔ (parse body).stages[i]? = some [] := by
  rw [calls, List.getElem?_map]
  cases hstage : (parse body).stages[i]? with
  | none => simp
  | some s =>
    have hneat : IsNeat s := isNeat_of_mem (List.mem_cons_of_mem _ (List.mem_of_getElem? hstage))
    rw [Option.map_some, Option.some_inj, Option.some_inj, Call.parse?_eq_none_iff, hneat.eq_nil_iff]

/-! ## Bodies with a bar between two spaces -/

theorem dropFinalBars_joined (h : ∀ t ∈ key :: stages, '|' ∉ t) :
    dropFinalBars (List.intercalate " | ".toList (key :: stages)) = List.intercalate " | ".toList (key :: stages) := by
  rw [intercalate_cons]
  rcases stages.eq_nil_or_concat with rfl | ⟨init, last, rfl⟩
  · by_cases hkey : key = []
    · subst hkey; rfl
    · have hdrop := dropFinalBars_append [] hkey (h key List.mem_cons_self)
      rwa [List.flatMap_nil, List.append_nil]
  · -- The last stage has a space before it, after its bar.
    have hlast : '|' ∉ ' ' :: last := by simpa using h last (by simp)
    have hbody : key ++ (init.concat last).flatMap (" | ".toList ++ ·) =
        (key ++ (init.flatMap (" | ".toList ++ ·) ++ " |".toList)) ++ ' ' :: last := by simp
    rw [hbody]
    exact dropFinalBars_append _ (List.cons_ne_nil _ _) hlast

theorem map_trim_splitOn_joined (h : ∀ t ∈ key :: stages, '|' ∉ t) {g : Text} (hg : IsGap g) :
    ((g ++ List.intercalate " | ".toList (key :: stages)).splitOn '|').map Text.trim = (key :: stages).map Text.trim := by
  have hgap : '|' ∉ g := fun hbar => absurd (hg '|' hbar) (by decide)
  induction stages generalizing key g with
  | nil =>
    have hkey := h key List.mem_cons_self
    rw [List.intercalate_singleton, List.splitOn_eq_singleton (by simp [hgap, hkey]), List.map_singleton,
      List.map_singleton]
    have htrim := Text.trim_pad hg Text.isGap_nil key
    rw [List.append_nil] at htrim
    rw [htrim]
  | cons s stages ih =>
    obtain ⟨hkey, hstages⟩ := List.forall_mem_cons.mp h
    have hbody : g ++ List.intercalate " | ".toList (key :: s :: stages) =
        (g ++ (key ++ [' '])) ++ '|' :: ([' '] ++ List.intercalate " | ".toList (s :: stages)) := by
      rw [List.intercalate_cons_cons]
      simp
    rw [hbody, List.splitOn_append_cons_self_of_not_mem (by simp [hgap, hkey]), List.map_cons, List.map_cons,
      ih hstages Text.isGap_space (by decide), Text.trim_pad hg Text.isGap_space]

/-- A neat key and neat stages are read back. -/
theorem parse_joined (h : ∀ t ∈ key :: stages, IsNeat t) :
    parse (List.intercalate " | ".toList (key :: stages)) = ⟨key, stages⟩ := by
  have hbarless : ∀ t ∈ key :: stages, '|' ∉ t := fun t ht => (h t ht).barless
  have hsplit := map_trim_splitOn_joined hbarless Text.isGap_nil
  have hsame : (key :: stages).map Text.trim = key :: stages :=
    (List.map_congr_left fun t ht => (h t ht).trimmed).trans (List.map_id _)
  rw [List.nil_append, hsame] at hsplit
  rw [parse, dropFinalBars_joined hbarless, hsplit]

/-- **Reading a body undoes writing it, and bars at the end do not count.** A neat key and
neat stages, blank ones among them, are read back from their join by bars. Of every body
the key and the stages are neat, more bars at the end change nothing, the bars before
those at the end start a stage each, and just the empty stages have no call. -/
theorem parse_bars :
    (∀ (key : Text) (stages : List Text), (∀ t ∈ key :: stages, IsNeat t) →
      parse (List.intercalate " | ".toList (key :: stages)) = ⟨key, stages⟩) ∧
    ∀ body : Text,
      (∀ t ∈ (parse body).key :: (parse body).stages, IsNeat t) ∧
      (∀ n, parse (body ++ List.replicate n '|') = parse body) ∧
      (parse body).stages.length = (body.rdropWhile (· == '|')).count '|' ∧
      (parse body).calls.length = (parse body).stages.length ∧
      ∀ i : Nat, (parse body).calls[i]? = some none ↔ (parse body).stages[i]? = some [] :=
  ⟨fun _ _ => parse_joined, fun body => ⟨fun _ => isNeat_of_mem, parse_append_bars body, length_stages body,
    List.length_map _, getElem?_calls body⟩⟩

/-- No key, and a stage between blank ones. -/
theorem parse_bars_blank :
    (∀ t ∈ [] :: [[], "f 'x'".toList, []], IsNeat t) ∧
      parse " |  | f 'x' | ".toList = ⟨[], [[], "f 'x'".toList, []]⟩ ∧
      IsNeat (parse "x| ||".toList).key ∧ parse "x| ||||".toList = parse "x| ||".toList ∧
      (parse "x| ||".toList).stages.length = 1 ∧ (parse "x| ||".toList).calls[0]? = some none := by
  have hneat : ∀ t ∈ [] :: [[], "f 'x'".toList, []], IsNeat t := by
    intro t ht
    simp only [List.mem_cons, List.not_mem_nil, or_false] at ht
    rcases ht with rfl | rfl | rfl | rfl <;> exact ⟨by decide, by decide⟩
  obtain ⟨hback, hbody⟩ := parse_bars
  obtain ⟨hparts, hbars, hcount, -, hcalls⟩ := hbody "x| ||".toList
  exact ⟨hneat, hback _ _ hneat, hparts _ List.mem_cons_self, hbars 2, hcount, (hcalls 0).mpr (by decide)⟩

end Placeholders.Pattern.Expression

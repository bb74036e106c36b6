/-
The body of a placeholder, taken apart and written. `parse` trims the parts
between the bars of a body (`exists_parts`); a body written with a space on
either side of each part is read back (`parse_written`), since it ends in a
space and so loses no bar.
-/
import Placeholders.Pattern.Expression
import Placeholders.Proofs.Segmentation
import Placeholders.Proofs.Tokens

namespace Placeholders.Pattern

/-- A part of a split has no separator, and only characters of the whole. -/
theorem mem_splitOn {a : Char} : ∀ {s t : Text}, t ∈ s.splitOn a → a ∉ t ∧ ∀ c ∈ t, c ∈ s
  | [], t, ht => by
    rw [List.splitOn_nil, List.mem_singleton] at ht
    subst ht
    simp
  | x :: s, t, ht => by
    rw [List.splitOn_cons_eq_if_modifyHead] at ht
    split at ht
    · rcases List.mem_cons.mp ht with rfl | ht
      · simp
      · obtain ⟨hbar, hmem⟩ := mem_splitOn ht
        exact ⟨hbar, fun c hc => List.mem_cons_of_mem x (hmem c hc)⟩
    · next hx =>
      obtain ⟨p, ps, hps⟩ := List.exists_cons_of_ne_nil (List.splitOn_ne_nil a s)
      rw [hps, List.modifyHead_cons] at ht
      rcases List.mem_cons.mp ht with rfl | ht
      · obtain ⟨hbar, hmem⟩ := mem_splitOn (hps ▸ List.mem_cons_self : p ∈ s.splitOn a)
        refine ⟨fun hc => ?_, fun c hc => ?_⟩
        · rcases List.mem_cons.mp hc with rfl | hc
          · exact hx (beq_self_eq_true a)
          · exact hbar hc
        · rcases List.mem_cons.mp hc with rfl | hc
          · exact List.mem_cons_self
          · exact List.mem_cons_of_mem x (hmem c hc)
      · obtain ⟨hbar, hmem⟩ := mem_splitOn (hps ▸ List.mem_cons_of_mem p ht : t ∈ s.splitOn a)
        exact ⟨hbar, fun c hc => List.mem_cons_of_mem x (hmem c hc)⟩

theorem parse?_of_tokenize_eq {s t : Text} (h : tokenize s = tokenize t) : Call.parse? s = Call.parse? t := by
  unfold Call.parse?; rw [h]

theorem Call.parse?_eq_none_iff {stage : Text} : parse? stage = none ↔ stage.all Text.isBlank = true := by
  rw [← tokenize_eq_nil_iff, parse?]
  cases tokenize stage <;> simp

namespace Expression

theorem mem_of_mem_dropFinalBars {body : Text} {c : Char} (h : c ∈ dropFinalBars body) : c ∈ body := by
  have hrev := List.mem_reverse.mp h
  exact List.mem_reverse.mp ((List.dropWhile_suffix _).subset hrev)

theorem dropFinalBars_concat (t : Text) {c : Char} (h : c ≠ '|') : dropFinalBars (t ++ [c]) = t ++ [c] := by
  unfold dropFinalBars
  rw [List.reverse_append, List.reverse_singleton, List.singleton_append,
    List.dropWhile_cons_of_neg (by simpa using h), List.reverse_cons, List.reverse_reverse]

/-- The key and the stages of a body are its parts, trimmed. -/
theorem exists_parts (body : Text) : ∃ k ps, parse body = ⟨k.trim, ps.map Text.trim⟩ ∧
    ∀ t ∈ k :: ps, '|' ∉ t ∧ ∀ c ∈ t, c ∈ body := by
  obtain ⟨k, ps, hps⟩ := List.exists_cons_of_ne_nil (List.splitOn_ne_nil '|' (dropFinalBars body))
  refine ⟨k, ps, by rw [parse, hps]; rfl, fun t ht => ?_⟩
  obtain ⟨hbar, hmem⟩ := mem_splitOn (hps ▸ ht : t ∈ (dropFinalBars body).splitOn '|')
  exact ⟨hbar, fun c hc => mem_of_mem_dropFinalBars (hmem c hc)⟩

theorem trim_key (body : Text) : (parse body).key.trim = (parse body).key := by
  obtain ⟨k, ps, heq, -⟩ := exists_parts body
  rw [heq]
  exact Text.trim_trim k

theorem mem_key {body : Text} {c : Char} (h : c ∈ (parse body).key) : c ≠ '|' ∧ c ∈ body := by
  obtain ⟨k, ps, heq, hparts⟩ := exists_parts body
  rw [heq] at h
  obtain ⟨hbar, hmem⟩ := hparts k List.mem_cons_self
  have hk := Text.mem_of_mem_trim h
  exact ⟨fun hc => hbar (hc ▸ hk), hmem c hk⟩

theorem mem_stage {body stage : Text} (hs : stage ∈ (parse body).stages) {c : Char} (h : c ∈ stage) :
    c ≠ '|' ∧ c ∈ body := by
  obtain ⟨k, ps, heq, hparts⟩ := exists_parts body
  rw [heq] at hs
  obtain ⟨p, hp, rfl⟩ := List.mem_map.mp hs
  obtain ⟨hbar, hmem⟩ := hparts p (List.mem_cons_of_mem k hp)
  have hc := Text.mem_of_mem_trim h
  exact ⟨fun hcb => hbar (hcb ▸ hc), hmem c hc⟩

/-! ## Written bodies -/

/-- A key and stages written as a body, with a space on either side of each. -/
def written (key : Text) (stages : List Text) : Text :=
  ' ' :: (key ++ (stages.flatMap (" | ".toList ++ ·) ++ [' ']))

/-- A text with a space on either side. -/
def padded (t : Text) : Text := ' ' :: (t ++ [' '])

theorem trim_padded (t : Text) : (padded t).trim = t.trim := Text.trim_pad Text.isGap_space Text.isGap_space t

theorem bar_not_mem_padded {t : Text} (h : '|' ∉ t) : '|' ∉ padded t := by
  simp [padded, h]

theorem written_eq (key : Text) (stages : List Text) :
    written key stages = List.intercalate ['|'] (padded key :: stages.map padded) := by
  unfold written padded
  induction stages generalizing key with
  | nil => simp
  | cons s stages ih =>
    rw [List.map_cons, List.intercalate_cons_cons, ← ih s]
    simp

theorem parse_written {key : Text} {stages : List Text} (hkey : '|' ∉ key) (hstages : ∀ s ∈ stages, '|' ∉ s) :
    parse (written key stages) = ⟨key.trim, stages.map Text.trim⟩ := by
  have hlast : dropFinalBars (written key stages) = written key stages := by
    have hconcat : written key stages = ' ' :: (key ++ stages.flatMap (" | ".toList ++ ·)) ++ [' '] := by
      simp [written]
    rw [hconcat, dropFinalBars_concat _ (by decide)]
  have hsplit : (written key stages).splitOn '|' = padded key :: stages.map padded := by
    rw [written_eq]
    refine List.splitOn_intercalate '|' (fun t ht => ?_) (List.cons_ne_nil _ _)
    rcases List.mem_cons.mp ht with rfl | ht
    · exact bar_not_mem_padded hkey
    · obtain ⟨s, hs, rfl⟩ := List.mem_map.mp ht
      exact bar_not_mem_padded (hstages s hs)
  rw [parse, hlast, hsplit]
  simp [trim_padded]

theorem dropFinalBars_append (s : Text) {t : Text} (hne : t ≠ []) (ht : '|' ∉ t) :
    dropFinalBars (s ++ t) = s ++ t := by
  have hlast : t.getLast hne ≠ '|' := fun hc => ht (hc ▸ List.getLast_mem hne)
  rw [← List.dropLast_concat_getLast hne, ← List.append_assoc]
  exact dropFinalBars_concat _ hlast

/-- A key and one stage, with a bar between single spaces. -/
theorem parse_oneStage {key stage : Text} (hkey : '|' ∉ key) (hne : stage ≠ []) (hstage : '|' ∉ stage) :
    parse (key ++ (" | ".toList ++ stage)) = ⟨key.trim, [stage.trim]⟩ := by
  have hbody : key ++ (" | ".toList ++ stage) = List.intercalate ['|'] [key ++ [' '], ' ' :: stage] := by
    simp
  have hlast : dropFinalBars (key ++ (" | ".toList ++ stage)) = key ++ (" | ".toList ++ stage) := by
    rw [← List.append_assoc]
    exact dropFinalBars_append _ hne hstage
  have hsplit : (key ++ (" | ".toList ++ stage)).splitOn '|' = [key ++ [' '], ' ' :: stage] := by
    rw [hbody]
    refine List.splitOn_intercalate '|' (fun t ht => ?_) (List.cons_ne_nil _ _)
    simp only [List.mem_cons, List.not_mem_nil, or_false] at ht
    rcases ht with rfl | rfl
    · simp [hkey]
    · simp [hstage]
  have hbefore := Text.trim_pad Text.isGap_nil Text.isGap_space key
  have hafter := Text.trim_pad Text.isGap_space Text.isGap_nil stage
  rw [List.nil_append] at hbefore
  rw [List.append_nil, List.singleton_append] at hafter
  rw [parse, hlast, hsplit, List.map_cons, List.map_singleton, hbefore, hafter]

theorem mem_written {key : Text} {stages : List Text} {c : Char} (h : c ∈ written key stages) :
    c = ' ' ∨ c = '|' ∨ c ∈ key ∨ ∃ s ∈ stages, c ∈ s := by
  simp only [written, List.mem_cons, List.mem_append, List.mem_flatMap, List.not_mem_nil, or_false] at h
  rcases h with rfl | hkey | ⟨s, hs, hc | hc⟩ | rfl
  · exact .inl rfl
  · exact .inr (.inr (.inl hkey))
  · have hsep : c ∈ [' ', '|', ' '] := hc
    simp only [List.mem_cons, List.not_mem_nil, or_false] at hsep
    rcases hsep with rfl | rfl | rfl
    · exact .inl rfl
    · exact .inr (.inl rfl)
    · exact .inl rfl
  · exact .inr (.inr (.inr ⟨s, hs, hc⟩))
  · exact .inl rfl

theorem isBody_written {key : Text} {stages : List Text} (hkey : '}' ∉ key) (hstages : ∀ s ∈ stages, '}' ∉ s) :
    IsBody (written key stages) := by
  refine ⟨by simp [written], fun hbrace => ?_⟩
  rcases mem_written hbrace with hc | hc | hc | ⟨s, hs, hc⟩
  · cases hc
  · cases hc
  · exact hkey hc
  · exact hstages s hs hc

theorem calls_written {key : Text} {stages : List Text} (hkey : '|' ∉ key) (hstages : ∀ s ∈ stages, '|' ∉ s) :
    (parse (written key stages)).calls = stages.map Call.parse? := by
  rw [parse_written hkey hstages, calls, List.map_map]
  exact List.map_congr_left fun s _ => parse?_of_tokenize_eq (tokenize_trim s)

end Expression
end Placeholders.Pattern

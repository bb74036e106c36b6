/-
Rendering in two phases. The text that comes out with some parameters may be
rendered again with others, which then find the placeholders that were left. That
is the same as to render once with all of them (`substitute_substitute`), as long
as no text that was put in opens anything: it may not have a dollar sign, nor
start with a brace, nor be empty, since a dollar sign may stand before it and a
brace after it (`IsInert`).

What is rendered in the second phase mixes literals, texts put in and placeholders
left. In a literal before a placeholder nothing waits for what comes, but for a
dollar sign at its end (`Passes.of_head?`). So the scan of the mixture passes each
literal and each text put in, and finds each placeholder that was left.
-/
import Placeholders.Proofs.Composition

namespace Placeholders
open Pattern

/-- A text that opens nothing, whatever stands around it. -/
structure IsInert (t : Text) : Prop where
  nonempty : t ≠ []
  no_dollar : '$' ∉ t
  no_brace : t.head? ≠ some '{'

theorem IsInert.head?_append {t : Text} (h : IsInert t) (rest : Text) : (t ++ rest).head? ≠ some '{' := by
  obtain ⟨c, r, rfl⟩ := List.exists_cons_of_ne_nil h.nonempty
  exact h.no_brace

namespace Engine

/-! ## The text of a rendering, from the left -/

/-- The text that a placeholder gives way to. -/
def replacement (engine : Engine) (params : Params) (body : Text) : Outcome SubstitutionError Text :=
  (engine.evaluate params body).run.map Prod.fst

theorem substitute_nil (engine : Engine) (params : Params) : engine.substitute params [] = .ok [] := by
  rw [substitute, render, scan_nil]
  rfl

theorem substitute_enclose {body : Text} (h : IsBody body) (engine : Engine) (params : Params) (rest : Text) :
    engine.substitute params (enclose body ++ rest) =
      (do let t ← engine.replacement params body
          let u ← engine.substitute params rest
          return t ++ u) := by
  rw [substitute, render_enclose h, renderSegment_placeholder, replacement, substitute]
  cases (engine.evaluate params body).run with
  | error e => rfl
  | ok result => cases engine.render params rest <;> rfl

theorem substitute_passes {t rest : Text} (h : Passes t rest) (engine : Engine) (params : Params) :
    engine.substitute params (t ++ rest) = (engine.substitute params rest).map (t ++ ·) := by
  rw [substitute, render_passes h, substitute]
  cases engine.render params rest <;> rfl

/-- Only the value of its own key has a part in what a placeholder comes to. -/
theorem evaluate_congr {params params' : Params} {body : Text} (engine : Engine)
    (h : params.get? (Expression.parse body).key = params'.get? (Expression.parse body).key) :
    engine.evaluate params body = engine.evaluate params' body := by
  simp only [evaluate, h]

theorem replacement_of_missing {provider : Provider} {params : Params} {body : Text}
    (h : params.contains (Expression.parse body).key = false) :
    (lenient provider).replacement params body = .ok (enclose body) := by
  rw [replacement, evaluate_of_get?_none _ (Params.contains_eq_false.mp h)]
  rfl

/-! ## One phase and two -/

variable {provider : Provider} {first second : Params}

/-- The placeholders whose keys are in the parameters give way to inert texts. -/
def FillsInertly (provider : Provider) (params : Params) (segments : List Segment) : Prop :=
  ∀ body, .placeholder body ∈ segments → params.contains (Expression.parse body).key = true →
    ∃ t, (lenient provider).replacement params body = .ok t ∧ IsInert t

theorem replacement_extend_of_contains {body : Text} (h : first.contains (Expression.parse body).key = true)
    (engine : Engine) : engine.replacement (second.extend first) body = engine.replacement first body := by
  rw [Params.contains_eq] at h
  rw [replacement, replacement, evaluate_congr]
  rw [Params.get?_extend, Option.or_of_isSome h]

theorem replacement_extend_of_not_contains {body : Text}
    (h : first.contains (Expression.parse body).key = false) (engine : Engine) :
    engine.replacement (second.extend first) body = engine.replacement second body := by
  rw [replacement, replacement, evaluate_congr]
  rw [Params.get?_extend, Params.contains_eq_false.mp h, Option.none_or]

/-- The two phases on a pattern that is put together from the right. What comes out
of the first one never completes a dollar sign before it, if the pattern does not. -/
theorem exists_substitute_of_segmented {pattern : Text} {segments : List Segment} (h : Segmented pattern segments)
    (hfill : FillsInertly provider first segments) :
    ∃ between, (lenient provider).substitute first pattern = .ok between ∧
      (Opens pattern → between.head? ≠ some '{') ∧
      (lenient provider).substitute second between =
        (lenient provider).substitute (second.extend first) pattern := by
  induction h with
  | nil =>
    refine ⟨[], substitute_nil _ _, fun hopen => absurd hopen not_opens_nil, ?_⟩
    rw [substitute_nil, substitute_nil]
  | @placeholder body rest segments hb _ ih =>
    obtain ⟨between, hfirst, -, hsecond⟩ := ih fun b hmem => hfill b (List.mem_cons_of_mem _ hmem)
    cases hkey : first.contains (Expression.parse body).key with
    | true =>
      obtain ⟨t, ht, hinert⟩ := hfill body List.mem_cons_self hkey
      refine ⟨t ++ between, ?_, fun _ => hinert.head?_append between, ?_⟩
      · rw [substitute_enclose hb, ht, hfirst]; rfl
      · rw [substitute_passes (passes_of_dollar_not_mem hinert.no_dollar between), hsecond, substitute_enclose hb,
          replacement_extend_of_contains hkey, ht]
        rfl
    | false =>
      refine ⟨enclose body ++ between, ?_, fun _ => by simp [enclose], ?_⟩
      · rw [substitute_enclose hb, replacement_of_missing hkey, hfirst]; rfl
      · rw [substitute_enclose hb, substitute_enclose hb, hsecond, replacement_extend_of_not_contains hkey]
  | @literal t rest segments hne hp hr hseg ih =>
    obtain ⟨between, hfirst, hhead, hsecond⟩ := ih fun b hmem => hfill b (List.mem_cons_of_mem _ hmem)
    have hp' : Passes t between := by
      rcases hr with rfl | hopen
      · rw [substitute_nil] at hfirst
        cases hfirst
        exact hp
      · exact hp.of_head? hopen (hhead hopen)
    refine ⟨t ++ between, ?_, fun hopen => absurd hopen (hp 0 (List.length_pos_iff.mpr hne)), ?_⟩
    · rw [substitute_passes hp, hfirst]; rfl
    · rw [substitute_passes hp', substitute_passes hp, hsecond]

/-- **Two phases come to the same as one.** When the placeholders whose keys are in
the first parameters give way to inert texts, the text that comes out renders with
the second ones to what the pattern renders to with both, the first ones before
the second. -/
theorem substitute_substitute {pattern : Text} (h : FillsInertly provider first (scan pattern)) :
    ∃ between, (lenient provider).substitute first pattern = .ok between ∧
      (lenient provider).substitute second between =
        (lenient provider).substitute (second.extend first) pattern ∧
      (provider.Answers → ∃ t, (lenient provider).substitute (second.extend first) pattern = .ok t) := by
  obtain ⟨between, hfirst, -, hsecond⟩ := exists_substitute_of_segmented (segmented_scan pattern) h
  refine ⟨between, hfirst, hsecond, fun hanswers => ?_⟩
  obtain ⟨r, hr⟩ := exists_lenient_render hanswers (second.extend first) pattern
  exact ⟨r.text, Outcome.map_eq_ok.mpr ⟨r, hr, rfl⟩⟩

/-- A dollar sign before a placeholder and a brace after it, and a key that is left. -/
def spliced : Text := '$' :: (enclose "a | f".toList ++ '{' :: enclose ['b'])

theorem onlyA_fillsInertly : FillsInertly failing onlyA (scan spliced) := by
  have hscan : scan spliced =
      [.literal ['$'], .placeholder "a | f".toList, .literal ['{'], .placeholder ['b']] := by decide +kernel
  have hcontains : onlyA.contains (Expression.parse ['b']).key = false := rfl
  have hreplacement : (lenient failing).replacement onlyA "a | f".toList = .ok ['v'] := by decide +kernel
  intro body hmem hkey
  simp only [hscan, List.mem_cons, reduceCtorEq, Segment.placeholder.injEq, List.not_mem_nil, false_or, or_false]
    at hmem
  rcases hmem with rfl | rfl
  · exact ⟨['v'], hreplacement, by decide, by decide, by decide⟩
  · rw [hcontains] at hkey
    cases hkey

theorem substitute_substitute_spliced :
    FillsInertly failing onlyA (scan spliced) ∧ failing.Answers ∧
      ∃ between, (lenient failing).substitute onlyA spliced = .ok between ∧
        (lenient failing).substitute deceptive between =
          (lenient failing).substitute (deceptive.extend onlyA) spliced ∧
        ∃ t, (lenient failing).substitute (deceptive.extend onlyA) spliced = .ok t := by
  obtain ⟨between, hfirst, hsecond, hboth⟩ :=
    @substitute_substitute failing onlyA deceptive spliced onlyA_fillsInertly
  exact ⟨onlyA_fillsInertly, failing_answers, between, hfirst, hsecond, hboth failing_answers⟩

end Engine
end Placeholders

/-
What a rendering leaves. A placeholder whose key has no value stays as it stands, and
one warning tells of it. So a pattern comes out as it went in, with a warning for each
of its placeholders, just when none of its keys has a value (`render_leftovers`).

What its placeholders look like does not matter, nor how the pattern came about. The
text of a rendering may have placeholders that were not there before, put together
from literals and values; it too is left as it is as long as their keys have no value.
-/
import Placeholders.Proofs.Visibility

namespace Placeholders
open Pattern

/-- No key that the pattern mentions has a value. -/
def IsUnbound (params : Params) (pattern : Text) : Prop :=
  ∀ key, Mentions pattern key → params.contains key = false

/-- The warning about a placeholder that is left. -/
def Pattern.Segment.leftover? : Segment → Option Diagnostic
  | .literal _ => none
  | .placeholder body => some ⟨enclose body, .warning, .missingKey (Expression.parse body).key⟩

theorem isUnbound_iff {params : Params} {pattern : Text} :
    IsUnbound params pattern ↔ ∀ key ∈ (scan pattern).filterMap Segment.key?, params.contains key = false := by
  simp only [IsUnbound, mentions_iff, List.mem_filterMap]

namespace Engine

variable {provider : Provider} {params : Params} {pattern : Text}

theorem renderSegment_of_unbound {s : Segment} (h : ∀ key, s.key? = some key → params.contains key = false) :
    renderSegment ⟨provider, .lenient⟩ params s = .ok ⟨s.text, s.leftover?.toList⟩ := by
  cases s with
  | literal t => rfl
  | placeholder body =>
    have hnone := Params.contains_eq_false.mp (h _ rfl)
    rw [renderSegment_placeholder, evaluate_of_get?_none _ hnone]
    rfl

theorem render_of_unbound (h : IsUnbound params pattern) :
    render ⟨provider, .lenient⟩ params pattern = .ok ⟨pattern, (scan pattern).filterMap Segment.leftover?⟩ := by
  have hparts : ∀ s ∈ scan pattern,
      renderSegment ⟨provider, .lenient⟩ params s = .ok ⟨s.text, s.leftover?.toList⟩ := fun s hs =>
    renderSegment_of_unbound fun key hkey => h key (mentions_iff.mpr ⟨s, hs, hkey⟩)
  rw [render, renderSegments_of_parts hparts, (segmented_scan pattern).flatMap_text,
    List.filterMap_eq_flatMap_toList]

/-- A rendering that warns of each placeholder has found a value for none. -/
theorem isUnbound_of_render {r : Rendered} (h : render ⟨provider, .lenient⟩ params pattern = .ok r)
    (hleft : r.diagnostics = (scan pattern).filterMap Segment.leftover?) : IsUnbound params pattern := by
  refine isUnbound_iff.mpr fun key hkey => Params.contains_eq_false.mpr ?_
  obtain ⟨s, hs, hkey⟩ := List.mem_filterMap.mp hkey
  cases s with
  | literal t => cases hkey
  | placeholder body =>
    cases hkey
    have hmem : ⟨enclose body, .warning, .missingKey (Expression.parse body).key⟩ ∈ r.diagnostics :=
      hleft ▸ List.mem_filterMap.mpr ⟨_, hs, rfl⟩
    exact ((reports_missingKey_iff h _).mp ⟨_, hmem, rfl⟩).2

/-- Without placeholders there is nothing to replace, in either mode. -/
theorem render_of_not_hasPlaceholder (h : hasPlaceholder pattern = false) (engine : Engine) (params : Params) :
    engine.render params pattern = .ok ⟨pattern, []⟩ := by
  have hparts : ∀ s ∈ scan pattern, engine.renderSegment params s = .ok ⟨s.text, []⟩ := by
    intro s hs
    cases s with
    | literal t => rfl
    | placeholder body =>
      rw [(segmented_scan pattern).hasPlaceholder_iff.mpr ⟨body, hs⟩] at h
      cases h
  rw [render, renderSegments_of_parts hparts, (segmented_scan pattern).flatMap_text, List.flatMap_eq_nil_iff.mpr]
  exact fun _ _ => rfl

/-- **What has no value is left as it stands.** A lenient rendering gives the pattern
back, with one warning for each placeholder in order, just when no key of the pattern
has a value. A pattern without placeholders is given back in either mode, with no
diagnostics. And the text of a rendering, whatever is in it, is given back when it is
rendered again, if no key that it mentions has a value. -/
theorem render_leftovers (provider : Provider) (params : Params) (pattern : Text) :
    (render ⟨provider, .lenient⟩ params pattern =
        .ok ⟨pattern, (scan pattern).filterMap Segment.leftover?⟩ ↔ IsUnbound params pattern) ∧
      (hasPlaceholder pattern = false → ∀ mode, render ⟨provider, mode⟩ params pattern = .ok ⟨pattern, []⟩) ∧
      (provider.Answers → ∃ out, (lenient provider).substitute params pattern = .ok out) ∧
      ∀ out, (lenient provider).substitute params pattern = .ok out → IsUnbound params out →
        (lenient provider).substitute params out = .ok out := by
  refine ⟨⟨fun h => isUnbound_of_render h rfl, render_of_unbound⟩, fun h mode => ?_, fun hanswers => ?_,
    fun out _ hunbound => ?_⟩
  · exact render_of_not_hasPlaceholder h ⟨provider, mode⟩ params
  · obtain ⟨r, hr⟩ := exists_lenient_render hanswers params pattern
    exact ⟨r.text, Outcome.map_eq_ok.mpr ⟨r, hr, rfl⟩⟩
  · exact Outcome.map_eq_ok.mpr ⟨_, render_of_unbound hunbound, rfl⟩

/-- Openings that open nothing, and one that is part of a key. -/
def nested : Text := "$$\x7b\x7d".toList ++ (enclose "$\x7bb | f".toList ++ " \x7d".toList)

/-- The value makes a placeholder of what stands around it. -/
def braced : Params := Params.ofList [(['a'], .string "\x7bb".toList)]

example : (lenient failing).substitute braced ('$' :: (enclose ['a'] ++ ['}'])) = .ok (enclose ['b']) := by cbv

theorem render_leftovers_nested :
    IsUnbound onlyA nested ∧
      render ⟨failing, .lenient⟩ onlyA nested =
        .ok ⟨nested, [⟨enclose "$\x7bb | f".toList, .warning, .missingKey "$\x7bb".toList⟩]⟩ ∧
      hasPlaceholder "$$\x7b\x7d".toList = false ∧
      render ⟨failing, .strict⟩ onlyA "$$\x7b\x7d".toList = .ok ⟨"$$\x7b\x7d".toList, []⟩ ∧
      failing.Answers ∧ (∃ out, (lenient failing).substitute onlyA nested = .ok out) ∧
      (lenient failing).substitute braced ('$' :: (enclose ['a'] ++ ['}'])) = .ok (enclose ['b']) ∧
      IsUnbound braced (enclose ['b']) ∧
      (lenient failing).substitute braced (enclose ['b']) = .ok (enclose ['b']) := by
  have hwarnings : (scan nested).filterMap Segment.leftover? =
      [⟨enclose "$\x7bb | f".toList, .warning, .missingKey "$\x7bb".toList⟩] := by cbv
  have hkeys : (scan nested).filterMap Segment.key? = ["$\x7bb".toList] := by cbv
  have hkeys' : (scan (enclose ['b'])).filterMap Segment.key? = [['b']] := by cbv
  have hunbound : IsUnbound onlyA nested := by
    rw [isUnbound_iff, hkeys, List.forall_mem_singleton]
    cbv
  have hunbound' : IsUnbound braced (enclose ['b']) := by
    rw [isUnbound_iff, hkeys', List.forall_mem_singleton]
    cbv
  have hnone : hasPlaceholder "$$\x7b\x7d".toList = false := by decide
  have hout : (lenient failing).substitute braced ('$' :: (enclose ['a'] ++ ['}'])) = .ok (enclose ['b']) := by cbv
  obtain ⟨hrender, -, hanswered, -⟩ := render_leftovers failing onlyA nested
  obtain ⟨-, hbare, -, -⟩ := render_leftovers failing onlyA "$$\x7b\x7d".toList
  obtain ⟨-, -, -, hagain⟩ := render_leftovers failing braced ('$' :: (enclose ['a'] ++ ['}']))
  exact ⟨hunbound, hwarnings ▸ hrender.mpr hunbound, hnone, hbare hnone .strict, failing_answers,
    hanswered failing_answers, hout, hunbound', hagain _ hout hunbound'⟩

end Engine
end Placeholders

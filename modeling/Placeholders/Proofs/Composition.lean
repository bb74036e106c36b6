/-
Rendering in pieces. A scan looks ahead: an opening at the end of one text may
find its brace in the next, so patterns cannot be cut just anywhere. Between two
segments they can. Each side is scanned as it was (`scan_cut`), and the pattern
renders to what the one side renders to and then the other (`render_cut`), in
either mode.

From the left, then, text in which nothing opens is copied (`render_passes`) and a
placeholder gives way to what it comes to (`render_enclose`). No text that was put
in is looked at again.
-/
import Placeholders.Proofs.Segmentation
import Placeholders.Proofs.Tolerance

namespace Placeholders
open Pattern

/-! ## Cuts -/

theorem Pattern.scan_cut {pattern : Text} {before after : List Segment} (h : scan pattern = before ++ after) :
    scan (before.flatMap Segment.text) = before ∧ scan (after.flatMap Segment.text) = after := by
  obtain ⟨hbefore, hafter⟩ := (h ▸ segmented_scan pattern).cut
  exact ⟨hbefore.eq_scan.symm, hafter.eq_scan.symm⟩

theorem Rendered.append_assoc (a b c : Rendered) : (a.append b).append c = a.append (b.append c) := by
  simp [append]

namespace Engine

theorem renderSegments_append (engine : Engine) (params : Params) (before after : List Segment) :
    engine.renderSegments params (before ++ after) =
      (do let first ← engine.renderSegments params before
          let rest ← engine.renderSegments params after
          return first.append rest) := by
  induction before with
  | nil =>
    rw [List.nil_append, show engine.renderSegments params [] = .ok ⟨[], []⟩ from rfl]
    cases engine.renderSegments params after <;> rfl
  | cons s before ih =>
    simp only [List.cons_append, renderSegments_cons, ih, bind_assoc, pure_bind, Rendered.append_assoc]

theorem render_flatMap_text {segments : List Segment} (h : scan (segments.flatMap Segment.text) = segments)
    (engine : Engine) (params : Params) :
    engine.render params (segments.flatMap Segment.text) = engine.renderSegments params segments := by
  rw [render, h]

/-- A pattern renders to its pieces, one after the other; the first that fails, it fails with. -/
theorem render_cut {pattern : Text} {before after : List Segment} (h : scan pattern = before ++ after)
    (engine : Engine) (params : Params) :
    engine.render params pattern =
      (do let first ← engine.render params (before.flatMap Segment.text)
          let rest ← engine.render params (after.flatMap Segment.text)
          return first.append rest) := by
  obtain ⟨hbefore, hafter⟩ := scan_cut h
  rw [render_flatMap_text hbefore, render_flatMap_text hafter, ← renderSegments_append, render, h]

/-! ## From the left -/

theorem render_enclose {body : Text} (h : IsBody body) (engine : Engine) (params : Params) (rest : Text) :
    engine.render params (enclose body ++ rest) =
      (do let first ← engine.renderSegment params (.placeholder body)
          let more ← engine.render params rest
          return first.append more) := by
  rw [render, scan_enclose h, renderSegments_cons]
  rfl

theorem render_before {t rest : Text} (hp : Passes t rest) (hr : rest = [] ∨ Opens rest) (engine : Engine)
    (params : Params) :
    engine.render params (t ++ rest) = (engine.render params rest).map (Rendered.append ⟨t, []⟩) := by
  by_cases hne : t = []
  · rw [hne, List.nil_append]
    cases engine.render params rest <;> rfl
  · rw [render, scan_literal hne hp hr, renderSegments_cons]
    cases h : engine.render params rest <;> unfold render at h <;> rw [h] <;> rfl

/-- Text in which nothing opens is copied. -/
theorem render_passes {t rest : Text} (h : Passes t rest) (engine : Engine) (params : Params) :
    engine.render params (t ++ rest) = (engine.render params rest).map (Rendered.append ⟨t, []⟩) := by
  -- The text is part of a literal, which goes on to where a placeholder opens.
  obtain ⟨u, rest', rfl, hu, hr⟩ := exists_passes rest
  rw [← List.append_assoc, render_before (passes_append.mpr ⟨h, hu⟩) hr, render_before hu hr]
  cases engine.render params rest' with
  | error e => rfl
  | ok r => simp [Except.map, Rendered.append]

/-! ## What is put in as it is -/

/-- The segment is replaced by this text as it stands: a literal by itself, and a
placeholder without stages by the value of its key. -/
inductive Copies (params : Params) : Segment → Text → Prop
  | literal {t} : Copies params (.literal t) t
  | value {body v} : (Expression.parse body).stages = [] → params.get? (Expression.parse body).key = some v →
      Copies params (.placeholder body) v.toText

theorem Copies.renderSegment_eq {params : Params} {s : Segment} {t : Text} (h : Copies params s t) (engine : Engine) :
    engine.renderSegment params s = .ok ⟨t, []⟩ := by
  cases h with
  | literal => rfl
  | value hstages hget =>
    rw [renderSegment_placeholder, evaluate_of_get?_some engine hget, Expression.calls, hstages]
    rfl

theorem render_copies {pattern t : Text} {before tail : List Segment} {s : Segment} {params : Params}
    (h : scan pattern = before ++ s :: tail) (hs : Copies params s t) (engine : Engine) :
    engine.render params pattern =
      (do let first ← engine.render params (before.flatMap Segment.text)
          let rest ← engine.render params (tail.flatMap Segment.text)
          return ⟨first.text ++ (t ++ rest.text), first.diagnostics ++ rest.diagnostics⟩) := by
  have htail : scan pattern = (before ++ [s]) ++ tail := by rw [h, List.append_assoc, List.singleton_append]
  rw [render_cut h, render_flatMap_text (scan_cut h).2, renderSegments_cons, hs.renderSegment_eq,
    render_flatMap_text (scan_cut htail).2]
  cases engine.render params (before.flatMap Segment.text) with
  | error e => rfl
  | ok first => cases engine.renderSegments params tail <;> rfl

/-! ## Both modes -/

/-- A strict rendering of pieces fails with the first piece that fails. -/
theorem strict_render_cut (provider : Provider) {pattern : Text} {before after : List Segment}
    (h : scan pattern = before ++ after) (params : Params) :
    render ⟨provider, .strict⟩ params pattern =
      match render ⟨provider, .strict⟩ params (before.flatMap Segment.text) with
      | .error e => .error e
      | .ok first =>
        match render ⟨provider, .strict⟩ params (after.flatMap Segment.text) with
        | .error e => .error e
        | .ok rest => .ok ⟨first.text ++ rest.text, []⟩ := by
  rw [render_cut h]
  cases hfirst : render ⟨provider, .strict⟩ params (before.flatMap Segment.text) with
  | error e => rfl
  | ok first =>
    cases hrest : render ⟨provider, .strict⟩ params (after.flatMap Segment.text) with
    | error e => rfl
    | ok rest =>
      have hsilent := strict_diagnostics hfirst
      have hsilent' := strict_diagnostics hrest
      simp [bind, Except.bind, pure, Except.pure, Rendered.append, hsilent, hsilent']

/-- **A rendering is put together from renderings**, wherever a pattern is cut
between two segments. The sides have the segments that they had. Leniently, their
texts and their diagnostics follow one another; strictly, the first side that fails
decides. A literal, and the value of a placeholder without stages, is put in as it
is, whatever is in it. -/
theorem render_of_cut {pattern : Text} {before after : List Segment} (h : scan pattern = before ++ after) :
    scan (before.flatMap Segment.text) = before ∧ scan (after.flatMap Segment.text) = after ∧
      ∀ (provider : Provider) (params : Params),
        (render ⟨provider, .lenient⟩ params pattern =
          (do let first ← render ⟨provider, .lenient⟩ params (before.flatMap Segment.text)
              let rest ← render ⟨provider, .lenient⟩ params (after.flatMap Segment.text)
              return ⟨first.text ++ rest.text, first.diagnostics ++ rest.diagnostics⟩)) ∧
        (provider.Answers → ∃ r, render ⟨provider, .lenient⟩ params pattern = .ok r) ∧
        (render ⟨provider, .strict⟩ params pattern =
          match render ⟨provider, .strict⟩ params (before.flatMap Segment.text) with
          | .error e => .error e
          | .ok first =>
            match render ⟨provider, .strict⟩ params (after.flatMap Segment.text) with
            | .error e => .error e
            | .ok rest => .ok ⟨first.text ++ rest.text, []⟩) ∧
        ∀ mode s tail t, after = s :: tail → Copies params s t →
          render ⟨provider, mode⟩ params pattern =
            (do let first ← render ⟨provider, mode⟩ params (before.flatMap Segment.text)
                let rest ← render ⟨provider, mode⟩ params (tail.flatMap Segment.text)
                return ⟨first.text ++ (t ++ rest.text), first.diagnostics ++ rest.diagnostics⟩) := by
  obtain ⟨hbefore, hafter⟩ := scan_cut h
  refine ⟨hbefore, hafter, fun provider params => ⟨render_cut h _ params, ?_, strict_render_cut provider h params, ?_⟩⟩
  · exact fun hanswers => exists_lenient_render hanswers params pattern
  · rintro mode s tail t rfl hs
    exact render_copies h hs ⟨provider, mode⟩

/-- A placeholder between a dollar sign and a placeholder with a stage. -/
def crowded : List Segment :=
  [.placeholder ['a'], .placeholder "b | f".toList, .literal ['}']]

/-- A value that has a placeholder in it, with a stage, and ends in a brace. -/
def deceptive : Params :=
  Params.ofList [(['a'], .string (enclose "b | f".toList ++ ['}'])), (['b'], .string ['v'])]

example : render ⟨failing, .lenient⟩ deceptive ('$' :: crowded.flatMap Segment.text) =
    .ok ⟨'$' :: (enclose "b | f".toList ++ "\x7dv\x7d".toList),
      [⟨enclose "b | f".toList, .error, .invocationFailed ['f'] "failing".toList (.failed "no".toList)⟩]⟩ := by cbv

theorem render_of_cut_crowded :
    scan ('$' :: crowded.flatMap Segment.text) = [.literal ['$']] ++ crowded ∧ failing.Answers ∧
      Copies deceptive (.placeholder ['a']) (enclose "b | f".toList ++ ['}']) ∧
      (scan ['$'] = [.literal ['$']] ∧ scan (crowded.flatMap Segment.text) = crowded) ∧
      render ⟨failing, .lenient⟩ deceptive ('$' :: crowded.flatMap Segment.text) =
        (do let first ← render ⟨failing, .lenient⟩ deceptive ['$']
            let rest ← render ⟨failing, .lenient⟩ deceptive (crowded.flatMap Segment.text)
            return ⟨first.text ++ rest.text, first.diagnostics ++ rest.diagnostics⟩) ∧
      (∃ r, render ⟨failing, .lenient⟩ deceptive ('$' :: crowded.flatMap Segment.text) = .ok r) ∧
      render ⟨failing, .lenient⟩ deceptive ('$' :: crowded.flatMap Segment.text) =
        (do let first ← render ⟨failing, .lenient⟩ deceptive ['$']
            let rest ← render ⟨failing, .lenient⟩ deceptive (crowded.tail.flatMap Segment.text)
            return ⟨first.text ++ (enclose "b | f".toList ++ ['}'] ++ rest.text),
              first.diagnostics ++ rest.diagnostics⟩) := by
  have hscan : scan ('$' :: crowded.flatMap Segment.text) = [.literal ['$']] ++ crowded := by cbv
  have hget : deceptive.get? (Expression.parse ['a']).key = some (.string (enclose "b | f".toList ++ ['}'])) := by
    cbv
  have hcopies : Copies deceptive (.placeholder ['a']) (enclose "b | f".toList ++ ['}']) := .value (by cbv) hget
  obtain ⟨hbefore, hafter, hrender⟩ := render_of_cut hscan
  obtain ⟨hlenient, hanswered, -, hcopied⟩ := hrender failing deceptive
  exact ⟨hscan, failing_answers, hcopies, ⟨hbefore, hafter⟩, hlenient, hanswered failing_answers,
    hcopied .lenient _ _ _ rfl hcopies⟩

end Engine
end Placeholders

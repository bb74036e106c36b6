/-
Pipelines in parts. A key and stages are written as a placeholder (`pipelineText`)
and read back as they were meant, blank stages too, so the placeholder runs the
stages from the value of the key (`evaluate_written`). A stage sees the text that
the stages before it have left and nothing else of them. So a pipeline may be
broken off anywhere and taken up again from that text, bound to the key in place
of its value (`render_pipeline_append`).
-/
import Placeholders.Proofs.Bodies
import Placeholders.Proofs.Calls
import Placeholders.Proofs.Quoting
import Placeholders.Proofs.Tolerance

namespace Placeholders
open Pattern

/-- A key and stages as a placeholder, with single spaces around the bars. -/
def pipelineText (key : Text) (stages : List Text) : Text := enclose (Expression.written key stages)

/-- A text that can be written between two bars. -/
def IsPart (t : Text) : Prop := '|' ∉ t ∧ '}' ∉ t

/-! ## What is read of a body can be written -/

theorem isKey_of_isBody {body : Text} (h : IsBody body) : IsKey (Expression.parse body).key :=
  ⟨Expression.trim_key body, fun hbar => (Expression.mem_key hbar).1 rfl,
    fun hbrace => h.2 (Expression.mem_key hbrace).2⟩

theorem isPart_of_isBody {body : Text} (h : IsBody body) : ∀ s ∈ (Expression.parse body).stages, IsPart s :=
  fun _ hs => ⟨fun hbar => (Expression.mem_stage hs hbar).1 rfl,
    fun hbrace => h.2 (Expression.mem_stage hs hbrace).2⟩

namespace Engine

/-! ## A placeholder that is written -/

section
variable {key : Text} {stages : List Text} (hkey : IsKey key) (hstages : ∀ s ∈ stages, IsPart s)
include hkey hstages

theorem isBody_pipeline : IsBody (Expression.written key stages) :=
  Expression.isBody_written hkey.plain.2 fun s hs => (hstages s hs).2

/-- The stages of a written placeholder run one after the other from the value of its key. -/
theorem evaluate_written {params : Params} {value : ParamValue} (hget : params.get? key = some value)
    (engine : Engine) :
    engine.evaluate params (Expression.written key stages) =
      (stages.map Call.parse?).foldlM (engine.runStage key) value.toText := by
  have hbars : ∀ s ∈ stages, '|' ∉ s := fun s hs => (hstages s hs).1
  have hparsed : (Expression.parse (Expression.written key stages)).key = key := by
    rw [Expression.parse_written hkey.plain.1 hbars]
    exact hkey.trimmed
  rw [evaluate_of_get?_some engine (hparsed.symm ▸ hget), Expression.calls_written hkey.plain.1 hbars, hparsed]

/-- A written placeholder renders to what its body comes to. -/
theorem content_render_pipeline (engine : Engine) (params : Params) :
    (engine.render params (pipelineText key stages)).map Rendered.content =
      (engine.evaluate params (Expression.written key stages)).run := by
  have hscan := scan_enclose (isBody_pipeline hkey hstages) []
  rw [List.append_nil, scan_nil] at hscan
  rw [render, pipelineText, hscan, renderSegments_singleton, content_renderSegment_placeholder]

end

/-! ## Two parts -/

section
variable {params : Params} {key : Text} {value : ParamValue} {first rest : List Text}
  (hget : params.get? key = some value) (hkey : IsKey key) (hstages : ∀ s ∈ first ++ rest, IsPart s)
include hget hkey hstages

theorem evaluate_written_append (engine : Engine) :
    engine.evaluate params (Expression.written key (first ++ rest)) =
      (do let t ← engine.evaluate params (Expression.written key first)
          engine.evaluate (params.insert key (.string t)) (Expression.written key rest)) := by
  obtain ⟨hfirst, hrest⟩ := List.forall_mem_append.mp hstages
  have hrebound : ∀ t, engine.evaluate (params.insert key (.string t)) (Expression.written key rest) =
      (rest.map Call.parse?).foldlM (engine.runStage key) t := by
    intro t
    have hput : (params.insert key (.string t)).get? key = some (.string t) := by
      rw [Params.get?_insert, if_pos rfl]
    exact evaluate_written hkey hrest hput engine
  simp only [evaluate_written hkey hstages hget, evaluate_written hkey hfirst hget, hrebound, List.map_append,
    List.foldlM_append]

theorem content_render_pipeline_append (engine : Engine) :
    (engine.render params (pipelineText key (first ++ rest))).map Rendered.content =
      (do let r ← engine.render params (pipelineText key first)
          let r' ← engine.render (params.insert key (.string r.text)) (pipelineText key rest)
          return (r'.text, r.diagnostics.map Diagnostic.issue ++ r'.diagnostics.map Diagnostic.issue)) := by
  obtain ⟨hfirst, hrest⟩ := List.forall_mem_append.mp hstages
  rw [content_render_pipeline hkey hstages, evaluate_written_append hget hkey hstages, Noting.run_bind,
    ← content_render_pipeline hkey hfirst]
  cases engine.render params (pipelineText key first) with
  | error e => rfl
  | ok r =>
    simp only [Except.map, Rendered.content, ← content_render_pipeline hkey hrest, bind, Except.bind]
    cases engine.render (params.insert key (.string r.text)) (pipelineText key rest) <;> rfl

end

/-- **Pipelines compose.** A placeholder with the stages of two pipelines renders to
what the second one gives when the key is bound to the text of the first one. What
is noted is what the first notes and then the second, and a strict rendering fails
with the first error of the two. -/
theorem render_pipeline_append {params : Params} {key : Text} {value : ParamValue} {first rest : List Text}
    (hget : params.get? key = some value) (hkey : IsKey key) (hstages : ∀ s ∈ first ++ rest, IsPart s)
    (provider : Provider) :
    ((render ⟨provider, .lenient⟩ params (pipelineText key (first ++ rest))).map Rendered.content =
        (do let r ← render ⟨provider, .lenient⟩ params (pipelineText key first)
            let r' ← render ⟨provider, .lenient⟩ (params.insert key (.string r.text)) (pipelineText key rest)
            return (r'.text, r.diagnostics.map Diagnostic.issue ++ r'.diagnostics.map Diagnostic.issue))) ∧
      (provider.Answers → ∃ r, render ⟨provider, .lenient⟩ params (pipelineText key (first ++ rest)) = .ok r) ∧
      render ⟨provider, .strict⟩ params (pipelineText key (first ++ rest)) =
        match render ⟨provider, .strict⟩ params (pipelineText key first) with
        | .error e => .error e
        | .ok r => render ⟨provider, .strict⟩ (params.insert key (.string r.text)) (pipelineText key rest) := by
  have hcontent := content_render_pipeline_append hget hkey hstages ⟨provider, .strict⟩
  refine ⟨content_render_pipeline_append hget hkey hstages ⟨provider, .lenient⟩,
    fun hanswers => exists_lenient_render hanswers params _, ?_⟩
  cases hr : render ⟨provider, .strict⟩ params (pipelineText key first) with
  | error e =>
    rw [hr] at hcontent
    exact Outcome.map_eq_error.mp hcontent
  | ok r =>
    refine eq_of_strict_content ?_
    rw [hcontent, hr]
    simp only [bind, Except.bind, strict_diagnostics hr]
    cases render ⟨provider, .strict⟩ (params.insert key (.string r.text)) (pipelineText key rest) <;> rfl

/-- A function that puts a value in angle brackets, but not twice. -/
def once : PipeFunction := fun value _ =>
  if '<' ∈ value then refuse (.failed "marked".toList) else .ok ('<' :: (value ++ ['>']))

/-- A provider with this one function. -/
def marking : Provider := ⟨"marking".toList, fun s => if s = ⟨"once".toList, []⟩ then some once else none⟩

theorem marking_answers : marking.Answers := by
  intro s f hf value args
  unfold marking at hf
  dsimp only at hf
  split at hf
  · cases hf
    unfold once
    split
    · exact refuse_ne_abort _
    · intro hc; cases hc
  · cases hf

/-- A stage that works and a blank one. -/
def markedFirst : List Text := ["once".toList, []]

/-- A stage that worked before and one that nobody knows. -/
def markedRest : List Text := ["once".toList, "nope x".toList]

example : (render ⟨marking, .lenient⟩ onlyA (pipelineText ['a'] (markedFirst ++ markedRest))).map Rendered.content =
    .ok ("<v>".toList,
      [⟨.error, .emptyStage ['a']⟩,
        ⟨.error, .invocationFailed "once".toList "marking".toList (.failed "marked".toList)⟩,
        ⟨.warning, .unsupportedArgumentType ['x']⟩,
        ⟨.error, .functionNotFound "nope".toList [.any] "marking".toList⟩]) := by cbv

theorem render_pipeline_append_marked :
    onlyA.get? ['a'] = some (.string ['v']) ∧ IsKey ['a'] ∧ (∀ s ∈ markedFirst ++ markedRest, IsPart s) ∧
      marking.Answers ∧
      (render ⟨marking, .lenient⟩ onlyA (pipelineText ['a'] (markedFirst ++ markedRest))).map Rendered.content =
        (do let r ← render ⟨marking, .lenient⟩ onlyA (pipelineText ['a'] markedFirst)
            let r' ← render ⟨marking, .lenient⟩ (onlyA.insert ['a'] (.string r.text)) (pipelineText ['a'] markedRest)
            return (r'.text, r.diagnostics.map Diagnostic.issue ++ r'.diagnostics.map Diagnostic.issue)) ∧
      (∃ r, render ⟨marking, .lenient⟩ onlyA (pipelineText ['a'] (markedFirst ++ markedRest)) = .ok r) ∧
      render ⟨marking, .strict⟩ onlyA (pipelineText ['a'] (markedFirst ++ markedRest)) =
        match render ⟨marking, .strict⟩ onlyA (pipelineText ['a'] markedFirst) with
        | .error e => .error e
        | .ok r =>
          render ⟨marking, .strict⟩ (onlyA.insert ['a'] (.string r.text)) (pipelineText ['a'] markedRest) := by
  have hget : onlyA.get? ['a'] = some (.string ['v']) := by cbv
  have hkey : IsKey ['a'] := ⟨by decide, by decide⟩
  have hparts : ∀ s ∈ markedFirst ++ markedRest, IsPart s := by unfold IsPart; decide
  obtain ⟨hlenient, hanswered, hstrict⟩ := render_pipeline_append hget hkey hparts marking
  exact ⟨hget, hkey, hparts, marking_answers, hlenient, hanswered marking_answers, hstrict⟩

end Engine
end Placeholders

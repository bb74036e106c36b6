/-
Stages that fail do nothing. A lenient run notes an error at such a stage and goes
on with the value that it had (`LenientStage.value_of_error`). Whether a stage
fails hangs on that value, so the run itself says which ones do (`trace`). Without
them each of the others comes to the value that it came to before, and the pattern
renders to the same text with nothing but warnings (`render_soundPattern`).
-/
import Placeholders.Proofs.Calls
import Placeholders.Proofs.Pipelines

namespace Placeholders
open Pattern

namespace Engine

/-! ## The stages of a run -/

/-- The stages that a lenient run of a pipeline comes to, each with what is noted at it. -/
def trace (provider : Provider) (key : Text) : Text → List Text → List (Text × List Issue)
  | _, [] => []
  | value, stage :: stages =>
    match (runStage ⟨provider, .lenient⟩ key value (Call.parse? stage)).run with
    | .error _ => []
    | .ok (next, issues) => (stage, issues) :: trace provider key next stages

/-- Is no issue an error? -/
def onlyWarnings (issues : List Issue) : Bool := issues.all (·.severity == .warning)

/-- The stages of a pipeline at which no error is noted. -/
def soundStages (provider : Provider) (key value : Text) (stages : List Text) : List Text :=
  ((trace provider key value stages).filter fun (_, issues) => onlyWarnings issues).map Prod.fst

/-- A body without the stages at which an error is noted. A body that has no value stays as it is. -/
def soundBody (provider : Provider) (params : Params) (body : Text) : Text :=
  let expression := Expression.parse body
  match params.get? expression.key with
  | none => body
  | some value =>
    Expression.written expression.key (soundStages provider expression.key value.toText expression.stages)

/-- A pattern without the stages at which an error is noted. -/
def soundPattern (provider : Provider) (params : Params) (pattern : Text) : Text :=
  ((scan pattern).map (Segment.mapBody (soundBody provider params))).flatMap Segment.text

/-- The diagnostics of a segment, told from the stages of its run. -/
def traced (provider : Provider) (params : Params) : Segment → List Diagnostic
  | .literal _ => []
  | .placeholder body =>
    let expression := Expression.parse body
    match params.get? expression.key with
    | none => [⟨enclose body, .warning, .missingKey expression.key⟩]
    | some value =>
      ((trace provider expression.key value.toText expression.stages).flatMap Prod.snd).map
        (Diagnostic.mk (enclose body))

/-! ## One stage -/

theorem onlyWarnings_argumentIssues (args : List Text) : onlyWarnings (argumentIssues args) = true := by
  simp [onlyWarnings, argumentIssues]

theorem onlyWarnings_append (issues more : List Issue) :
    onlyWarnings (issues ++ more) = (onlyWarnings issues && onlyWarnings more) := List.all_append

variable {provider : Provider} {params : Params} {key value t : Text} {stages : List Text} {issues : List Issue}

theorem LenientStage.value_of_error {next : Text} {stage : Option Call}
    (h : LenientStage provider key value stage next issues) (herror : onlyWarnings issues = false) : next = value := by
  cases h with
  | blank | notFound | failed => rfl
  | applied =>
    rw [onlyWarnings_argumentIssues] at herror
    cases herror

/-! ## One pipeline -/

/-- The trace of a run has all its stages, and all that it notes. -/
theorem trace_of_run (h : ((stages.map Call.parse?).foldlM (runStage ⟨provider, .lenient⟩ key) value).run =
      .ok (t, issues)) :
    (trace provider key value stages).map Prod.fst = stages ∧
      (trace provider key value stages).flatMap Prod.snd = issues := by
  induction stages generalizing value issues with
  | nil => cases h; exact ⟨rfl, rfl⟩
  | cons stage stages ih =>
    rw [List.map_cons, List.foldlM_cons] at h
    obtain ⟨next, noted, more, hstage, hrest, rfl⟩ := Noting.run_bind_eq_ok.mp h
    obtain ⟨hstages, hissues⟩ := ih hrest
    simp only [trace, hstage, List.map_cons, List.flatMap_cons, hstages, hissues, and_self]

/-- What a stage does to the stages that are kept, and where the next one starts. -/
theorem soundStages_cons {stage next : Text} {noted : List Issue}
    (h : (runStage ⟨provider, .lenient⟩ key value (Call.parse? stage)).run = .ok (next, noted)) :
    soundStages provider key value (stage :: stages) =
      if onlyWarnings noted then stage :: soundStages provider key next stages
      else soundStages provider key next stages := by
  simp only [soundStages, trace, h, List.filter_cons]
  split <;> rfl

theorem soundStages_subset : soundStages provider key value stages ⊆ stages := by
  induction stages generalizing value with
  | nil => exact List.nil_subset []
  | cons stage stages ih =>
    rcases hstage : (runStage ⟨provider, .lenient⟩ key value (Call.parse? stage)).run with e | ⟨next, noted⟩
    · simp [soundStages, trace, hstage]
    · rw [soundStages_cons hstage]
      split
      · exact List.cons_subset_cons stage ih
      · exact List.subset_cons_of_subset stage ih

/-- A run without its failed stages comes to the same text, and no error is noted. -/
theorem run_soundStages (h : ((stages.map Call.parse?).foldlM (runStage ⟨provider, .lenient⟩ key) value).run =
      .ok (t, issues)) :
    ∃ warnings, (((soundStages provider key value stages).map Call.parse?).foldlM
        (runStage ⟨provider, .lenient⟩ key) value).run = .ok (t, warnings) ∧ onlyWarnings warnings = true := by
  induction stages generalizing value issues with
  | nil => cases h; exact ⟨[], rfl, rfl⟩
  | cons stage stages ih =>
    rw [List.map_cons, List.foldlM_cons] at h
    obtain ⟨next, noted, more, hstage, hrest, rfl⟩ := Noting.run_bind_eq_ok.mp h
    obtain ⟨warnings, hrun, hwarnings⟩ := ih hrest
    rw [soundStages_cons hstage]
    cases hsound : onlyWarnings noted with
    | true =>
      refine ⟨noted ++ warnings, ?_, by rw [onlyWarnings_append, hsound, hwarnings]; rfl⟩
      rw [if_pos rfl, List.map_cons, List.foldlM_cons]
      exact Noting.run_bind_eq_ok.mpr ⟨next, noted, warnings, hstage, hrun, rfl⟩
    | false =>
      -- The stage is left out, and the next one starts from the value that it left.
      have hvalue := (lenientStage_of_run hstage).value_of_error hsound
      rw [if_neg Bool.false_ne_true, ← hvalue]
      exact ⟨warnings, hrun, hwarnings⟩

/-! ## One placeholder -/

theorem isBody_soundBody {body : Text} (h : IsBody body) : IsBody (soundBody provider params body) := by
  simp only [soundBody]
  split
  · exact h
  · exact isBody_pipeline (isKey_of_isBody h) fun s hs => isPart_of_isBody h s (soundStages_subset hs)

theorem run_evaluate_soundBody {body : Text} (hbody : IsBody body)
    (h : (evaluate ⟨provider, .lenient⟩ params body).run = .ok (t, issues)) :
    issues.map (Diagnostic.mk (enclose body)) = traced provider params (.placeholder body) ∧
      ∃ warnings, (evaluate ⟨provider, .lenient⟩ params (soundBody provider params body)).run = .ok (t, warnings) ∧
        onlyWarnings warnings = true := by
  cases hget : params.get? (Expression.parse body).key with
  | none =>
    have hsame : soundBody provider params body = body := by simp only [soundBody, hget]
    have hissues : issues = [⟨.warning, .missingKey (Expression.parse body).key⟩] := by
      rw [evaluate_of_get?_none _ hget] at h
      cases h; rfl
    refine ⟨?_, issues, by rw [hsame, h], by rw [hissues]; rfl⟩
    simp only [traced, hget, hissues, List.map_singleton]
  | some value =>
    have hsound : soundBody provider params body = Expression.written (Expression.parse body).key
        (soundStages provider (Expression.parse body).key value.toText (Expression.parse body).stages) := by
      simp only [soundBody, hget]
    have hparts : ∀ s ∈ soundStages provider (Expression.parse body).key value.toText (Expression.parse body).stages,
        IsPart s := fun s hs => isPart_of_isBody hbody s (soundStages_subset hs)
    rw [evaluate_of_get?_some _ hget, Expression.calls] at h
    refine ⟨by simp only [traced, hget, (trace_of_run h).2], ?_⟩
    rw [hsound, evaluate_written (isKey_of_isBody hbody) hparts hget]
    exact run_soundStages h

theorem exists_renderSegment_sound {s : Segment} {part : Rendered} (hbody : ∀ b, s = .placeholder b → IsBody b)
    (h : renderSegment ⟨provider, .lenient⟩ params s = .ok part) :
    part.diagnostics = traced provider params s ∧
      ∃ part', renderSegment ⟨provider, .lenient⟩ params (s.mapBody (soundBody provider params)) = .ok part' ∧
        part'.text = part.text ∧ onlyWarnings (part'.diagnostics.map Diagnostic.issue) = true := by
  cases s with
  | literal t => cases h; exact ⟨rfl, ⟨t, []⟩, rfl, rfl, rfl⟩
  | placeholder body =>
    rw [renderSegment_placeholder] at h
    obtain ⟨⟨t, issues⟩, hrun, rfl⟩ := Outcome.map_eq_ok.mp h
    obtain ⟨htraced, warnings, hrun', hwarnings⟩ := run_evaluate_soundBody (hbody body rfl) hrun
    refine ⟨htraced, ⟨t, warnings.map (Diagnostic.mk (enclose (soundBody provider params body)))⟩, ?_, rfl, ?_⟩
    · rw [Segment.mapBody, renderSegment_placeholder, hrun']; rfl
    · simpa [Function.comp_def] using hwarnings

/-! ## A pattern -/

theorem exists_renderSegments_sound {segments : List Segment} {r : Rendered}
    (hbodies : ∀ b, .placeholder b ∈ segments → IsBody b)
    (h : renderSegments ⟨provider, .lenient⟩ params segments = .ok r) :
    r.diagnostics = segments.flatMap (traced provider params) ∧
      ∃ r',
        renderSegments ⟨provider, .lenient⟩ params (segments.map (Segment.mapBody (soundBody provider params))) =
            .ok r' ∧
          r'.text = r.text ∧ onlyWarnings (r'.diagnostics.map Diagnostic.issue) = true := by
  induction segments generalizing r with
  | nil => cases h; exact ⟨rfl, ⟨[], []⟩, rfl, rfl, rfl⟩
  | cons s segments ih =>
    rw [renderSegments_cons] at h
    obtain ⟨part, hpart, h⟩ := Outcome.bind_eq_ok.mp h
    obtain ⟨rest, hrest, h⟩ := Outcome.bind_eq_ok.mp h
    cases h
    obtain ⟨htraced, part', hpart', htext, hwarnings⟩ :=
      exists_renderSegment_sound (fun b hb => hbodies b (hb ▸ List.mem_cons_self)) hpart
    obtain ⟨htraced', rest', hrest', htext', hwarnings'⟩ :=
      ih (fun b hb => hbodies b (List.mem_cons_of_mem s hb)) hrest
    refine ⟨?_, part'.append rest', ?_, ?_, ?_⟩
    · rw [List.flatMap_cons, ← htraced, ← htraced']; rfl
    · rw [List.map_cons, renderSegments_cons, hpart', hrest']; rfl
    · simp only [Rendered.append, htext, htext']
    · simp only [Rendered.append, List.map_append, onlyWarnings_append, hwarnings, hwarnings', Bool.and_self]

/-- The pattern has the segments that it had, but for the stages that failed. -/
theorem scan_soundPattern (provider : Provider) (params : Params) (pattern : Text) :
    scan (soundPattern provider params pattern) =
      (scan pattern).map (Segment.mapBody (soundBody provider params)) :=
  scan_mapBody (fun _ => isBody_soundBody) pattern

/-- **Failed stages do nothing.** The diagnostics of a lenient rendering are those
of its stages, in order. Without the stages at which one of them is an error, the
pattern renders to the same text, and no diagnostic is an error. -/
theorem render_soundPattern (provider : Provider) (params : Params) (pattern : Text) :
    (provider.Answers → ∃ r, render ⟨provider, .lenient⟩ params pattern = .ok r) ∧
      ∀ r, render ⟨provider, .lenient⟩ params pattern = .ok r →
        r.diagnostics = (scan pattern).flatMap (traced provider params) ∧
          ∃ r', render ⟨provider, .lenient⟩ params (soundPattern provider params pattern) = .ok r' ∧
            r'.text = r.text ∧ ∀ d ∈ r'.diagnostics, d.issue.severity ≠ .error := by
  refine ⟨fun hanswers => exists_lenient_render hanswers params pattern, fun r hr => ?_⟩
  have hbodies := (segmented_scan pattern).isSegmentation.bodies
  obtain ⟨htraced, r', hr', htext, hwarnings⟩ := exists_renderSegments_sound hbodies hr
  refine ⟨htraced, r', by rw [render, scan_soundPattern, hr'], htext, fun d hd herror => ?_⟩
  have hwarning := List.all_eq_true.mp hwarnings d.issue (List.mem_map_of_mem hd)
  rw [herror] at hwarning
  cases hwarning

/-- Two stages that fail only after another one, a blank one, and a key that is missing. -/
def faulty : Text := "x ${a | once | once | nope y | | once} ${b | once}".toList

example : soundPattern marking onlyA faulty = "x ${ a | once } ${b | once}".toList := by cbv

theorem render_soundPattern_faulty :
    marking.Answers ∧
      ∃ r, render ⟨marking, .lenient⟩ onlyA faulty = .ok r ∧
        r.diagnostics = (scan faulty).flatMap (traced marking onlyA) ∧
        ∃ r', render ⟨marking, .lenient⟩ onlyA (soundPattern marking onlyA faulty) = .ok r' ∧
          r'.text = r.text ∧ ∀ d ∈ r'.diagnostics, d.issue.severity ≠ .error := by
  obtain ⟨hanswered, hsound⟩ := render_soundPattern marking onlyA faulty
  obtain ⟨r, hr⟩ := hanswered marking_answers
  exact ⟨marking_answers, r, hr, hsound r hr⟩

end Engine
end Placeholders

/-
What a lenient rendering tolerates is known before it runs. From the inspection
of a pattern, the keys of the parameters and the signatures of a registry,
`forecast` lists the diagnostics, all but those of functions that fail when they
are called: such a failure may come once at a stage whose function is there,
after the warnings of the stage (`StageIssues`). The values of the parameters
have no part in it (`lenient_diagnostics`).

An inspection tells a token by its kind and the engine by its type. The two go
different ways only at integers beyond 64 bits, so a forecast reads their value.
-/
import Placeholders.Inspect
import Placeholders.Proofs.Dispatch
import Placeholders.Proofs.Rendering
import Placeholders.Proofs.Tolerance

namespace Placeholders
open Pattern (Call Expression Segment TokenKind enclose scan)

/-- Is an inspected argument opaque or an integer beyond 64 bits? -/
def isUntyped : Text × TokenKind → Bool
  | (_, .opaqueText) => true
  | (token, .integer) => decide (Number.maxInt64 < (Text.digitsValue token : Int))
  | _ => false

/-- The type of an inspected argument. -/
def ArgType.ofInspected (arg : Text × TokenKind) : ArgType :=
  if isUntyped arg then .any else .ofKind arg.2

namespace StageView

/-- The argument types of a stage. -/
def types (s : StageView) : List ArgType := s.args.map ArgType.ofInspected

/-- The issues of a stage, before its function is called. -/
def forecast (r : Registry) (key : Text) (s : StageView) : List Issue :=
  match s.function with
  | none => [⟨.error, .emptyStage key⟩]
  | some function =>
    (s.args.filter isUntyped).map (fun arg => ⟨.warning, .unsupportedArgumentType arg.1⟩) ++
      if ⟨function, s.types⟩ ∈ r.signatures then [] else [⟨.error, .functionNotFound function s.types r.name⟩]

end StageView

/-- The diagnostics of a segment, before any function is called. -/
def SegmentView.forecast (r : Registry) (params : Params) : SegmentView → List Diagnostic
  | .literal _ => []
  | .placeholder raw key stages =>
    (if params.contains key then stages.flatMap (StageView.forecast r key)
      else [⟨.warning, .missingKey key⟩]).map (Diagnostic.mk raw)

namespace SubstitutionError

/-- Did a function that was called fail? -/
def isInvocationFailure : SubstitutionError → Bool
  | invocationFailed .. => true
  | _ => false

/-- Is it an error that no rendering meets? -/
def isForeign : SubstitutionError → Bool
  | argumentCount .. | unknownProvider .. => true
  | _ => false

/-- An error that a forecast can hold. -/
def IsForecast (e : SubstitutionError) : Prop := e.isInvocationFailure = false ∧ e.isForeign = false

end SubstitutionError

/-- Was the issue met before any function was called? -/
def Issue.isForeseen (i : Issue) : Bool := !i.error.isInvocationFailure

/-- The issues of a stage in a rendering: those forecast, and at a stage whose
function is there one failed invocation at most, after them. -/
inductive StageIssues (r : Registry) (key : Text) (s : StageView) : List Issue → Prop
  | forecast : StageIssues r key s (s.forecast r key)
  | failed {function reason} : s.function = some function → ⟨function, s.types⟩ ∈ r.signatures →
      StageIssues r key s (s.forecast r key ++ [⟨.error, .invocationFailed function r.name reason⟩])

/-- The diagnostics of a segment in a rendering, stage by stage. -/
inductive SegmentDiagnostics (r : Registry) (params : Params) : SegmentView → List Diagnostic → Prop
  | literal {t} : SegmentDiagnostics r params (.literal t) []
  | missing {raw key stages} : params.contains key = false →
      SegmentDiagnostics r params (.placeholder raw key stages) [⟨raw, .warning, .missingKey key⟩]
  | stages {raw key stages parts} : params.contains key = true → List.Forall₂ (StageIssues r key) stages parts →
      SegmentDiagnostics r params (.placeholder raw key stages) (parts.flatten.map (Diagnostic.mk raw))

/-! ## Inspected arguments -/

theorem isUntyped_of (token : Text) : isUntyped (token, TokenKind.of token) = isUnsupported token := by
  rw [Bool.eq_iff_iff, isUnsupported_iff]
  cases hk : TokenKind.of token <;> simp [isUntyped]

theorem ofInspected_of (token : Text) : ArgType.ofInspected (token, TokenKind.of token) = ArgType.ofToken token := by
  unfold ArgType.ofInspected ArgType.ofToken
  rw [isUntyped_of]
  cases h : ArgType.ofToken? token with
  | none => simp [isUnsupported, h]
  | some type => simp [isUnsupported, h, ofKind_of_ofToken? h]

theorem stageView_of_none {stage : Text} (h : Call.parse? stage = none) :
    StageView.of stage = ⟨stage, none, []⟩ := by
  unfold StageView.of; rw [h]

theorem stageView_of_some {stage : Text} {call : Call} (h : Call.parse? stage = some call) :
    (StageView.of stage).function = some call.function ∧ (StageView.of stage).types = call.types ∧
      ((StageView.of stage).args.filter isUntyped).map Prod.fst = call.args.filter isUnsupported := by
  unfold StageView.of
  rw [h]
  refine ⟨rfl, ?_, ?_⟩
  · simp [StageView.types, Call.types, Function.comp_def, ofInspected_of]
  · simp [List.filter_map, Function.comp_def, isUntyped_of]

theorem forecast_of_none (r : Registry) (key : Text) {stage : Text} (h : Call.parse? stage = none) :
    (StageView.of stage).forecast r key = [⟨.error, .emptyStage key⟩] := by
  rw [stageView_of_none h]; rfl

theorem forecast_of_some (r : Registry) (key : Text) {stage : Text} {call : Call}
    (h : Call.parse? stage = some call) :
    (StageView.of stage).forecast r key = Engine.argumentIssues call.args ++
      if call.signature ∈ r.signatures then [] else [⟨.error, .functionNotFound call.function call.types r.name⟩] := by
  obtain ⟨hfunction, htypes, hargs⟩ := stageView_of_some h
  unfold StageView.forecast Engine.argumentIssues Call.signature
  rw [hfunction, htypes, ← hargs, List.map_map]
  rfl

theorem mem_signatures {r : Registry} {s : Signature} :
    s ∈ r.signatures ↔ (r.toProvider.resolve s).isSome = true :=
  Std.TreeMap.mem_keys.trans Std.TreeMap.mem_iff_isSome_getElem?

theorem mem_signatures_of_resolve {r : Registry} {s : Signature} {f : PipeFunction}
    (h : r.toProvider.resolve s = some f) : s ∈ r.signatures :=
  mem_signatures.mpr (Option.isSome_of_eq_some h)

/-! ## The issues of a run -/

namespace Engine

/-- One stage notes what is forecast of it, and maybe that its function failed. -/
theorem LenientStage.stageIssues {r : Registry} {key value next stage : Text} {issues : List Issue}
    (h : LenientStage r.toProvider key value (Call.parse? stage) next issues) :
    StageIssues r key (StageView.of stage) issues := by
  generalize hcall : Call.parse? stage = c at h
  cases h with
  | blank =>
    rw [← forecast_of_none r key hcall]
    exact .forecast
  | @notFound call hresolve =>
    have hmem : call.signature ∉ r.signatures := by simp [mem_signatures, hresolve]
    have hforecast := forecast_of_some r key hcall
    rw [if_neg hmem] at hforecast
    exact hforecast ▸ .forecast
  | @failed call f args e hresolve hargs hf =>
    have hmem : call.signature ∈ r.signatures := mem_signatures_of_resolve hresolve
    have hforecast := forecast_of_some r key hcall
    rw [if_pos hmem, List.append_nil] at hforecast
    obtain ⟨hfunction, htypes, -⟩ := stageView_of_some hcall
    rw [← hforecast]
    exact .failed hfunction (htypes ▸ hmem)
  | @applied call f args next hresolve hargs hf =>
    have hmem : call.signature ∈ r.signatures := mem_signatures_of_resolve hresolve
    have hforecast := forecast_of_some r key hcall
    rw [if_pos hmem, List.append_nil] at hforecast
    rw [← hforecast]
    exact .forecast

theorem stagesIssues_of_run {r : Registry} {key : Text} :
    ∀ {stages : List Text} {value t : Text} {issues : List Issue},
      ((stages.map Call.parse?).foldlM (runStage ⟨r.toProvider, .lenient⟩ key) value).run = .ok (t, issues) →
      ∃ parts, List.Forall₂ (StageIssues r key) (stages.map StageView.of) parts ∧ issues = parts.flatten
  | [], _, _, _, h => by
    cases h
    exact ⟨[], .nil, rfl⟩
  | stage :: stages, value, t, issues, h => by
    rw [List.map_cons, List.foldlM_cons, Noting.run_bind] at h
    split at h
    · cases h
    · next next noted hstage =>
      split at h
      · cases h
      · next t' more hrest =>
        cases h
        obtain ⟨parts, hparts, rfl⟩ := stagesIssues_of_run hrest
        exact ⟨noted :: parts, .cons (lenientStage_of_run hstage).stageIssues hparts, rfl⟩

theorem segmentDiagnostics_of_ok {r : Registry} {params : Params} {s : Segment} {rendered : Rendered}
    (h : renderSegment ⟨r.toProvider, .lenient⟩ params s = .ok rendered) :
    SegmentDiagnostics r params (SegmentView.of s) rendered.diagnostics := by
  cases s with
  | literal t => cases h; exact .literal
  | placeholder body =>
    rw [renderSegment_placeholder] at h
    obtain ⟨⟨t, issues⟩, hrun, rfl⟩ := Outcome.map_eq_ok.mp h
    cases hget : params.get? (Expression.parse body).key with
    | none =>
      rw [evaluate_of_get?_none _ hget] at hrun
      cases hrun
      exact .missing (by rw [Params.contains_eq, hget]; rfl)
    | some value =>
      rw [evaluate_of_get?_some _ hget] at hrun
      obtain ⟨parts, hparts, rfl⟩ := stagesIssues_of_run hrun
      exact .stages (by rw [Params.contains_eq, hget]; rfl) hparts

theorem diagnostics_of_ok {r : Registry} {params : Params} {segments : List Segment} {rendered : Rendered}
    (h : renderSegments ⟨r.toProvider, .lenient⟩ params segments = .ok rendered) :
    ∃ parts, List.Forall₂ (SegmentDiagnostics r params) (segments.map SegmentView.of) parts ∧
      rendered.diagnostics = parts.flatten := by
  obtain ⟨parts, hparts, rfl⟩ := renderSegments_eq_ok.mp h
  refine ⟨parts.map Rendered.diagnostics, ?_, List.flatMap_def⟩
  rw [List.forall₂_map_left_iff, List.forall₂_map_right_iff]
  exact hparts.imp fun _ _ hpart => segmentDiagnostics_of_ok hpart

end Engine

/-! ## What is left without failed invocations -/

theorem not_foreign_of_isInvocationFailure {e : SubstitutionError} (h : e.isInvocationFailure = true) :
    e.isForeign = false := by
  cases e with
  | invocationFailed => rfl
  | _ => cases h

theorem isForecast_of_mem {r : Registry} {key : Text} {s : StageView} {i : Issue} (h : i ∈ s.forecast r key) :
    i.error.IsForecast := by
  unfold StageView.forecast at h
  split at h
  · rw [List.mem_singleton] at h
    subst h
    exact ⟨rfl, rfl⟩
  · rcases List.mem_append.mp h with h | h
    · obtain ⟨arg, -, rfl⟩ := List.mem_map.mp h
      exact ⟨rfl, rfl⟩
    · split at h
      · cases h
      · rw [List.mem_singleton] at h
        subst h
        exact ⟨rfl, rfl⟩

theorem filter_forecast {r : Registry} {key : Text} {s : StageView} :
    (s.forecast r key).filter Issue.isForeseen = s.forecast r key :=
  List.filter_eq_self.mpr fun i hi => by simp [Issue.isForeseen, (isForecast_of_mem hi).1]

theorem StageIssues.filter {r : Registry} {key : Text} {s : StageView} {issues : List Issue}
    (h : StageIssues r key s issues) : issues.filter Issue.isForeseen = s.forecast r key := by
  cases h with
  | forecast => exact filter_forecast
  | failed _ _ => rw [List.filter_append, filter_forecast]; exact List.append_nil _

/-- Parts that are each filtered to what is told of them are so together. -/
theorem filter_flatten_of_forall₂ {α β : Type} {R : α → List β → Prop} {p : β → Bool} {f : α → List β}
    {as : List α} {parts : List (List β)} (h : List.Forall₂ R as parts)
    (hR : ∀ a part, R a part → part.filter p = f a) : parts.flatten.filter p = as.flatMap f := by
  induction h with
  | nil => rfl
  | cons ha _ ih => rw [List.flatten_cons, List.filter_append, hR _ _ ha, ih, List.flatMap_cons]

theorem SegmentDiagnostics.filter {r : Registry} {params : Params} {s : SegmentView} {ds : List Diagnostic}
    (h : SegmentDiagnostics r params s ds) : ds.filter (·.issue.isForeseen) = s.forecast r params := by
  cases h with
  | literal => rfl
  | missing hkey => simp [SegmentView.forecast, hkey, Issue.isForeseen, SubstitutionError.isInvocationFailure]
  | @stages raw key stages parts hkey hparts =>
    have hmap : (parts.flatten.map (Diagnostic.mk raw)).filter (·.issue.isForeseen) =
        (parts.flatten.filter Issue.isForeseen).map (Diagnostic.mk raw) := by
      rw [List.filter_map]; rfl
    rw [hmap, filter_flatten_of_forall₂ hparts fun _ _ hs => hs.filter, SegmentView.forecast, if_pos hkey]

theorem isForecast_of_mem_segment {r : Registry} {params : Params} {s : SegmentView} {d : Diagnostic}
    (h : d ∈ s.forecast r params) : d.issue.error.IsForecast := by
  cases s with
  | literal t => cases h
  | placeholder raw key stages =>
    obtain ⟨i, hi, rfl⟩ := List.mem_map.mp h
    split at hi
    · obtain ⟨stage, -, hi⟩ := List.mem_flatMap.mp hi
      exact isForecast_of_mem hi
    · rw [List.mem_singleton] at hi
      subst hi
      exact ⟨rfl, rfl⟩

/-- An error of a rendering is forecast or a failed invocation. -/
theorem error_of_mem {r : Registry} {params : Params} {segments : List SegmentView} {ds : List Diagnostic}
    (h : ds.filter (·.issue.isForeseen) = segments.flatMap (SegmentView.forecast r params)) {d : Diagnostic}
    (hd : d ∈ ds) : d.issue.error.isInvocationFailure = true ∨ d.issue.error.IsForecast := by
  cases hfail : d.issue.error.isInvocationFailure with
  | true => exact .inl rfl
  | false =>
    have hmem : d ∈ ds.filter (·.issue.isForeseen) :=
      List.mem_filter.mpr ⟨hd, by simp [Issue.isForeseen, hfail]⟩
    rw [h] at hmem
    obtain ⟨s, -, hs⟩ := List.mem_flatMap.mp hmem
    exact .inr (isForecast_of_mem_segment hs)

/-- **The diagnostics of a lenient rendering are forecast** from the inspection of
the pattern, the keys of the parameters and the signatures of the registry, all
but failed invocations, and these stand where `StageIssues` lets them. There is a
rendering whenever no function ends the process. -/
theorem lenient_diagnostics (r : Registry) (params : Params) (pattern : Text) :
    (r.toProvider.Answers →
      ∃ rendered, Engine.render ⟨r.toProvider, .lenient⟩ params pattern = .ok rendered) ∧
    ∀ rendered, Engine.render ⟨r.toProvider, .lenient⟩ params pattern = .ok rendered →
      (rendered.diagnostics.filter fun d => !d.issue.error.isInvocationFailure) =
          (inspect pattern).flatMap (SegmentView.forecast r params) ∧
        (∃ parts, List.Forall₂ (SegmentDiagnostics r params) (inspect pattern) parts ∧
          rendered.diagnostics = parts.flatten) ∧
        ∀ d ∈ rendered.diagnostics, d.issue.error.isForeign = false := by
  refine ⟨fun h => ?_, fun rendered hr => ?_⟩
  · obtain ⟨rendered, hrendered, -⟩ := Engine.renderSegments_corresponds h params (scan pattern)
    exact ⟨rendered, hrendered⟩
  · obtain ⟨parts, hparts, heq⟩ := Engine.diagnostics_of_ok hr
    have hfilter := filter_flatten_of_forall₂ hparts fun _ _ hs => hs.filter
    rw [← heq] at hfilter
    refine ⟨hfilter, ⟨parts, hparts, heq⟩, fun d hd => ?_⟩
    rcases error_of_mem hfilter hd with hfail | hforecast
    · exact not_foreign_of_isInvocationFailure hfail
    · exact hforecast.2

/-- A registry with one function, which refuses. -/
def refusing : Registry :=
  (Registry.empty "refusing".toList).register "f".toList [.any] fun _ _ => refuse (.failed "no".toList)

theorem refusing_answers : refusing.toProvider.Answers := by
  intro s f hf value args
  have hf' : refusing.resolve s = some f := hf
  unfold refusing at hf'
  rw [Registry.resolve_register, Registry.resolve_empty] at hf'
  split at hf'
  · cases hf'
    exact refuse_ne_abort _
  · cases hf'

example : (inspect Engine.crooked).flatMap (SegmentView.forecast refusing Engine.onlyA) =
    [⟨enclose "a | f y | | g".toList, .warning, .unsupportedArgumentType ['y']⟩,
      ⟨enclose "a | f y | | g".toList, .error, .emptyStage ['a']⟩,
      ⟨enclose "a | f y | | g".toList, .error, .functionNotFound ['g'] [] "refusing".toList⟩,
      ⟨enclose ['b'], .warning, .missingKey ['b']⟩] := by cbv

theorem lenient_diagnostics_crooked :
    refusing.toProvider.Answers ∧
      ∃ rendered, Engine.render ⟨refusing.toProvider, .lenient⟩ Engine.onlyA Engine.crooked = .ok rendered ∧
        (rendered.diagnostics.filter fun d => !d.issue.error.isInvocationFailure) =
            (inspect Engine.crooked).flatMap (SegmentView.forecast refusing Engine.onlyA) ∧
          (∃ parts, List.Forall₂ (SegmentDiagnostics refusing Engine.onlyA) (inspect Engine.crooked) parts ∧
            rendered.diagnostics = parts.flatten) ∧
          ∀ d ∈ rendered.diagnostics, d.issue.error.isForeign = false := by
  obtain ⟨hexists, hall⟩ := lenient_diagnostics refusing Engine.onlyA Engine.crooked
  obtain ⟨rendered, hrendered⟩ := hexists refusing_answers
  exact ⟨refusing_answers, rendered, hrendered, hall rendered hrendered⟩

end Placeholders

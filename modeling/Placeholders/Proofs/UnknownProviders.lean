/-
Engines whose provider is not a built-in one. A strict engine is not made. A lenient
one resolves nothing, so no stage changes the running value and each is reported with
one error, after the warnings about its arguments (`run_stages_of_empty`). What comes
out is the pattern with the texts of its keys filled in (`engine_of_unknown`).
-/
import Placeholders.Proofs.Forecast
import Placeholders.Proofs.Visibility

namespace Placeholders
open Pattern (Call Expression Segment enclose scan)

/-- The segment with the text of its key filled in, if there is one. -/
def Pattern.Segment.filled (params : Params) : Segment → Text
  | .literal t => t
  | .placeholder body => (params.text? (Expression.parse body).key).getD (enclose body)

/-- The error of a stage at which nothing is resolved. -/
def StageView.failure (provider key : Text) (s : StageView) : SubstitutionError :=
  if s.raw.all Text.isBlank then .emptyStage key else .functionNotFound (s.function.getD []) s.types provider

/-- The errors of a segment whose stages all fail, one for each stage. -/
def SegmentView.failures (provider : Text) (params : Params) : SegmentView → List Diagnostic
  | .literal _ => []
  | .placeholder raw key stages =>
    if params.contains key then stages.map fun s => ⟨raw, .error, s.failure provider key⟩ else []

/-- Is the issue an error? -/
def Issue.isError (i : Issue) : Bool := i.severity == .error

/-! ## Blank stages -/

theorem failure_of_none {stage : Text} (provider key : Text) (h : Call.parse? stage = none) :
    (StageView.of stage).failure provider key = .emptyStage key := by
  rw [stageView_of_none h]
  exact if_pos (Call.parse?_eq_none_iff.mp h)

theorem failure_of_some {stage : Text} {call : Call} (provider key : Text) (h : Call.parse? stage = some call) :
    (StageView.of stage).failure provider key = .functionNotFound call.function call.types provider := by
  obtain ⟨hfunction, htypes, -⟩ := stageView_of_some h
  have hraw : (StageView.of stage).raw = stage := by
    unfold StageView.of
    rw [h]
  have hblank : ¬ stage.all Text.isBlank = true := fun hall => by
    rw [Call.parse?_eq_none_iff.mpr hall] at h
    cases h
  rw [StageView.failure, hraw, if_neg hblank, hfunction, htypes]
  rfl

/-! ## Forecasts without signatures -/

theorem not_mem_signatures_empty (name : Text) (s : Signature) : s ∉ (Registry.empty name).signatures := by
  have hnone : (Registry.empty name).toProvider.resolve s = none := Registry.resolve_empty name s
  rw [mem_signatures, hnone]
  exact Bool.false_ne_true

theorem filter_argumentIssues (args : List Text) : (Engine.argumentIssues args).filter Issue.isError = [] := by
  refine List.filter_eq_nil_iff.mpr fun i hi => ?_
  obtain ⟨arg, -, rfl⟩ := List.mem_map.mp hi
  exact Bool.false_ne_true

/-- The warnings of a stage apart, its one error is left. -/
theorem filter_forecast_empty (name key stage : Text) :
    ((StageView.of stage).forecast (.empty name) key).filter Issue.isError =
      [⟨.error, (StageView.of stage).failure name key⟩] := by
  cases hcall : Call.parse? stage with
  | none =>
    rw [forecast_of_none _ key hcall, failure_of_none name key hcall]
    rfl
  | some call =>
    rw [forecast_of_some _ key hcall, failure_of_some name key hcall, if_neg (not_mem_signatures_empty name _),
      List.filter_append, filter_argumentIssues]
    rfl

theorem filter_stages_forecast_empty (name key : Text) (stages : List Text) :
    ((stages.map StageView.of).flatMap (StageView.forecast (.empty name) key)).filter Issue.isError =
      (stages.map StageView.of).map fun s => ⟨.error, s.failure name key⟩ := by
  rw [List.filter_flatMap, List.flatMap_map, List.map_map, List.map_eq_flatMap]
  exact List.flatMap_congr fun s _ => filter_forecast_empty name key s

theorem filter_segment_forecast_empty (name : Text) (params : Params) (s : Segment) :
    ((SegmentView.of s).forecast (.empty name) params).filter (·.issue.isError) =
      (SegmentView.of s).failures name params := by
  cases s with
  | literal t => rfl
  | placeholder body =>
    simp only [SegmentView.of, SegmentView.forecast, SegmentView.failures]
    cases params.contains (Expression.parse body).key with
    | false => rfl
    | true =>
      rw [if_pos rfl, if_pos rfl, List.filter_map]
      simp only [Function.comp_def]
      rw [filter_stages_forecast_empty, List.map_map]
      rfl

namespace Engine

/-! ## Stages that resolve nothing -/

theorem run_runStage_of_empty (name key value stage : Text) :
    (runStage ⟨(Registry.empty name).toProvider, .lenient⟩ key value (Call.parse? stage)).run =
      .ok (value, (StageView.of stage).forecast (.empty name) key) := by
  cases hcall : Call.parse? stage with
  | none =>
    rw [forecast_of_none _ key hcall]
    rfl
  | some call =>
    obtain ⟨args, -, hinvoke⟩ := invoke_eq (Registry.empty name).toProvider value call
    have hnone : (Registry.empty name).toProvider.resolve call.signature = none := Registry.resolve_empty name _
    rw [run_runStage_lenient, hinvoke, forecast_of_some _ key hcall, if_neg (not_mem_signatures_empty name _),
      hnone]
    rfl

/-- The running value goes through all stages as it is. -/
theorem run_stages_of_empty (name key value : Text) (stages : List Text) :
    ((stages.map Call.parse?).foldlM (runStage ⟨(Registry.empty name).toProvider, .lenient⟩ key) value).run =
      .ok (value, (stages.map StageView.of).flatMap (StageView.forecast (.empty name) key)) := by
  induction stages with
  | nil => rfl
  | cons stage stages ih =>
    rw [List.map_cons, List.foldlM_cons]
    exact Noting.run_bind_eq_ok.mpr ⟨value, _, _, run_runStage_of_empty name key value stage, ih, rfl⟩

theorem renderSegment_of_empty (name : Text) (params : Params) (s : Segment) :
    renderSegment ⟨(Registry.empty name).toProvider, .lenient⟩ params s =
      .ok ⟨s.filled params, (SegmentView.of s).forecast (.empty name) params⟩ := by
  cases s with
  | literal t => rfl
  | placeholder body =>
    rw [renderSegment_placeholder]
    simp only [SegmentView.of, SegmentView.forecast, Segment.filled, Params.contains_eq, Params.text?]
    cases hget : params.get? (Expression.parse body).key with
    | none =>
      rw [evaluate_of_get?_none _ hget]
      rfl
    | some value =>
      rw [evaluate_of_get?_some _ hget, Expression.calls, run_stages_of_empty]
      rfl

theorem render_of_empty (name : Text) (params : Params) (pattern : Text) :
    render ⟨(Registry.empty name).toProvider, .lenient⟩ params pattern =
      .ok ⟨(scan pattern).flatMap (Segment.filled params),
        (inspect pattern).flatMap (SegmentView.forecast (.empty name) params)⟩ := by
  rw [render, renderSegments_of_parts fun s _ => renderSegment_of_empty name params s, inspect, List.flatMap_map]

end Engine

theorem builtin?_eq_none {name : Text} (h : name ∉ builtins.map Registry.name) : builtin? name = none := by
  refine List.find?_eq_none.mpr fun r hr heq => h ?_
  exact List.mem_map.mpr ⟨r, hr, beq_iff_eq.mp heq⟩

/-- **A provider that is not built in fails every stage.** A strict engine is refused
by name. A lenient one has the name and renders every pattern: the texts of its keys
are filled in, what has no key is left, and each stage of a key that is there is
reported with one error. The diagnostics in full are those forecast for a registry of
that name without signatures. -/
theorem engine_of_unknown {options : EngineOptions} (h : options.provider ∉ builtins.map Registry.name) :
    (options.strict = true → options.engine = .error (.unknownProvider options.provider)) ∧
      (options.strict = false → ∃ engine, options.engine = .ok engine ∧ engine.provider.name = options.provider ∧
        engine.mode = .lenient ∧ ∀ (params : Params) (pattern : Text), ∃ r, engine.render params pattern = .ok r ∧
          r.text = (scan pattern).flatMap (Segment.filled params) ∧
          r.diagnostics.filter (·.issue.isError) =
            (inspect pattern).flatMap (SegmentView.failures options.provider params) ∧
          r.diagnostics = (inspect pattern).flatMap (SegmentView.forecast (.empty options.provider) params)) := by
  unfold EngineOptions.engine
  rw [builtin?_eq_none h]
  refine ⟨fun hstrict => if_pos hstrict, fun hlenient => ⟨_, if_neg (by simp [hlenient]), rfl, rfl, ?_⟩⟩
  intro params pattern
  refine ⟨_, Engine.render_of_empty options.provider params pattern, rfl, ?_, rfl⟩
  rw [List.filter_flatMap, inspect, List.flatMap_map, List.flatMap_map]
  exact List.flatMap_congr fun s _ => filter_segment_forecast_empty options.provider params s

/-- Stages with a warning, without a name and without arguments, and a key that has no value. -/
def unresolved : Text := "x ${a | f y | | upper} ${b | upper}".toList

example : (inspect unresolved).flatMap (SegmentView.failures "Minimal".toList Engine.onlyA) =
    [⟨enclose "a | f y | | upper".toList, .error, .functionNotFound ['f'] [.any] "Minimal".toList⟩,
      ⟨enclose "a | f y | | upper".toList, .error, .emptyStage ['a']⟩,
      ⟨enclose "a | f y | | upper".toList, .error, .functionNotFound "upper".toList [] "Minimal".toList⟩] := by cbv

theorem engine_of_unknown_misspelt :
    "Minimal".toList ∉ builtins.map Registry.name ∧
      (EngineOptions.mk "Minimal".toList true).engine = .error (.unknownProvider "Minimal".toList) ∧
      ∃ engine r, (EngineOptions.mk "Minimal".toList false).engine = .ok engine ∧
        engine.provider.name = "Minimal".toList ∧ engine.mode = .lenient ∧
        engine.render Engine.onlyA unresolved = .ok r ∧ r.text = "x v ${b | upper}".toList ∧
        r.diagnostics.filter (·.issue.isError) =
          (inspect unresolved).flatMap (SegmentView.failures "Minimal".toList Engine.onlyA) ∧
        r.diagnostics = (inspect unresolved).flatMap (SegmentView.forecast (.empty "Minimal".toList) Engine.onlyA) := by
  have hname : "Minimal".toList ∉ builtins.map Registry.name := by decide
  have htext : (scan unresolved).flatMap (Segment.filled Engine.onlyA) = "x v ${b | upper}".toList := by cbv
  obtain ⟨hstrict, -⟩ := @engine_of_unknown ⟨"Minimal".toList, true⟩ hname
  obtain ⟨-, hlenient⟩ := @engine_of_unknown ⟨"Minimal".toList, false⟩ hname
  obtain ⟨engine, hengine, hprovider, hmode, hrender⟩ := hlenient rfl
  obtain ⟨r, hr, hfilled, herrors, hall⟩ := hrender Engine.onlyA unresolved
  exact ⟨hname, hstrict rfl, engine, r, hengine, hprovider, hmode, hr, hfilled.trans htext, herrors, hall⟩

end Placeholders

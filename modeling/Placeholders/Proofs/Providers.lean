/-
What a rendering shows of its provider. Only the name, and what each function
gives on arguments that fit its signature: providers that agree on these render
every pattern alike (`render_congr`). And nothing is reported but what the
pattern and such calls account for (`Reports.reportable`), whether the rendering
ends with it or tolerates it.

`Noting.Only` carries a property of all errors of a computation through it, the
one that it ends with and those that it notes.
-/
import Placeholders.Proofs.Calls

namespace Placeholders
open Pattern (Call Expression Segment enclose scan)

/-! ## Providers that agree -/

/-- The providers have one name and one set of signatures, and the functions under
each give the same on all arguments that fit it. -/
structure Provider.Agrees (p q : Provider) : Prop where
  name : p.name = q.name
  functions : ∀ s, Option.Rel (fun f g => ∀ value args, Fits s.types args → f value args = g value args)
    (p.resolve s) (q.resolve s)

theorem Noting.bind_congr {α β : Type} {x : Noting α} {f g : α → Noting β}
    (h : ∀ a issues, x.run = .ok (a, issues) → f a = g a) : (x >>= f) = (x >>= g) := by
  apply run_injective
  rw [run_bind, run_bind]
  rcases hx : x.run with e | ⟨a, issues⟩
  · rfl
  · dsimp only
    rw [h a issues hx]

namespace Engine

theorem invoke_congr {p q : Provider} (h : p.Agrees q) (value : Text) (call : Call) :
    invoke p value call call.types = invoke q value call call.types := by
  obtain ⟨args, hargs, hp⟩ := invoke_eq p value call
  obtain ⟨args', hargs', hq⟩ := invoke_eq q value call
  rw [hargs] at hargs'
  cases hargs'
  rw [hp, hq, h.name]
  have hrel := h.functions call.signature
  cases hresolve : p.resolve call.signature with
  | none =>
    rw [hresolve] at hrel
    cases hresolve' : q.resolve call.signature with
    | none => rfl
    | some g => rw [hresolve'] at hrel; cases hrel
  | some f =>
    rw [hresolve] at hrel
    cases hresolve' : q.resolve call.signature with
    | none => rw [hresolve'] at hrel; cases hrel
    | some g =>
      rw [hresolve'] at hrel
      cases hrel with
      | some hfg =>
        have hsame := hfg value args (fits_of_ofTokens hargs)
        simp only [hsame]

theorem runStage_congr {p q : Provider} (h : p.Agrees q) (mode : Mode) :
    runStage ⟨p, mode⟩ = runStage ⟨q, mode⟩ := by
  funext key value stage
  cases stage with
  | none => rfl
  | some call =>
    refine Noting.bind_congr fun types issues hrun => ?_
    cases types_of_run hrun
    dsimp only
    rw [invoke_congr h]

/-- **Providers that agree render every pattern alike.** -/
theorem render_congr {p q : Provider} (h : p.Agrees q) (mode : Mode) (params : Params) (pattern : Text) :
    render ⟨p, mode⟩ params pattern = render ⟨q, mode⟩ params pattern := by
  have hevaluate : evaluate ⟨p, mode⟩ params = evaluate ⟨q, mode⟩ params := by
    funext body
    unfold evaluate
    rw [runStage_congr h]
  have hsegment : renderSegment ⟨p, mode⟩ params = renderSegment ⟨q, mode⟩ params := by
    funext s
    cases s with
    | literal t => rfl
    | placeholder body => rw [renderSegment_placeholder, renderSegment_placeholder, hevaluate]
  unfold render renderSegments
  rw [hsegment]

end Engine

/-! ## All errors of a computation -/

/-- Whatever the computation ends with or notes has the property. -/
def Noting.Only {α : Type} (P : SubstitutionError → Prop) (x : Noting α) : Prop :=
  (∀ e, x.run = refuse e → P e) ∧ ∀ a issues, x.run = .ok (a, issues) → ∀ i ∈ issues, P i.error

namespace Noting.Only

variable {P : SubstitutionError → Prop}

theorem pure {α : Type} (a : α) : Only P (Pure.pure a) :=
  ⟨fun _ h => (nomatch h), fun b issues h i hi => by cases h; cases hi⟩

theorem bind {α β : Type} {x : Noting α} {f : α → Noting β} (hx : Only P x) (hf : ∀ a, Only P (f a)) :
    Only P (x >>= f) := by
  constructor
  · intro e h
    rcases run_bind_eq_error.mp h with hrun | ⟨a, noted, -, hrun⟩
    · exact hx.1 e hrun
    · exact (hf a).1 e hrun
  · intro b issues h i hi
    obtain ⟨a, noted, more, hrun, hrun', rfl⟩ := run_bind_eq_ok.mp h
    rcases List.mem_append.mp hi with hi | hi
    · exact hx.2 a noted hrun i hi
    · exact (hf a).2 b more hrun' i hi

theorem note {mode : Mode} {severity : Severity} {e : SubstitutionError} (h : P e) :
    Only P (note mode severity e) := by
  cases mode with
  | strict => exact ⟨fun e' he' => by cases he'; exact h, fun _ _ hok => (nomatch hok)⟩
  | lenient =>
    refine ⟨fun _ he => (nomatch he), fun a issues hok i hi => ?_⟩
    cases hok
    rw [List.mem_singleton.mp hi]
    exact h

theorem mapM {α β : Type} {f : α → Noting β} (h : ∀ a, Only P (f a)) : ∀ l : List α, Only P (l.mapM f)
  | [] => by simpa only [List.mapM_nil] using pure []
  | a :: l => by
    simp only [List.mapM_cons]
    exact (h a).bind fun b => (mapM h l).bind fun bs => pure (b :: bs)

theorem foldlM {α β : Type} {f : β → α → Noting β} (h : ∀ b a, Only P (f b a)) :
    ∀ (l : List α) (b : β), Only P (l.foldlM f b)
  | [], b => by simpa only [List.foldlM_nil] using pure b
  | a :: l, b => by
    simp only [List.foldlM_cons]
    exact (h b a).bind fun next => foldlM h l next

theorem ofStage {mode : Mode} {value : Text} {x : Outcome SubstitutionError Text} (h : ∀ e, x = refuse e → P e) :
    Only P (Noting.ofStage mode value x) := by
  match x, h with
  | .ok next, _ => exact pure next
  | .error (.error e), h => exact (note (h e rfl)).bind fun _ => pure value
  | .error .abort, _ => exact ⟨fun _ he => (nomatch he), fun _ _ hok => (nomatch hok)⟩

end Noting.Only

/-! ## What can be reported -/

/-- All that an engine over the provider has to report. -/
inductive Reportable (provider : Provider) : SubstitutionError → Prop
  | missingKey {key} : Reportable provider (.missingKey key)
  | emptyStage {key} : Reportable provider (.emptyStage key)
  | unsupported {token} : isUnsupported token = true → Reportable provider (.unsupportedArgumentType token)
  | notFound {function types} : provider.resolve ⟨function, types⟩ = none →
      Reportable provider (.functionNotFound function types provider.name)
  | failed {function types f value args reason} : provider.resolve ⟨function, types⟩ = some f →
      Fits types args → f value args = refuse reason →
      Reportable provider (.invocationFailed function provider.name reason)

namespace Engine

/-- The rendering ends with the error or tolerates it. -/
def Reports (engine : Engine) (params : Params) (pattern : Text) (e : SubstitutionError) : Prop :=
  engine.render params pattern = refuse e ∨
    ∃ rendered, engine.render params pattern = .ok rendered ∧ ∃ d ∈ rendered.diagnostics, d.issue.error = e

variable {engine : Engine} {params : Params}

theorem reportable_of_invoke {provider : Provider} {value : Text} {call : Call} {e : SubstitutionError}
    (h : invoke provider value call call.types = refuse e) : Reportable provider e := by
  obtain ⟨args, hargs, heq⟩ := invoke_eq provider value call
  rw [heq] at h
  cases hresolve : provider.resolve call.signature with
  | none =>
    rw [hresolve] at h
    cases h
    exact .notFound hresolve
  | some f =>
    rw [hresolve] at h
    dsimp only at h
    match hf : f value args with
    | .ok t => rw [hf] at h; cases h
    | .error (.error reason) =>
      rw [hf] at h
      cases h
      exact .failed hresolve (fits_of_ofTokens hargs) hf
    | .error .abort => rw [hf] at h; cases h

theorem typeOf_only (mode : Mode) (token : Text) : (typeOf mode token).Only (Reportable engine.provider) := by
  unfold typeOf
  split
  · exact .pure _
  · next h => exact (Noting.Only.note (.unsupported (by simp [isUnsupported, h]))).bind fun _ => .pure _

theorem runStage_only (key value : Text) (stage : Option Call) :
    (engine.runStage key value stage).Only (Reportable engine.provider) := by
  cases stage with
  | none =>
    unfold runStage
    refine .ofStage fun e he => ?_
    cases he
    exact .emptyStage
  | some call =>
    constructor
    · intro e h
      rcases Noting.run_bind_eq_error.mp h with hrun | ⟨types, noted, htypes, hrun⟩
      · exact (Noting.Only.mapM (typeOf_only engine.mode) call.args).1 e hrun
      · cases types_of_run htypes
        exact (Noting.Only.ofStage fun e he => reportable_of_invoke he).1 e hrun
    · intro next issues h i hi
      obtain ⟨types, noted, more, htypes, hrun, rfl⟩ := Noting.run_bind_eq_ok.mp h
      cases types_of_run htypes
      rcases List.mem_append.mp hi with hi | hi
      · exact (Noting.Only.mapM (typeOf_only engine.mode) call.args).2 _ noted htypes i hi
      · exact (Noting.Only.ofStage fun e he => reportable_of_invoke he).2 next more hrun i hi

theorem evaluate_only (params : Params) (body : Text) :
    (engine.evaluate params body).Only (Reportable engine.provider) := by
  cases hget : params.get? (Expression.parse body).key with
  | none =>
    rw [evaluate_of_get?_none _ hget]
    exact (Noting.Only.note .missingKey).bind fun _ => .pure _
  | some value =>
    rw [evaluate_of_get?_some _ hget]
    exact .foldlM (runStage_only _) _ _

theorem reportable_of_segment {s : Segment} :
    (∀ e, engine.renderSegment params s = refuse e → Reportable engine.provider e) ∧
      ∀ part, engine.renderSegment params s = .ok part →
        ∀ d ∈ part.diagnostics, Reportable engine.provider d.issue.error := by
  cases s with
  | literal t => exact ⟨fun _ h => (nomatch h), fun part h d hd => by cases h; cases hd⟩
  | placeholder body =>
    rw [renderSegment_placeholder]
    refine ⟨fun e h => (evaluate_only params body).1 e (Outcome.map_eq_error.mp h), fun part h d hd => ?_⟩
    obtain ⟨⟨t, issues⟩, hrun, rfl⟩ := Outcome.map_eq_ok.mp h
    obtain ⟨i, hi, rfl⟩ := List.mem_map.mp hd
    exact (evaluate_only params body).2 t issues hrun i hi

theorem reportable_of_segments {segments : List Segment} {rendered : Rendered}
    (h : engine.renderSegments params segments = .ok rendered) :
    ∀ d ∈ rendered.diagnostics, Reportable engine.provider d.issue.error := by
  obtain ⟨parts, hparts, rfl⟩ := renderSegments_eq_ok.mp h
  clear h
  intro d hd
  induction hparts with
  | nil => cases hd
  | cons hs _ ih =>
    rcases List.mem_append.mp hd with hd | hd
    · exact reportable_of_segment.2 _ hs d hd
    · exact ih hd

/-- **What is reported, the pattern or a call on fitting arguments accounts for.** -/
theorem Reports.reportable {pattern : Text} {e : SubstitutionError} (h : engine.Reports params pattern e) :
    Reportable engine.provider e := by
  rcases h with h | ⟨rendered, h, d, hd, rfl⟩
  · obtain ⟨before, s, after, -, -, hs⟩ := renderSegments_eq_error.mp h
    exact reportable_of_segment.1 e hs
  · exact reportable_of_segments h d hd

end Engine
end Placeholders

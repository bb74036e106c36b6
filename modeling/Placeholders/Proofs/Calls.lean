/-
The function calls of a rendering. A stage is reached (`Reaches`) when the
segments before its placeholder are rendered and the stages before it have made a
value of the parameter. It calls a function (`Invokes`) when it is a call, its
arguments have types and values, and something is registered under the signature.
What is handed over fits the signature (`Calls.fits`).

A run over a list fails where an element does, after a run over those before it
(`Outcome.mapM_eq_error`, `Noting.run_foldlM_eq_error`). So a rendering ends the
process just when a function that it calls does so (`render_eq_abort_iff`).
-/
import Placeholders.Proofs.Arguments

namespace Placeholders
open Pattern (Call Expression Segment scan)

/-! ## Where a run over a list fails -/

theorem Outcome.map_eq_error {ε α β : Type} {f : α → β} {x : Outcome ε α} {e : Fault ε} :
    Except.map f x = .error e ↔ x = .error e := by
  cases x <;> simp [Except.map]

theorem Outcome.bind_eq_error {ε α β : Type} {x : Outcome ε α} {f : α → Outcome ε β} {e : Fault ε} :
    (x >>= f) = .error e ↔ x = .error e ∨ ∃ a, x = .ok a ∧ f a = .error e := by
  cases x <;> simp [bind, Except.bind]

theorem Outcome.mapM_eq_error {ε α β : Type} {f : α → Outcome ε β} {e : Fault ε} : ∀ {l : List α},
    l.mapM f = .error e ↔
      ∃ before a after, l = before ++ a :: after ∧ (∃ bs, before.mapM f = .ok bs) ∧ f a = .error e
  | [] => by simp [pure, Except.pure]
  | a :: l => by
    rw [List.mapM_cons, bind_eq_error]
    constructor
    · rintro (ha | ⟨b, ha, h⟩)
      · exact ⟨[], a, l, rfl, ⟨[], rfl⟩, ha⟩
      · rcases bind_eq_error.mp h with hl | ⟨bs, -, h⟩
        · obtain ⟨before, a', after, rfl, ⟨bs, hbs⟩, ha'⟩ := mapM_eq_error.mp hl
          exact ⟨a :: before, a', after, rfl, ⟨b :: bs, by rw [List.mapM_cons, ha, hbs]; rfl⟩, ha'⟩
        · cases h
    · rintro ⟨before, a', after, heq, ⟨bs, hbs⟩, ha'⟩
      cases before with
      | nil =>
        obtain ⟨rfl, rfl⟩ := List.cons.inj heq
        exact .inl ha'
      | cons a'' before =>
        obtain ⟨rfl, rfl⟩ := List.cons.inj heq
        rw [List.mapM_cons] at hbs
        obtain ⟨b, hb, hbs⟩ := bind_eq_ok.mp hbs
        obtain ⟨rest, hrest, -⟩ := bind_eq_ok.mp hbs
        exact .inr ⟨b, hb, bind_eq_error.mpr (.inl (mapM_eq_error.mpr ⟨before, a', after, rfl, ⟨rest, hrest⟩, ha'⟩))⟩

theorem Noting.run_bind_eq_ok {α β : Type} {x : Noting α} {f : α → Noting β} {b : β} {issues : List Issue} :
    (x >>= f).run = .ok (b, issues) ↔
      ∃ a noted more, x.run = .ok (a, noted) ∧ (f a).run = .ok (b, more) ∧ noted ++ more = issues := by
  rw [run_bind]
  rcases x.run with e | ⟨a, noted⟩
  · simp
  · rcases hf : (f a).run with e | ⟨b', more⟩ <;> simp [hf]

theorem Noting.run_bind_eq_error {α β : Type} {x : Noting α} {f : α → Noting β} {e : Fault SubstitutionError} :
    (x >>= f).run = .error e ↔
      x.run = .error e ∨ ∃ a noted, x.run = .ok (a, noted) ∧ (f a).run = .error e := by
  rw [run_bind]
  rcases x.run with e | ⟨a, noted⟩
  · simp
  · rcases hf : (f a).run with e | ⟨b', more⟩ <;> simp [hf]

theorem Noting.run_foldlM_eq_error {α β : Type} {f : β → α → Noting β} {e : Fault SubstitutionError} :
    ∀ {l : List α} {b : β}, (l.foldlM f b).run = .error e ↔
      ∃ before a after next issues, l = before ++ a :: after ∧
        (before.foldlM f b).run = .ok (next, issues) ∧ (f next a).run = .error e
  | [], b => by simp
  | a :: l, b => by
    rw [List.foldlM_cons, run_bind_eq_error]
    constructor
    · rintro (h | ⟨next, noted, h, hrest⟩)
      · exact ⟨[], a, l, b, [], rfl, rfl, h⟩
      · obtain ⟨before, a', after, next', issues, rfl, hok, herror⟩ := run_foldlM_eq_error.mp hrest
        refine ⟨a :: before, a', after, next', noted ++ issues, rfl, ?_, herror⟩
        rw [List.foldlM_cons]
        exact run_bind_eq_ok.mpr ⟨next, noted, issues, h, hok, rfl⟩
    · rintro ⟨before, a', after, next, issues, heq, hok, herror⟩
      cases before with
      | nil =>
        obtain ⟨rfl, rfl⟩ := List.cons.inj heq
        cases hok
        exact .inl herror
      | cons a'' before =>
        obtain ⟨rfl, rfl⟩ := List.cons.inj heq
        rw [List.foldlM_cons] at hok
        obtain ⟨first, noted, more, hfirst, hrest, -⟩ := run_bind_eq_ok.mp hok
        exact .inr ⟨first, noted, hfirst, run_foldlM_eq_error.mpr ⟨before, a', after, next, more, rfl, hrest, herror⟩⟩

namespace Engine

/-! ## Stages that are reached and functions that are called -/

/-- A rendering gets to a stage of a key with a running value. -/
inductive Reaches (engine : Engine) (params : Params) (pattern : Text) : Text → Text → Option Call → Prop
  | intro {before body after rendered param done stage rest value issues} :
      scan pattern = before ++ .placeholder body :: after →
      engine.renderSegments params before = .ok rendered →
      params.get? (Expression.parse body).key = some param →
      (Expression.parse body).calls = done ++ stage :: rest →
      (done.foldlM (engine.runStage (Expression.parse body).key) param.toText).run = .ok (value, issues) →
      Reaches engine params pattern (Expression.parse body).key value stage

/-- A stage, once it is reached, calls a function found under a signature. -/
inductive Invokes (engine : Engine) : Option Call → Signature → PipeFunction → List Argument → Prop
  | intro {call types issues args f} :
      (call.args.mapM (typeOf engine.mode)).run = .ok (types, issues) →
      Argument.ofTokens call.function call.args types = .ok args →
      engine.provider.resolve ⟨call.function, types⟩ = some f →
      Invokes engine (some call) ⟨call.function, types⟩ f args

/-- A rendering calls a function found under a signature, on a value and arguments. -/
def Calls (engine : Engine) (params : Params) (pattern : Text) (s : Signature) (f : PipeFunction)
    (value : Text) (args : List Argument) : Prop :=
  ∃ key stage, engine.Reaches params pattern key value stage ∧ engine.Invokes stage s f args

variable {engine : Engine} {params : Params} {pattern key value : Text} {stage : Option Call}
  {s : Signature} {f : PipeFunction} {args : List Argument}

theorem Invokes.fits (h : engine.Invokes stage s f args) : Fits s.types args := by
  cases h with
  | intro htypes hargs _ =>
    cases types_of_run htypes
    exact fits_of_ofTokens hargs

theorem Invokes.resolve_eq (h : engine.Invokes stage s f args) : engine.provider.resolve s = some f := by
  cases h with
  | intro _ _ hresolve => exact hresolve

theorem Calls.fits (h : engine.Calls params pattern s f value args) : Fits s.types args := by
  obtain ⟨key, stage, -, hinvokes⟩ := h
  exact hinvokes.fits

theorem Calls.resolve_eq (h : engine.Calls params pattern s f value args) :
    engine.provider.resolve s = some f := by
  obtain ⟨key, stage, -, hinvokes⟩ := h
  exact hinvokes.resolve_eq

/-! ## What ends the process -/

theorem run_mapM_typeOf_ne_abort (mode : Mode) (tokens : List Text) :
    (tokens.mapM (typeOf mode)).run ≠ .error .abort := by
  cases mode with
  | lenient => rw [run_mapM_typeOf_lenient]; intro h; cases h
  | strict =>
    obtain ⟨types, noted, -, hstrict⟩ := Corresponds.mapM typeOf_corresponds tokens
    rw [hstrict]
    cases noted <;> intro h <;> cases h

theorem run_ofStage_eq_abort {mode : Mode} {x : Outcome SubstitutionError Text} :
    (Noting.ofStage mode value x).run = .error .abort ↔ x = abort := by
  constructor
  · intro h
    match x, mode with
    | .ok next, _ => cases h
    | .error (.error e), .strict => cases h
    | .error (.error e), .lenient => cases h
    | .error .abort, _ => rfl
  · rintro rfl
    rfl

theorem mapError_eq_abort {ε δ α : Type} {g : ε → δ} {x : Outcome ε α} : x.mapError g = abort ↔ x = abort := by
  match x with
  | .ok a => constructor <;> intro h <;> cases h
  | .error (.error e) => constructor <;> intro h <;> cases h
  | .error .abort => constructor <;> intro _ <;> rfl

theorem invoke_eq_abort {provider : Provider} {call : Call} :
    invoke provider value call call.types = abort ↔
      ∃ args f, Argument.ofTokens call.function call.args call.types = .ok args ∧
        provider.resolve call.signature = some f ∧ f value args = abort := by
  obtain ⟨args, hargs, heq⟩ := invoke_eq provider value call
  rw [heq]
  cases hresolve : provider.resolve call.signature with
  | none =>
    constructor
    · intro h; cases h
    · rintro ⟨_, _, _, h, _⟩; cases h
  | some f =>
    dsimp only
    rw [mapError_eq_abort]
    constructor
    · exact fun h => ⟨args, f, hargs, rfl, h⟩
    · rintro ⟨args', f', hargs', hf', h⟩
      rw [hargs] at hargs'
      cases hargs'
      cases hf'
      exact h

theorem run_runStage_eq_abort :
    (engine.runStage key value stage).run = .error .abort ↔
      ∃ s f args, engine.Invokes stage s f args ∧ f value args = abort := by
  cases stage with
  | none =>
    unfold runStage
    rw [run_ofStage_eq_abort]
    constructor
    · intro h; cases h
    · rintro ⟨_, _, _, h, _⟩; cases h
  | some call =>
    unfold runStage
    rw [Noting.run_bind_eq_error]
    constructor
    · rintro (h | ⟨types, issues, htypes, h⟩)
      · exact absurd h (run_mapM_typeOf_ne_abort _ _)
      · cases types_of_run htypes
        obtain ⟨args, f, hargs, hresolve, habort⟩ := invoke_eq_abort.mp (run_ofStage_eq_abort.mp h)
        exact ⟨_, f, args, .intro htypes hargs hresolve, habort⟩
    · rintro ⟨_, f, args, @⟨_, types, issues, _, _, htypes, hargs, hresolve⟩, habort⟩
      have hinvoke : invoke engine.provider value call types = abort := by
        cases types_of_run htypes
        exact invoke_eq_abort.mpr ⟨args, f, hargs, hresolve, habort⟩
      exact .inr ⟨types, issues, htypes, run_ofStage_eq_abort.mpr hinvoke⟩

theorem run_evaluate_eq_abort {body : Text} :
    (engine.evaluate params body).run = .error .abort ↔
      ∃ param done stage rest value issues, params.get? (Expression.parse body).key = some param ∧
        (Expression.parse body).calls = done ++ stage :: rest ∧
        (done.foldlM (engine.runStage (Expression.parse body).key) param.toText).run = .ok (value, issues) ∧
        (engine.runStage (Expression.parse body).key value stage).run = .error .abort := by
  cases hget : params.get? (Expression.parse body).key with
  | none =>
    rw [evaluate_of_get?_none _ hget]
    constructor
    · intro h
      cases hmode : engine.mode <;> rw [hmode] at h <;> cases h
    · rintro ⟨_, _, _, _, _, _, h, _⟩; cases h
  | some param =>
    rw [evaluate_of_get?_some _ hget, Noting.run_foldlM_eq_error]
    constructor
    · rintro ⟨done, stage, rest, value, issues, h⟩
      exact ⟨param, done, stage, rest, value, issues, rfl, h⟩
    · rintro ⟨_, done, stage, rest, value, issues, ⟨⟩, h⟩
      exact ⟨done, stage, rest, value, issues, h⟩

theorem renderSegment_eq_abort {s : Segment} :
    engine.renderSegment params s = abort ↔
      ∃ body, s = .placeholder body ∧ (engine.evaluate params body).run = .error .abort := by
  cases s with
  | literal t =>
    constructor
    · intro h; cases h
    · rintro ⟨_, h, _⟩; cases h
  | placeholder body =>
    rw [renderSegment_placeholder, abort, Outcome.map_eq_error]
    constructor
    · exact fun h => ⟨body, rfl, h⟩
    · rintro ⟨_, ⟨⟩, h⟩; exact h

theorem renderSegments_eq_error {segments : List Segment} {e : Fault SubstitutionError} :
    engine.renderSegments params segments = .error e ↔
      ∃ before s after, segments = before ++ s :: after ∧
        (∃ r, engine.renderSegments params before = .ok r) ∧ engine.renderSegment params s = .error e := by
  unfold renderSegments
  rw [Outcome.map_eq_error, Outcome.mapM_eq_error]
  simp only [Outcome.map_eq_ok]
  constructor
  · rintro ⟨before, s, after, heq, ⟨parts, hparts⟩, hs⟩
    exact ⟨before, s, after, heq, ⟨_, parts, hparts, rfl⟩, hs⟩
  · rintro ⟨before, s, after, heq, ⟨_, parts, hparts, _⟩, hs⟩
    exact ⟨before, s, after, heq, ⟨parts, hparts⟩, hs⟩

/-- **A rendering ends the process just when a function that it calls does.** The
engine itself never does: it reads each token at the token's own type. -/
theorem render_eq_abort_iff :
    engine.render params pattern = abort ↔
      ∃ s f value args, engine.Calls params pattern s f value args ∧ f value args = abort := by
  unfold render
  rw [abort, renderSegments_eq_error]
  constructor
  · rintro ⟨before, segment, after, hscan, ⟨rendered, hbefore⟩, hsegment⟩
    obtain ⟨body, rfl, hbody⟩ := renderSegment_eq_abort.mp hsegment
    obtain ⟨param, done, stage, rest, value, issues, hget, hcalls, hdone, hstage⟩ :=
      run_evaluate_eq_abort.mp hbody
    obtain ⟨s, f, args, hinvokes, habort⟩ := run_runStage_eq_abort.mp hstage
    exact ⟨s, f, value, args, ⟨_, stage, .intro hscan hbefore hget hcalls hdone, hinvokes⟩, habort⟩
  · rintro ⟨s, f, value, args, ⟨key, stage, @⟨before, body, after, rendered, param, done, _, rest, _, issues,
      hscan, hbefore, hget, hcalls, hdone⟩, hinvokes⟩, habort⟩
    have hstage : (engine.runStage (Expression.parse body).key value stage).run = .error .abort :=
      run_runStage_eq_abort.mpr ⟨s, f, args, hinvokes, habort⟩
    have hbody := run_evaluate_eq_abort.mpr ⟨param, done, stage, rest, value, issues, hget, hcalls, hdone, hstage⟩
    exact ⟨before, .placeholder body, after, hscan, ⟨rendered, hbefore⟩,
      renderSegment_eq_abort.mpr ⟨body, rfl, hbody⟩⟩

end Engine
end Placeholders

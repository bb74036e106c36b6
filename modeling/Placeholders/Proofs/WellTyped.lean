/-
Calls are well typed (`dispatch_fits`). The types of a call are told from the
shapes of its tokens and the values are read apart from that, with raw text where
nothing can be read; still each value is of the type that it is looked up by. So
of a registry nothing counts but its name, its signatures and what its functions
give on arguments of their types, and the argument errors of the built-in
functions are never seen.
-/
import Placeholders.Proofs.Builtins

namespace Placeholders
open Pattern (Call Expression enclose scan)

/-- Registries with the same signatures agree if their functions do on arguments of the types. -/
theorem agrees_of_signatures_eq {r r' : Registry} (hname : r.name = r'.name)
    (hsignatures : r.signatures = r'.signatures)
    (h : ∀ s f g, r.resolve s = some f → r'.resolve s = some g →
      ∀ value args, args.map Argument.type = s.types → f value args = g value args) :
    r.toProvider.Agrees r'.toProvider := by
  refine ⟨hname, fun s => ?_⟩
  have hmem : (r.toProvider.resolve s).isSome = true ↔ (r'.toProvider.resolve s).isSome = true := by
    rw [← mem_signatures, hsignatures, mem_signatures]
  cases hf : r.toProvider.resolve s with
  | none =>
    cases hg : r'.toProvider.resolve s with
    | none => exact .none
    | some g => simp [hf, hg] at hmem
  | some f =>
    cases hg : r'.toProvider.resolve s with
    | none => simp [hf, hg] at hmem
    | some g => exact .some fun value args hargs => h s f g hf hg value args hargs.map_type

namespace Engine

/-- A stage that a rendering reaches with a call has values for its arguments, and
comes to what is registered for their types gives on them. -/
theorem exists_args_of_run {engine : Engine} {value : Text} {call : Call} {types : List ArgType}
    {issues : List Issue} (h : (call.args.mapM (typeOf engine.mode)).run = .ok (types, issues)) :
    ∃ args, Argument.ofTokens call.function call.args types = .ok args ∧ args.map Argument.type = types ∧
      invoke engine.provider value call types =
        match engine.provider.resolve ⟨call.function, types⟩ with
        | none => refuse (.functionNotFound call.function types engine.provider.name)
        | some f => (f value args).mapError (.invocationFailed call.function engine.provider.name) := by
  cases types_of_run h
  obtain ⟨args, hargs, hinvoke⟩ := invoke_eq engine.provider value call
  exact ⟨args, hargs, (fits_of_ofTokens hargs).map_type, hinvoke⟩

theorem not_reports_argumentCount {engine : Engine} {params : Params} {pattern function : Text} {tokens types : Nat} :
    ¬ engine.Reports params pattern (.argumentCount function tokens types) := by
  intro h
  cases h.reportable

theorem exists_reason_of_reports {r : Registry} (hr : r ∈ builtins) {mode : Mode} {params : Params}
    {pattern function provider : Text} {reason : FunctionError}
    (h : Reports ⟨r.toProvider, mode⟩ params pattern (.invocationFailed function provider reason)) :
    ∃ text, reason = .failed text := by
  cases h.reportable with
  | @failed _ _ f value args _ hresolve hargs hf =>
    rcases Builtin.settles_or_overruns hr hresolve hargs with hsettles | ⟨-, rfl, places, rfl, hover⟩
    · exact hsettles.exists_reason hf
    · rw [Builtin.round_eq_abort_iff.mpr hover] at hf
      cases hf

/-- **Dispatch is well typed.** What a rendering calls under a signature gets
arguments of just its types. A call whose types are found has values for its
arguments, so no rendering ends the process but in a function that it calls, and
the number of arguments is never wrong. Hence registries with one name and one
list of signatures, whose functions agree on arguments of their types, render
every pattern alike; and a built-in function fails only for a reason of its own. -/
theorem dispatch_fits :
    (∀ (engine : Engine) (params : Params) (pattern : Text),
      (∀ s f value args, engine.Calls params pattern s f value args →
        engine.provider.resolve s = some f ∧ args.map Argument.type = s.types) ∧
      (engine.render params pattern = abort ↔
        ∃ s f value args, engine.Calls params pattern s f value args ∧ f value args = abort) ∧
      ∀ function tokens types, ¬ engine.Reports params pattern (.argumentCount function tokens types)) ∧
    (∀ (engine : Engine) (value : Text) (call : Call) (types : List ArgType) (issues : List Issue),
      (call.args.mapM (typeOf engine.mode)).run = .ok (types, issues) →
      ∃ args, Argument.ofTokens call.function call.args types = .ok args ∧ args.map Argument.type = types ∧
        invoke engine.provider value call types =
          match engine.provider.resolve ⟨call.function, types⟩ with
          | none => refuse (.functionNotFound call.function types engine.provider.name)
          | some f => (f value args).mapError (.invocationFailed call.function engine.provider.name)) ∧
    (∀ r r' : Registry, r.name = r'.name → r.signatures = r'.signatures →
      (∀ s f g, r.resolve s = some f → r'.resolve s = some g →
        ∀ value args, args.map Argument.type = s.types → f value args = g value args) →
      ∀ mode params pattern,
        render ⟨r.toProvider, mode⟩ params pattern = render ⟨r'.toProvider, mode⟩ params pattern) ∧
    ∀ r ∈ builtins, ∀ mode params pattern function provider reason,
      Reports ⟨r.toProvider, mode⟩ params pattern (.invocationFailed function provider reason) →
        ∃ text, reason = .failed text := by
  refine ⟨fun engine params pattern => ⟨?_, render_eq_abort_iff, ?_⟩, ?_, ?_, ?_⟩
  · exact fun s f value args h => ⟨h.resolve_eq, h.fits.map_type⟩
  · exact fun function tokens types => not_reports_argumentCount
  · exact fun engine value call types issues h => exists_args_of_run h
  · exact fun r r' hname hsignatures h mode => render_congr (agrees_of_signatures_eq hname hsignatures h) mode
  · exact fun r hr mode params pattern function provider reason h => exists_reason_of_reports hr h

/-- Two quoted arguments, the first of them empty. -/
def emptyReplaceBody : Text := "a | replace '' \"it's\"".toList

/-- The call in it. -/
def emptyReplace : Call := ⟨"replace".toList, ["''".toList, "\"it's\"".toList]⟩

/-- A registry whose one function takes raw text and gives back the value. -/
def echoing : Registry :=
  (Registry.empty "echo".toList).register "f".toList [.any] fun value _ => .ok value

/-- The same, but without raw text the function refuses. -/
def fussy : Registry :=
  (Registry.empty "echo".toList).register "f".toList [.any] fun value args =>
    if args.map Argument.type = [.any] then .ok value else refuse (.missingArgument 0)

theorem run_emptyReplace :
    (emptyReplace.args.mapM (typeOf .strict)).run = .ok ([.string, .string], []) := rfl

theorem calls_emptyReplace :
    Calls ⟨standard.toProvider, .strict⟩ onlyA (enclose emptyReplaceBody) ⟨"replace".toList, [.string, .string]⟩
      Builtin.replace ['v'] [.string [], .string "it's".toList] := by
  have hscan : scan (enclose emptyReplaceBody) = [] ++ .placeholder emptyReplaceBody :: [] := by decide +kernel
  have hget : onlyA.get? (Expression.parse emptyReplaceBody).key = some (.string ['v']) := rfl
  have hcalls : (Expression.parse emptyReplaceBody).calls = [] ++ some emptyReplace :: [] := by decide +kernel
  have hargs : Argument.ofTokens emptyReplace.function emptyReplace.args [.string, .string] =
      .ok [.string [], .string "it's".toList] := rfl
  have hresolve : standard.resolve ⟨"replace".toList, [.string, .string]⟩ = some Builtin.replace := rfl
  exact ⟨_, _, .intro hscan rfl hget hcalls rfl, .intro run_emptyReplace hargs hresolve⟩

theorem reports_emptyReplace :
    Reports ⟨standard.toProvider, .strict⟩ onlyA (enclose emptyReplaceBody)
      (.invocationFailed "replace".toList "standard".toList (.failed "replace pattern must not be empty".toList)) := by
  refine .inl ?_
  decide +kernel

theorem resolve_echoing_fussy {s : Signature} {f g : PipeFunction} (hf : echoing.resolve s = some f)
    (hg : fussy.resolve s = some g) (value : Text) {args : List Argument}
    (h : args.map Argument.type = s.types) : f value args = g value args := by
  unfold echoing at hf
  unfold fussy at hg
  rw [Registry.resolve_register, Registry.resolve_empty] at hf hg
  split at hf
  · next hs =>
    subst hs
    cases hf
    cases hg
    exact (if_pos h).symm
  · cases hf

theorem dispatch_fits_emptyReplace :
    Calls ⟨standard.toProvider, .strict⟩ onlyA (enclose emptyReplaceBody) ⟨"replace".toList, [.string, .string]⟩
        Builtin.replace ['v'] [.string [], .string "it's".toList] ∧
      [Argument.string [], .string "it's".toList].map Argument.type = [.string, .string] ∧
      (∃ args, Argument.ofTokens emptyReplace.function emptyReplace.args [.string, .string] = .ok args ∧
        args.map Argument.type = [.string, .string]) ∧
      render ⟨echoing.toProvider, .lenient⟩ onlyA crooked = render ⟨fussy.toProvider, .lenient⟩ onlyA crooked ∧
      Reports ⟨standard.toProvider, .strict⟩ onlyA (enclose emptyReplaceBody)
        (.invocationFailed "replace".toList "standard".toList
          (.failed "replace pattern must not be empty".toList)) ∧
      ∃ text, FunctionError.failed "replace pattern must not be empty".toList = .failed text := by
  obtain ⟨hcalls, htypes, hregistries, hbuiltins⟩ := dispatch_fits
  obtain ⟨args, hargs, hfits, -⟩ := htypes ⟨standard.toProvider, .strict⟩ ['v'] emptyReplace _ _ run_emptyReplace
  refine ⟨calls_emptyReplace, ((hcalls _ _ _).1 _ _ _ _ calls_emptyReplace).2, ⟨args, hargs, hfits⟩, ?_,
    reports_emptyReplace, ?_⟩
  · refine hregistries echoing fussy rfl rfl ?_ .lenient onlyA crooked
    exact fun s f g hf hg value args h => resolve_echoing_fussy hf hg value h
  · exact hbuiltins standard standard_mem_builtins _ _ _ _ _ _ reports_emptyReplace

end Engine
end Placeholders

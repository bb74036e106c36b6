/-
Providers that resolve more (`Provider.ExtendedBy`). A call is looked up by its name
and its exact types, so what one provider resolves is never taken over by what
another adds, be it another overload of the same name. A rendering that misses no
function goes the same way with the other provider (`render_extended`); only the
provider's name in the failures of functions is another.

`Carries` says so of one computation, and is carried through all that an engine does.
-/
import Placeholders.Proofs.Builtins

namespace Placeholders
open Pattern (Call Expression Segment enclose scan)

/-- Whatever the first provider resolves, the second resolves to the same function. -/
def Provider.ExtendedBy (p q : Provider) : Prop := ∀ s f, p.resolve s = some f → q.resolve s = some f

namespace SubstitutionError

/-- Was a function not found? -/
def isNotFound : SubstitutionError → Bool
  | functionNotFound .. => true
  | _ => false

/-- The same error with a provider of this name. -/
def withProvider (name : Text) : SubstitutionError → SubstitutionError
  | functionNotFound function types _ => functionNotFound function types name
  | invocationFailed function _ reason => invocationFailed function name reason
  | e => e

end SubstitutionError

/-- The same issue with a provider of this name. -/
def Issue.withProvider (name : Text) (i : Issue) : Issue := ⟨i.severity, i.error.withProvider name⟩

/-- The same diagnostic with a provider of this name. -/
def Diagnostic.withProvider (name : Text) (d : Diagnostic) : Diagnostic := ⟨d.placeholder, d.issue.withProvider name⟩

/-- The same rendering with a provider of this name. -/
def Rendered.withProvider (name : Text) (r : Rendered) : Rendered :=
  ⟨r.text, r.diagnostics.map (Diagnostic.withProvider name)⟩

/-- When the first computation has a value and misses no function, the second has the
value too, and notes the same with a provider of this name. -/
def Carries {α : Type} (name : Text) (x y : Noting α) : Prop :=
  ∀ a issues, x.run = .ok (a, issues) → (∀ i ∈ issues, i.error.isNotFound = false) →
    y.run = .ok (a, issues.map (Issue.withProvider name))

namespace Carries

variable {name : Text}

theorem pure {α : Type} (a : α) : Carries name (Pure.pure a) (Pure.pure a) := by
  intro b issues h _
  cases h
  rfl

theorem bind {α β : Type} {x y : Noting α} {f g : α → Noting β} (h : Carries name x y)
    (hnext : ∀ a issues, x.run = .ok (a, issues) → Carries name (f a) (g a)) :
    Carries name (x >>= f) (y >>= g) := by
  intro b issues hrun hfound
  obtain ⟨a, noted, more, hx, hf, rfl⟩ := Noting.run_bind_eq_ok.mp hrun
  obtain ⟨hnoted, hmore⟩ := List.forall_mem_append.mp hfound
  have hy := h a noted hx hnoted
  have hg := hnext a noted hx b more hf hmore
  exact Noting.run_bind_eq_ok.mpr ⟨a, _, _, hy, hg, List.map_append.symm⟩

theorem note (mode : Mode) (severity : Severity) {e : SubstitutionError} (he : e.withProvider name = e) :
    Carries name (note mode severity e) (note mode severity e) := by
  intro a issues h _
  cases mode with
  | strict => cases h
  | lenient =>
    cases h
    show _ = Except.ok ((), [Issue.mk severity (e.withProvider name)])
    rw [he]
    rfl

theorem mapM {α β : Type} {f : α → Noting β} (h : ∀ a, Carries name (f a) (f a)) :
    ∀ l : List α, Carries name (l.mapM f) (l.mapM f)
  | [] => by simpa only [List.mapM_nil] using pure []
  | a :: l => by
    simp only [List.mapM_cons]
    exact (h a).bind fun b _ _ => (mapM h l).bind fun bs _ _ => pure (b :: bs)

theorem foldlM {α β : Type} {f g : β → α → Noting β} (h : ∀ b a, Carries name (f b a) (g b a)) :
    ∀ (l : List α) (b : β), Carries name (l.foldlM f b) (l.foldlM g b)
  | [], b => by simpa only [List.foldlM_nil] using pure b
  | a :: l, b => by
    simp only [List.foldlM_cons]
    exact (h b a).bind fun next _ _ => foldlM h l next

theorem ofStage (mode : Mode) (value : Text) {x y : Outcome SubstitutionError Text}
    (h : (∃ e, x = refuse e ∧ e.isNotFound = true) ∨ y = x.mapError (SubstitutionError.withProvider name)) :
    Carries name (Noting.ofStage mode value x) (Noting.ofStage mode value y) := by
  intro t issues hrun hfound
  match x, mode with
  | .ok next, _ =>
    obtain ⟨e, he, -⟩ | rfl := h
    · cases he
    · exact pure next t issues hrun hfound
  | .error .abort, _ => cases hrun
  | .error (.error e), .strict => cases hrun
  | .error (.error e), .lenient =>
    cases hrun
    have hpresent : e.isNotFound = false := hfound _ List.mem_cons_self
    obtain ⟨_, he, hmissing⟩ | rfl := h
    · cases he
      rw [hpresent] at hmissing
      cases hmissing
    · rfl

end Carries

namespace Engine

section
variable {p q : Provider} (h : p.ExtendedBy q)
include h

/-- A call that is not missed comes to the same with a provider that resolves more. -/
theorem invoke_extended (value : Text) (call : Call) :
    (∃ e, invoke p value call call.types = refuse e ∧ e.isNotFound = true) ∨
      invoke q value call call.types =
        (invoke p value call call.types).mapError (SubstitutionError.withProvider q.name) := by
  obtain ⟨args, hargs, hp⟩ := invoke_eq p value call
  obtain ⟨args', hargs', hq⟩ := invoke_eq q value call
  rw [hargs] at hargs'
  cases hargs'
  cases hresolve : p.resolve call.signature with
  | none =>
    rw [hresolve] at hp
    exact .inl ⟨_, hp, rfl⟩
  | some f =>
    rw [hresolve] at hp
    rw [h _ f hresolve] at hq
    refine .inr ?_
    rw [hp, hq]
    dsimp only
    match f value args with
    | .ok t => rfl
    | .error (.error e) => rfl
    | .error .abort => rfl

theorem runStage_extended (mode : Mode) (key value : Text) (stage : Option Call) :
    Carries q.name (runStage ⟨p, mode⟩ key value stage) (runStage ⟨q, mode⟩ key value stage) := by
  cases stage with
  | none =>
    unfold runStage
    exact .ofStage mode value (.inr rfl)
  | some call =>
    have htypes : ∀ token, Carries q.name (typeOf mode token) (typeOf mode token) := by
      intro token
      unfold typeOf
      split
      · exact .pure _
      · exact (Carries.note mode .warning rfl).bind fun _ _ _ => .pure _
    refine (Carries.mapM htypes call.args).bind fun types issues hrun => ?_
    cases types_of_run hrun
    exact .ofStage mode value (invoke_extended h value call)

theorem evaluate_extended (mode : Mode) (params : Params) (body : Text) :
    Carries q.name (evaluate ⟨p, mode⟩ params body) (evaluate ⟨q, mode⟩ params body) := by
  cases hget : params.get? (Expression.parse body).key with
  | none =>
    rw [evaluate_of_get?_none _ hget, evaluate_of_get?_none _ hget]
    exact (Carries.note mode .warning rfl).bind fun _ _ _ => .pure _
  | some value =>
    rw [evaluate_of_get?_some _ hget, evaluate_of_get?_some _ hget]
    exact .foldlM (runStage_extended h mode _) _ _

theorem renderSegment_extended {mode : Mode} {params : Params} {s : Segment} {part : Rendered}
    (hpart : renderSegment ⟨p, mode⟩ params s = .ok part)
    (hfound : ∀ d ∈ part.diagnostics, d.issue.error.isNotFound = false) :
    renderSegment ⟨q, mode⟩ params s = .ok (part.withProvider q.name) := by
  cases s with
  | literal t => cases hpart; rfl
  | placeholder body =>
    rw [renderSegment_placeholder] at hpart ⊢
    obtain ⟨⟨t, issues⟩, hrun, rfl⟩ := Outcome.map_eq_ok.mp hpart
    have hissues : ∀ i ∈ issues, i.error.isNotFound = false := fun i hi =>
      hfound ⟨enclose body, i⟩ (List.mem_map_of_mem hi)
    rw [evaluate_extended h mode params body t issues hrun hissues]
    simp [Except.map, Rendered.withProvider, Diagnostic.withProvider, Function.comp_def]

/-- A rendering that misses no function is the same with a provider that resolves more. -/
theorem renderSegments_extended {mode : Mode} {params : Params} {segments : List Segment} {r : Rendered}
    (hr : renderSegments ⟨p, mode⟩ params segments = .ok r)
    (hfound : ∀ d ∈ r.diagnostics, d.issue.error.isNotFound = false) :
    renderSegments ⟨q, mode⟩ params segments = .ok (r.withProvider q.name) := by
  induction segments generalizing r with
  | nil => cases hr; rfl
  | cons s segments ih =>
    rw [renderSegments_cons] at hr ⊢
    obtain ⟨part, hpart, hr⟩ := Outcome.bind_eq_ok.mp hr
    obtain ⟨rest, hrest, hr⟩ := Outcome.bind_eq_ok.mp hr
    cases hr
    obtain ⟨hfirst, hmore⟩ := List.forall_mem_append.mp hfound
    rw [renderSegment_extended h hpart hfirst, ih hrest hmore]
    show Except.ok _ = Except.ok _
    simp [Rendered.append, Rendered.withProvider]

end

/-- Everything in `minimal` is in `standard`, and is what it was. -/
theorem minimal_extendedBy_standard : minimal.toProvider.ExtendedBy standard.toProvider := by
  have hall : minimal.All fun s f => standard.resolve s = some f :=
    (Registry.all_empty _)
      |>.registerUnary rfl
      |>.register rfl
      |>.register rfl
  exact hall

/-- **What a provider resolves, another may add to.** When a lenient rendering misses
no function, it gives the same text with a provider that resolves more, and the same
diagnostics but for the provider's name; and a strict rendering that succeeds is the
same. `standard` resolves all that `minimal` does. -/
theorem render_extended :
    (∀ p q : Provider, p.ExtendedBy q → ∀ (params : Params) (pattern : Text),
      (∀ r, render ⟨p, .lenient⟩ params pattern = .ok r →
        (∀ d ∈ r.diagnostics, d.issue.error.isNotFound = false) →
        render ⟨q, .lenient⟩ params pattern = .ok ⟨r.text, r.diagnostics.map (Diagnostic.withProvider q.name)⟩) ∧
      ∀ r, render ⟨p, .strict⟩ params pattern = .ok r → render ⟨q, .strict⟩ params pattern = .ok r) ∧
    minimal.toProvider.ExtendedBy standard.toProvider := by
  refine ⟨fun p q h params pattern => ⟨fun r hr hfound => renderSegments_extended h hr hfound, fun r hr => ?_⟩,
    minimal_extendedBy_standard⟩
  have hsilent := strict_diagnostics hr
  have hextended := renderSegments_extended h hr (by simp [hsilent])
  obtain ⟨t, diagnostics⟩ := r
  cases hsilent
  exact hextended

/-- The function that refuses, and another overload of its name. -/
def overloaded : Registry :=
  ((Registry.empty "overloaded".toList).merge refusing).register ['f'] [.string] Builtin.putBefore

theorem refusing_extendedBy_overloaded : refusing.toProvider.ExtendedBy overloaded.toProvider := by
  have hall : refusing.All fun s f => overloaded.resolve s = some f :=
    (Registry.all_empty _) |>.register rfl
  exact hall

/-- A call with an argument of no type, a blank stage and a key that is missing. -/
def troubled : Text := "${a | f y | }${b}".toList

/-- What is tolerated in it. -/
def troubles : List Diagnostic :=
  [⟨enclose "a | f y | ".toList, .warning, .unsupportedArgumentType ['y']⟩,
    ⟨enclose "a | f y | ".toList, .error, .invocationFailed ['f'] "refusing".toList (.failed "no".toList)⟩,
    ⟨enclose "a | f y | ".toList, .error, .emptyStage ['a']⟩,
    ⟨enclose ['b'], .warning, .missingKey ['b']⟩]

theorem render_extended_overloaded :
    refusing.toProvider.ExtendedBy overloaded.toProvider ∧
      render ⟨refusing.toProvider, .lenient⟩ onlyA troubled = .ok ⟨'v' :: enclose ['b'], troubles⟩ ∧
      (∀ d ∈ troubles, d.issue.error.isNotFound = false) ∧
      render ⟨overloaded.toProvider, .lenient⟩ onlyA troubled =
        .ok ⟨'v' :: enclose ['b'], troubles.map (Diagnostic.withProvider "overloaded".toList)⟩ ∧
      render ⟨refusing.toProvider, .strict⟩ onlyA (enclose ['a']) = .ok ⟨['v'], []⟩ ∧
      render ⟨overloaded.toProvider, .strict⟩ onlyA (enclose ['a']) = .ok ⟨['v'], []⟩ := by
  have hlenient : render ⟨refusing.toProvider, .lenient⟩ onlyA troubled = .ok ⟨'v' :: enclose ['b'], troubles⟩ := by
    decide +kernel
  have hfound : ∀ d ∈ troubles, d.issue.error.isNotFound = false := by decide
  have hstrict : render ⟨refusing.toProvider, .strict⟩ onlyA (enclose ['a']) = .ok ⟨['v'], []⟩ := by decide +kernel
  obtain ⟨hsame, -⟩ := render_extended.1 _ _ refusing_extendedBy_overloaded onlyA troubled
  obtain ⟨-, hsame'⟩ := render_extended.1 _ _ refusing_extendedBy_overloaded onlyA (enclose ['a'])
  exact ⟨refusing_extendedBy_overloaded, hlenient, hfound, hsame _ hlenient hfound, hstrict, hsame' _ hstrict⟩

end Engine
end Placeholders

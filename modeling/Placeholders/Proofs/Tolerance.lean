/-
Strict and lenient rendering side by side. A strict engine does what a lenient
one does up to the first issue, and ends there with the error of that issue
(`strict_render_of_lenient`).

The mode is read in one place, `note`, so the two runs are related there and
the relation (`Corresponds`) is carried through everything built on it: the
arguments of a call, the stages of a pipeline, the segments of a pattern. What
it takes is that no function ends the process (`Provider.Answers`). The engine
itself never does: it reads a token only at the token's own type.
-/
import Placeholders.Proofs.Dispatch
import Placeholders.Proofs.Rendering

namespace Placeholders
open Pattern (Call Expression Segment enclose scan)

/-- Every function of the provider gives a text or an error. -/
def Provider.Answers (provider : Provider) : Prop :=
  ∀ s f, provider.resolve s = some f → ∀ value args, f value args ≠ abort

theorem refuse_ne_abort {ε α : Type} (e : ε) : (refuse e : Outcome ε α) ≠ abort := by
  intro h; cases h

/-- What a strict run gives where a lenient one gives a value and these issues. -/
def strictly {α : Type} (a : α) : List Issue → Outcome SubstitutionError (α × List Issue)
  | [] => .ok (a, [])
  | first :: _ => refuse first.error

/-- The lenient run has a value, and the strict run is what its issues make of it. -/
def Corresponds {α : Type} (strict lenient : Noting α) : Prop :=
  ∃ a issues, lenient.run = .ok (a, issues) ∧ strict.run = strictly a issues

namespace Corresponds

theorem pure {α : Type} (a : α) : Corresponds (Pure.pure a) (Pure.pure a) := ⟨a, [], rfl, rfl⟩

/-- The second step matters only after the value that the lenient first step has. -/
theorem bind {α β : Type} {strict lenient : Noting α} {f g : α → Noting β} (h : Corresponds strict lenient)
    (hnext : ∀ a issues, lenient.run = .ok (a, issues) → Corresponds (f a) (g a)) :
    Corresponds (strict >>= f) (lenient >>= g) := by
  obtain ⟨a, issues, hl, hs⟩ := h
  obtain ⟨b, more, hl', hs'⟩ := hnext a issues hl
  refine ⟨b, issues ++ more, ?_, ?_⟩
  · simp only [Noting.run_bind, hl, hl']
  · cases issues with
    | nil =>
      simp only [Noting.run_bind, hs, strictly, List.nil_append, hs']
      cases more with
      | nil => rfl
      | cons issue rest => rfl
    | cons issue rest => simp only [Noting.run_bind, hs, strictly]; rfl

theorem note (severity : Severity) (e : SubstitutionError) :
    Corresponds (note .strict severity e) (note .lenient severity e) :=
  ⟨(), [⟨severity, e⟩], rfl, rfl⟩

theorem mapM {α β : Type} {f g : α → Noting β} (h : ∀ a, Corresponds (f a) (g a)) :
    ∀ l : List α, Corresponds (l.mapM f) (l.mapM g)
  | [] => by simpa only [List.mapM_nil] using pure []
  | a :: l => by
    simp only [List.mapM_cons]
    refine (h a).bind fun b _ _ => ?_
    exact (mapM h l).bind fun bs _ _ => pure (b :: bs)

theorem foldlM {α β : Type} {f g : β → α → Noting β} (h : ∀ b a, Corresponds (f b a) (g b a)) :
    ∀ (l : List α) (b : β), Corresponds (l.foldlM f b) (l.foldlM g b)
  | [], b => by simpa only [List.foldlM_nil] using pure b
  | a :: l, b => by
    simp only [List.foldlM_cons]
    exact (h b a).bind fun next _ _ => foldlM h l next

theorem ofStage {value : Text} {x : Outcome SubstitutionError Text} (h : x ≠ abort) :
    Corresponds (Noting.ofStage .strict value x) (Noting.ofStage .lenient value x) := by
  match x, h with
  | .ok next, _ => exact pure next
  | .error (.error e), _ => exact (note .error e).bind fun _ _ _ => pure value
  | .error .abort, h => exact absurd rfl h

end Corresponds

/-! ## A strict run notes nothing -/

/-- No issue comes with a value. -/
def Silent {α : Type} (x : Noting α) : Prop := ∀ a issues, x.run = .ok (a, issues) → issues = []

namespace Silent

theorem pure {α : Type} (a : α) : Silent (Pure.pure a) := by
  intro b issues h; cases h; rfl

theorem refuse {α : Type} (e : SubstitutionError) : Silent (Placeholders.refuse e : Noting α) := by
  intro a issues h; cases h

theorem bind {α β : Type} {x : Noting α} {f : α → Noting β} (hx : Silent x) (hf : ∀ a, Silent (f a)) :
    Silent (x >>= f) := by
  intro b issues h
  rw [Noting.run_bind] at h
  split at h
  · cases h
  · next a noted hrun =>
    split at h
    · cases h
    · next _ more hrun' =>
      cases h
      rw [hx a noted hrun, hf a _ more hrun', List.append_nil]

theorem mapM {α β : Type} {f : α → Noting β} (h : ∀ a, Silent (f a)) : ∀ l : List α, Silent (l.mapM f)
  | [] => by simpa only [List.mapM_nil] using pure []
  | a :: l => by
    simp only [List.mapM_cons]
    exact (h a).bind fun b => (mapM h l).bind fun bs => pure (b :: bs)

theorem foldlM {α β : Type} {f : β → α → Noting β} (h : ∀ b a, Silent (f b a)) :
    ∀ (l : List α) (b : β), Silent (l.foldlM f b)
  | [], b => by simpa only [List.foldlM_nil] using pure b
  | a :: l, b => by
    simp only [List.foldlM_cons]
    exact (h b a).bind fun next => foldlM h l next

theorem ofStage (value : Text) (x : Outcome SubstitutionError Text) : Silent (Noting.ofStage .strict value x) := by
  match x with
  | .ok next => exact pure next
  | .error (.error e) => exact (refuse e).bind fun _ => pure value
  | .error .abort => intro a issues h; cases h

end Silent

/-! ## From the arguments of a call to a placeholder -/

namespace Engine

theorem typeOf_corresponds (token : Text) : Corresponds (typeOf .strict token) (typeOf .lenient token) := by
  unfold typeOf
  split
  · exact .pure _
  · exact (Corresponds.note _ _).bind fun _ _ _ => .pure _

theorem invoke_ne_abort {provider : Provider} (h : provider.Answers) (value : Text) (call : Call) :
    invoke provider value call call.types ≠ abort := by
  obtain ⟨args, -, heq⟩ := invoke_eq provider value call
  rw [heq]
  split
  · exact refuse_ne_abort _
  · next f hf =>
    have hne := h _ f hf value args
    match hv : f value args with
    | .ok t => intro hc; cases hc
    | .error (.error e) => exact refuse_ne_abort _
    | .error .abort => exact absurd hv hne

theorem runStage_corresponds {provider : Provider} (h : provider.Answers) (key value : Text)
    (stage : Option Call) :
    Corresponds (runStage ⟨provider, .strict⟩ key value stage)
      (runStage ⟨provider, .lenient⟩ key value stage) := by
  cases stage with
  | none => exact .ofStage (refuse_ne_abort _)
  | some call =>
    refine (Corresponds.mapM typeOf_corresponds call.args).bind fun types issues hrun => ?_
    rw [run_mapM_typeOf_lenient] at hrun
    cases hrun
    exact .ofStage (invoke_ne_abort h value call)

theorem evaluate_corresponds {provider : Provider} (h : provider.Answers) (params : Params) (body : Text) :
    Corresponds (evaluate ⟨provider, .strict⟩ params body) (evaluate ⟨provider, .lenient⟩ params body) := by
  cases hget : params.get? (Expression.parse body).key with
  | none =>
    rw [evaluate_of_get?_none _ hget, evaluate_of_get?_none _ hget]
    exact (Corresponds.note _ _).bind fun _ _ _ => .pure _
  | some value =>
    rw [evaluate_of_get?_some _ hget, evaluate_of_get?_some _ hget]
    exact .foldlM (runStage_corresponds h _) _ _

theorem runStage_silent (provider : Provider) (key value : Text) (stage : Option Call) :
    Silent (runStage ⟨provider, .strict⟩ key value stage) := by
  cases stage with
  | none => exact .ofStage value (refuse (.emptyStage key))
  | some call =>
    refine (Silent.mapM (fun token => ?_) call.args).bind fun types => .ofStage value _
    unfold typeOf
    split
    · exact .pure _
    · exact (Silent.refuse _).bind fun _ => .pure _

theorem evaluate_silent (provider : Provider) (params : Params) (body : Text) :
    Silent (evaluate ⟨provider, .strict⟩ params body) := by
  cases hget : params.get? (Expression.parse body).key with
  | none =>
    rw [evaluate_of_get?_none _ hget]
    exact (Silent.refuse _).bind fun _ => .pure _
  | some value =>
    rw [evaluate_of_get?_some _ hget]
    exact .foldlM (runStage_silent provider _) _ _

/-! ## Segments and patterns -/

theorem diagnostics_of_strict_segment {provider : Provider} {params : Params} {s : Segment} {part : Rendered}
    (h : renderSegment ⟨provider, .strict⟩ params s = .ok part) : part.diagnostics = [] := by
  cases s with
  | literal t => cases h; rfl
  | placeholder body =>
    rw [renderSegment_placeholder] at h
    obtain ⟨⟨t, issues⟩, hrun, rfl⟩ := Outcome.map_eq_ok.mp h
    rw [evaluate_silent provider params body t issues hrun]; rfl

theorem strict_diagnostics {provider : Provider} {params : Params} {segments : List Segment} {r : Rendered}
    (h : renderSegments ⟨provider, .strict⟩ params segments = .ok r) : r.diagnostics = [] := by
  obtain ⟨parts, hparts, rfl⟩ := renderSegments_eq_ok.mp h
  clear h
  induction hparts with
  | nil => rfl
  | cons hpart _ ih =>
    dsimp only at ih ⊢
    rw [List.flatMap_cons, diagnostics_of_strict_segment hpart, ih]; rfl

/-- Strict renderings with the same content are the same. -/
theorem eq_of_strict_content {provider : Provider} {params params' : Params} {p q : Text}
    (h : (render ⟨provider, .strict⟩ params p).map Rendered.content =
      (render ⟨provider, .strict⟩ params' q).map Rendered.content) :
    render ⟨provider, .strict⟩ params p = render ⟨provider, .strict⟩ params' q := by
  cases hp : render ⟨provider, .strict⟩ params p with
  | error e =>
    cases hq : render ⟨provider, .strict⟩ params' q with
    | error e' => rw [hp, hq] at h; cases h; rfl
    | ok r' => rw [hp, hq] at h; cases h
  | ok r =>
    cases hq : render ⟨provider, .strict⟩ params' q with
    | error e' => rw [hp, hq] at h; cases h
    | ok r' =>
      rw [hp, hq] at h
      have hr := strict_diagnostics hp
      have hr' := strict_diagnostics hq
      obtain ⟨t, ds⟩ := r
      obtain ⟨t', ds'⟩ := r'
      simp_all [Except.map, Rendered.content]

/-- What a strict rendering is where a lenient one is `r`. -/
def strictRendering (r : Rendered) : Outcome SubstitutionError Rendered :=
  match r.diagnostics with
  | [] => .ok r
  | first :: _ => refuse first.issue.error

theorem strictRendering_append (a b : Rendered) :
    strictRendering (a.append b) =
      (do let first ← strictRendering a
          let rest ← strictRendering b
          return first.append rest) := by
  obtain ⟨t, ds⟩ := a
  obtain ⟨u, es⟩ := b
  cases ds with
  | nil =>
    cases es with
    | nil => rfl
    | cons e es => rfl
  | cons d ds => rfl

theorem renderSegment_corresponds {provider : Provider} (h : provider.Answers) (params : Params) (s : Segment) :
    ∃ r, renderSegment ⟨provider, .lenient⟩ params s = .ok r ∧
      renderSegment ⟨provider, .strict⟩ params s = strictRendering r := by
  cases s with
  | literal t => exact ⟨⟨t, []⟩, rfl, rfl⟩
  | placeholder body =>
    obtain ⟨t, issues, hl, hs⟩ := evaluate_corresponds h params body
    refine ⟨⟨t, issues.map (Diagnostic.mk (enclose body))⟩, ?_, ?_⟩
    · rw [renderSegment_placeholder, hl]; rfl
    · rw [renderSegment_placeholder, hs]
      cases issues with
      | nil => rfl
      | cons issue rest => rfl

theorem renderSegments_corresponds {provider : Provider} (h : provider.Answers) (params : Params)
    (segments : List Segment) :
    ∃ r, renderSegments ⟨provider, .lenient⟩ params segments = .ok r ∧
      renderSegments ⟨provider, .strict⟩ params segments = strictRendering r := by
  induction segments with
  | nil => exact ⟨⟨[], []⟩, rfl, rfl⟩
  | cons s segments ih =>
    obtain ⟨a, hl, hs⟩ := renderSegment_corresponds h params s
    obtain ⟨b, hl', hs'⟩ := ih
    refine ⟨a.append b, ?_, ?_⟩
    · rw [renderSegments_cons, hl, hl']; rfl
    · rw [renderSegments_cons, hs, hs', strictRendering_append]

theorem exists_lenient_render {provider : Provider} (h : provider.Answers) (params : Params) (pattern : Text) :
    ∃ r, render ⟨provider, .lenient⟩ params pattern = .ok r := by
  obtain ⟨r, hr, -⟩ := renderSegments_corresponds h params (scan pattern)
  exact ⟨r, hr⟩

/-- **Strict and lenient rendering correspond.** When no function of the provider
ends the process, the lenient rendering is there; the strict one succeeds just
when nothing was tolerated, with the same text and no diagnostics, and otherwise
fails with the error of the first diagnostic. -/
theorem strict_render_of_lenient {provider : Provider} (h : provider.Answers) (params : Params)
    (pattern : Text) :
    ∃ r, render ⟨provider, .lenient⟩ params pattern = .ok r ∧
      ((∃ r', render ⟨provider, .strict⟩ params pattern = .ok r') ↔ r.diagnostics = []) ∧
      (r.diagnostics = [] → render ⟨provider, .strict⟩ params pattern = .ok ⟨r.text, []⟩) ∧
      ∀ first rest, r.diagnostics = first :: rest →
        render ⟨provider, .strict⟩ params pattern = refuse first.issue.error := by
  obtain ⟨⟨t, diagnostics⟩, hl, hs⟩ := renderSegments_corresponds h params (scan pattern)
  refine ⟨⟨t, diagnostics⟩, hl, ?_⟩
  unfold render
  rw [hs]
  cases diagnostics with
  | nil =>
    refine ⟨⟨fun _ => rfl, fun _ => ⟨_, rfl⟩⟩, fun _ => rfl, fun first rest heq => ?_⟩
    cases heq
  | cons d ds =>
    refine ⟨⟨?_, fun hc => ?_⟩, fun hc => ?_, ?_⟩
    · rintro ⟨r', hr'⟩; cases hr'
    · cases hc
    · cases hc
    · intro first rest heq; cases heq; rfl

/-- A provider whose functions all fail. -/
def failing : Provider := ⟨"failing".toList, fun _ => some fun _ _ => refuse (.failed "no".toList)⟩

theorem failing_answers : failing.Answers := by
  intro s f hf value args
  cases hf
  exact refuse_ne_abort _

/-- A pattern with an opaque argument, a blank stage and an unknown key. -/
def crooked : Text := "x ${a | f y | | g} ${b}".toList

/-- One parameter. -/
def onlyA : Params := Params.ofList [("a".toList, .string "v".toList)]

theorem strict_render_crooked :
    failing.Answers ∧
      ∃ r, render ⟨failing, .lenient⟩ onlyA crooked = .ok r ∧
        ((∃ r', render ⟨failing, .strict⟩ onlyA crooked = .ok r') ↔ r.diagnostics = []) ∧
        (r.diagnostics = [] → render ⟨failing, .strict⟩ onlyA crooked = .ok ⟨r.text, []⟩) ∧
        ∀ first rest, r.diagnostics = first :: rest →
          render ⟨failing, .strict⟩ onlyA crooked = refuse first.issue.error :=
  ⟨failing_answers, strict_render_of_lenient failing_answers onlyA crooked⟩

end Engine
end Placeholders

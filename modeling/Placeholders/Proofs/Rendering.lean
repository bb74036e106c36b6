/-
A rendering segment by segment: the text and the diagnostics of the segments one
after another, up to the first that fails. A placeholder is the pipeline of its
calls run from the text of its parameter, if there is one. The content of a
rendering is all of it but the places where its issues were met.
-/
import Placeholders.Render
import Mathlib.Data.List.Forall2

namespace Placeholders
open Pattern (Expression Segment enclose)

/-- A rendering but for where its issues were met. -/
def Rendered.content (r : Rendered) : Text × List Issue := (r.text, r.diagnostics.map Diagnostic.issue)

theorem Outcome.bind_eq_ok {ε α β : Type} {x : Outcome ε α} {f : α → Outcome ε β} {b : β} :
    (x >>= f) = .ok b ↔ ∃ a, x = .ok a ∧ f a = .ok b := by
  cases x with
  | error e => simp [bind, Except.bind]
  | ok a => simp [bind, Except.bind]

theorem Outcome.map_eq_ok {ε α β : Type} {x : Outcome ε α} {f : α → β} {b : β} :
    Except.map f x = .ok b ↔ ∃ a, x = .ok a ∧ f a = b := by
  cases x with
  | error e => simp [Except.map]
  | ok a => simp [Except.map]

theorem Outcome.mapM_eq_ok {ε α β : Type} {f : α → Outcome ε β} : ∀ {l : List α} {bs : List β},
    l.mapM f = .ok bs ↔ List.Forall₂ (fun a b => f a = .ok b) l bs
  | [], bs => by simp [pure, Except.pure, eq_comm]
  | a :: l, bs => by
    rw [List.mapM_cons, bind_eq_ok]
    constructor
    · rintro ⟨b, hb, h⟩
      obtain ⟨rest, hrest, h⟩ := bind_eq_ok.mp h
      cases h
      exact .cons hb (mapM_eq_ok.mp hrest)
    · intro h
      cases h with
      | cons hb hrest => exact ⟨_, hb, bind_eq_ok.mpr ⟨_, mapM_eq_ok.mpr hrest, rfl⟩⟩

namespace Engine

theorem renderSegments_cons (engine : Engine) (params : Params) (s : Segment) (ss : List Segment) :
    engine.renderSegments params (s :: ss) =
      (do let first ← engine.renderSegment params s
          let rest ← engine.renderSegments params ss
          return first.append rest) := by
  unfold renderSegments
  rw [List.mapM_cons]
  cases engine.renderSegment params s with
  | error e => rfl
  | ok first =>
    cases List.mapM (engine.renderSegment params) ss with
    | error e => rfl
    | ok rest => rfl

/-- A rendering that succeeds is made of one part for each segment, in order. -/
theorem renderSegments_eq_ok {engine : Engine} {params : Params} {segments : List Segment} {r : Rendered} :
    engine.renderSegments params segments = .ok r ↔
      ∃ parts, List.Forall₂ (fun s part => engine.renderSegment params s = .ok part) segments parts ∧
        ⟨parts.flatMap Rendered.text, parts.flatMap Rendered.diagnostics⟩ = r := by
  unfold renderSegments
  simp only [Outcome.map_eq_ok, Outcome.mapM_eq_ok]

/-- Segments that each give a part give all of them one after the other. -/
theorem renderSegments_of_parts {engine : Engine} {params : Params} {segments : List Segment}
    {part : Segment → Rendered} (h : ∀ s ∈ segments, engine.renderSegment params s = .ok (part s)) :
    engine.renderSegments params segments =
      .ok ⟨segments.flatMap fun s => (part s).text, segments.flatMap fun s => (part s).diagnostics⟩ := by
  refine renderSegments_eq_ok.mpr ⟨segments.map part, ?_, ?_⟩
  · rw [List.forall₂_map_right_iff, List.forall₂_same]
    exact h
  · rw [List.flatMap_map, List.flatMap_map]

theorem renderSegment_placeholder (engine : Engine) (params : Params) (body : Text) :
    engine.renderSegment params (.placeholder body) =
      (engine.evaluate params body).run.map fun (t, issues) =>
        ⟨t, issues.map (Diagnostic.mk (enclose body))⟩ := rfl

theorem evaluate_of_get?_none {params : Params} {body : Text} (engine : Engine)
    (h : params.get? (Expression.parse body).key = none) :
    engine.evaluate params body =
      (do note engine.mode .warning (.missingKey (Expression.parse body).key)
          return enclose body) := by
  simp only [evaluate, h]

theorem evaluate_of_get?_some {params : Params} {body : Text} {value : ParamValue} (engine : Engine)
    (h : params.get? (Expression.parse body).key = some value) :
    engine.evaluate params body =
      (Expression.parse body).calls.foldlM (engine.runStage (Expression.parse body).key) value.toText := by
  simp only [evaluate, h]

/-! ## Content -/

theorem content_renderSegment_placeholder (engine : Engine) (params : Params) (body : Text) :
    (engine.renderSegment params (.placeholder body)).map Rendered.content =
      (engine.evaluate params body).run := by
  rw [renderSegment_placeholder]
  cases (engine.evaluate params body).run with
  | error e => rfl
  | ok result =>
    obtain ⟨t, issues⟩ := result
    simp [Except.map, Rendered.content, Function.comp_def]

theorem content_renderSegments_cons (engine : Engine) (params : Params) (s : Segment) (ss : List Segment) :
    (engine.renderSegments params (s :: ss)).map Rendered.content =
      (do let first ← (engine.renderSegment params s).map Rendered.content
          let rest ← (engine.renderSegments params ss).map Rendered.content
          return (first.1 ++ rest.1, first.2 ++ rest.2)) := by
  rw [renderSegments_cons]
  cases engine.renderSegment params s with
  | error e => rfl
  | ok first =>
    cases engine.renderSegments params ss with
    | error e => rfl
    | ok rest => simp [bind, Except.bind, pure, Except.pure, Except.map, Rendered.content, Rendered.append]

/-- Segments that give the same content one by one give the same content. -/
theorem content_renderSegments_congr {engine : Engine} {params : Params} {f : Segment → Segment} :
    ∀ {segments : List Segment},
      (∀ s ∈ segments, (engine.renderSegment params (f s)).map Rendered.content =
        (engine.renderSegment params s).map Rendered.content) →
      (engine.renderSegments params (segments.map f)).map Rendered.content =
        (engine.renderSegments params segments).map Rendered.content
  | [], _ => rfl
  | s :: segments, h => by
    rw [List.map_cons, content_renderSegments_cons, content_renderSegments_cons, h s List.mem_cons_self,
      content_renderSegments_congr fun s' hs' => h s' (List.mem_cons_of_mem s hs')]

end Engine
end Placeholders

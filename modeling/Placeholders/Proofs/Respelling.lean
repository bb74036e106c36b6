/-
Printing back what an inspection shows. Literals are copied; a placeholder is
written with a space on either side of its key and of its stages, and the tokens
of a stage with a space between them (`reprint`). The text that comes out shows
the same structure and renders to the same result (`inspect_reprint`).

Three readers are stacked, and each has to read back what is written in the
context the others make: a literal opens nothing new, since in front of a
placeholder it can hold no opening that waits for a brace (`Passes.of_opens`);
blank stages survive, since a written body ends in a space (`parse_written`); and
a quote mark finds no new partner (`tokenize_intercalate`).
-/
import Placeholders.Inspect
import Placeholders.Proofs.Bodies
import Placeholders.Proofs.Segmentation
import Placeholders.Proofs.Tokens
import Placeholders.Proofs.Tolerance

namespace Placeholders
open Pattern

/-! ## Printing -/

namespace StageView

/-- The function of a stage and its argument tokens; none for a blank stage. -/
def tokens (s : StageView) : List Text :=
  match s.function with
  | none => []
  | some function => function :: s.args.map Prod.fst

/-- A stage, with its bar, in plain spelling. -/
def print (s : StageView) : Text := " | ".toList ++ List.intercalate [' '] s.tokens

/-- A stage without its raw text. -/
def withoutRaw (s : StageView) : StageView := { s with raw := [] }

end StageView

namespace SegmentView

/-- A segment in plain spelling. -/
def print : SegmentView → Text
  | literal t => t
  | placeholder _ key stages => enclose (' ' :: (key ++ (stages.flatMap StageView.print ++ [' '])))

/-- A segment without its raw texts. -/
def withoutRaw : SegmentView → SegmentView
  | literal t => literal t
  | placeholder _ key stages => placeholder [] key (stages.map StageView.withoutRaw)

end SegmentView

/-- A pattern from the segments of an inspection. -/
def reprint (segments : List SegmentView) : Text := segments.flatMap SegmentView.print

/-- The parameters have every key of the segments. -/
def Params.HasKeys (params : Params) (segments : List SegmentView) : Prop :=
  ∀ raw key stages, .placeholder raw key stages ∈ segments → params.contains key = true

/-! ## A body in plain spelling -/

namespace Pattern

/-- A body in plain spelling. -/
def respellBody (body : Text) : Text :=
  Expression.written (Expression.parse body).key
    ((Expression.parse body).stages.map fun s => List.intercalate [' '] (tokenize s))

theorem tokenize_respelled (stage : Text) :
    tokenize (Text.trim (List.intercalate [' '] (tokenize stage))) = tokenize stage := by
  rw [tokenize_trim, tokenize_intercalate]

/-- A respelled stage has spaces and characters of the stage. -/
theorem mem_respelled {stage : Text} {c : Char} (h : c ∈ List.intercalate [' '] (tokenize stage)) :
    c = ' ' ∨ c ∈ stage := by
  rcases mem_intercalate_space h with hspace | ⟨t, ht, hc⟩
  · exact .inl hspace
  · exact .inr (mem_of_mem_tokenize ht hc)

/-- Respelled stages have spaces and characters of the body, and no bars. -/
theorem mem_respelled_stage {body t : Text}
    (ht : t ∈ (Expression.parse body).stages.map fun s => List.intercalate [' '] (tokenize s)) {c : Char}
    (hc : c ∈ t) : c = ' ' ∨ c ≠ '|' ∧ c ∈ body := by
  obtain ⟨stage, hstage, rfl⟩ := List.mem_map.mp ht
  rcases mem_respelled hc with hspace | hmem
  · exact .inl hspace
  · exact .inr (Expression.mem_stage hstage hmem)

theorem bar_not_mem_respelled {body t : Text}
    (ht : t ∈ (Expression.parse body).stages.map fun s => List.intercalate [' '] (tokenize s)) : '|' ∉ t := by
  intro hbar
  rcases mem_respelled_stage ht hbar with h | h
  · cases h
  · exact h.1 rfl

theorem parse_respellBody (body : Text) :
    Expression.parse (respellBody body) =
      ⟨(Expression.parse body).key,
        (Expression.parse body).stages.map fun s => Text.trim (List.intercalate [' '] (tokenize s))⟩ := by
  have hkey : '|' ∉ (Expression.parse body).key := fun h => (Expression.mem_key h).1 rfl
  unfold respellBody
  rw [Expression.parse_written hkey fun _ => bar_not_mem_respelled, Expression.trim_key, List.map_map]
  rfl

theorem calls_respellBody (body : Text) :
    (Expression.parse (respellBody body)).calls = (Expression.parse body).calls := by
  have hkey : '|' ∉ (Expression.parse body).key := fun h => (Expression.mem_key h).1 rfl
  unfold respellBody
  rw [Expression.calls_written hkey fun _ => bar_not_mem_respelled, Expression.calls, List.map_map]
  exact List.map_congr_left fun s _ => parse?_of_tokenize_eq (tokenize_intercalate s)

theorem isBody_respellBody {body : Text} (h : IsBody body) : IsBody (respellBody body) := by
  refine Expression.isBody_written (fun hbrace => h.2 (Expression.mem_key hbrace).2) fun s hs hbrace => ?_
  rcases mem_respelled_stage hs hbrace with hspace | hmem
  · cases hspace
  · exact h.2 hmem.2

/-! ## A pattern in plain spelling -/

/-- A segment with its body in plain spelling. -/
def Segment.respell : Segment → Segment
  | .literal t => .literal t
  | .placeholder body => .placeholder (respellBody body)

theorem respell_eq_mapBody : Segment.respell = Segment.mapBody respellBody := by
  funext s
  cases s <;> rfl

end Pattern

theorem tokens_of (stage : Text) : (StageView.of stage).tokens = tokenize stage := by
  unfold StageView.of Call.parse?
  cases tokenize stage with
  | nil => rfl
  | cons function args => simp [StageView.tokens, Function.comp_def]

theorem print_of (s : Segment) : (SegmentView.of s).print = s.respell.text := by
  cases s with
  | literal t => rfl
  | placeholder body =>
    simp only [SegmentView.of, SegmentView.print, Segment.respell, Segment.text, respellBody,
      Expression.written, List.flatMap_map, StageView.print, tokens_of]

/-- What is printed back is scanned into the same segments in plain spelling. -/
theorem scan_reprint (pattern : Text) :
    scan (reprint (inspect pattern)) = (scan pattern).map Segment.respell := by
  have hprint : reprint (inspect pattern) = ((scan pattern).map Segment.respell).flatMap Segment.text := by
    simp only [reprint, inspect, List.flatMap_map, print_of]
  rw [hprint, respell_eq_mapBody]
  exact scan_mapBody (fun _ => isBody_respellBody) pattern

theorem withoutRaw_of_parse?_eq {s t : Text} (h : Call.parse? s = Call.parse? t) :
    (StageView.of s).withoutRaw = (StageView.of t).withoutRaw := by
  unfold StageView.of
  rw [h]
  cases Call.parse? t <;> rfl

theorem withoutRaw_respell (s : Segment) :
    (SegmentView.of s.respell).withoutRaw = (SegmentView.of s).withoutRaw := by
  cases s with
  | literal t => rfl
  | placeholder body =>
    simp only [SegmentView.of, Segment.respell, SegmentView.withoutRaw, parse_respellBody, List.map_map]
    congr 1
    exact List.map_congr_left fun s _ => withoutRaw_of_parse?_eq (parse?_of_tokenize_eq (tokenize_respelled s))

/-! ## Rendering what is printed back -/

namespace Engine

theorem evaluate_respellBody (engine : Engine) {params : Params} {body : Text}
    (h : params.contains (Expression.parse body).key = true) :
    engine.evaluate params (respellBody body) = engine.evaluate params body := by
  rw [Params.contains_eq] at h
  obtain ⟨value, hget⟩ := Option.isSome_iff_exists.mp h
  have hkey : (Expression.parse (respellBody body)).key = (Expression.parse body).key := by
    rw [parse_respellBody]
  rw [evaluate_of_get?_some engine hget, evaluate_of_get?_some engine (hkey ▸ hget), hkey, calls_respellBody]

/-- In either mode, what is printed back has the content of the pattern. -/
theorem content_render_reprint (engine : Engine) {params : Params} {pattern : Text}
    (h : params.HasKeys (inspect pattern)) :
    (engine.render params (reprint (inspect pattern))).map Rendered.content =
      (engine.render params pattern).map Rendered.content := by
  unfold render
  rw [scan_reprint]
  refine content_renderSegments_congr fun s hs => ?_
  cases s with
  | literal t => rfl
  | placeholder body =>
    have hkey := h _ _ _ (List.mem_map_of_mem (f := SegmentView.of) hs)
    simp only [Segment.respell]
    rw [content_renderSegment_placeholder, content_renderSegment_placeholder, evaluate_respellBody engine hkey]

end Engine

/-- **Printing back keeps structure and meaning.** The pattern printed from an
inspection shows the same segments but for their raw texts; and with every key
at hand it renders to the same text and the same issues leniently, and strictly
to the same result. -/
theorem inspect_reprint (pattern : Text) :
    (inspect (reprint (inspect pattern))).map SegmentView.withoutRaw =
        (inspect pattern).map SegmentView.withoutRaw ∧
      ∀ (provider : Provider) (params : Params), params.HasKeys (inspect pattern) →
        (Engine.render ⟨provider, .lenient⟩ params (reprint (inspect pattern))).map Rendered.content =
            (Engine.render ⟨provider, .lenient⟩ params pattern).map Rendered.content ∧
          Engine.render ⟨provider, .strict⟩ params (reprint (inspect pattern)) =
            Engine.render ⟨provider, .strict⟩ params pattern := by
  refine ⟨?_, fun provider params h => ⟨?_, ?_⟩⟩
  · have hscan := scan_reprint pattern
    simp only [inspect, List.map_map] at hscan ⊢
    rw [hscan, List.map_map]
    exact List.map_congr_left fun s _ => withoutRaw_respell s
  · exact Engine.content_render_reprint ⟨provider, .lenient⟩ h
  · exact Engine.eq_of_strict_content (Engine.content_render_reprint ⟨provider, .strict⟩ h)

/-- A dollar in front of a placeholder, two lone quotes, a blank stage and bars at the end. -/
def tangled : Text := '$' :: (enclose "a|f 'b  c' it's | |\tg \"x' \" '||".toList ++ ['.'])

example : reprint (inspect tangled) =
    '$' :: (enclose " a | f 'b  c' it's |  | g \"x' \" ' ".toList ++ ['.']) := by decide +kernel

theorem onlyA_hasKeys : Engine.onlyA.HasKeys (inspect tangled) := by
  have hall : (inspect tangled).all (fun s => match s with
      | .literal _ => true
      | .placeholder _ key _ => Engine.onlyA.contains key) = true := by decide +kernel
  intro raw key stages hmem
  exact List.all_eq_true.mp hall _ hmem

theorem inspect_reprint_tangled :
    Engine.onlyA.HasKeys (inspect tangled) ∧
      (Engine.render ⟨Engine.failing, .lenient⟩ Engine.onlyA (reprint (inspect tangled))).map Rendered.content =
          (Engine.render ⟨Engine.failing, .lenient⟩ Engine.onlyA tangled).map Rendered.content ∧
        Engine.render ⟨Engine.failing, .strict⟩ Engine.onlyA (reprint (inspect tangled)) =
          Engine.render ⟨Engine.failing, .strict⟩ Engine.onlyA tangled :=
  ⟨onlyA_hasKeys, (inspect_reprint tangled).2 Engine.failing Engine.onlyA onlyA_hasKeys⟩

end Placeholders

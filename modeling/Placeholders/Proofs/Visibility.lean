/-
What a rendering sees of its parameters: under each key that its pattern mentions
the text of the value, or that there is none, and nothing else (`render_of_texts`).
Whether there is a value does show, since a key that is missing is reported
(`reports_missingKey_iff`).

The keys that some pattern mentions are those that can be written, so an entry
under any other key has no part in any rendering (`isVisible_iff`), be it set in
the settings, in a file or by a variable.
-/
import Placeholders.Inspect
import Placeholders.Program.Inputs
import Placeholders.Proofs.Pipelines
import Placeholders.Proofs.Providers

namespace Placeholders
open Pattern (Expression Segment enclose scan)

/-- The text of a parameter. -/
def Params.text? (params : Params) (key : Text) : Option Text := (params.get? key).map ParamValue.toText

theorem Params.text?_eq_none {params : Params} {key : Text} :
    params.text? key = none ↔ params.get? key = none := Option.map_eq_none_iff

/-! ## The keys of a pattern -/

/-- The key of a segment, if it is a placeholder. -/
def Pattern.Segment.key? : Segment → Option Text
  | .literal _ => none
  | .placeholder body => some (Expression.parse body).key

/-- An inspection of the pattern shows a placeholder with this key. -/
def Mentions (pattern key : Text) : Prop := ∃ raw stages, .placeholder raw key stages ∈ inspect pattern

theorem segmentView_of_eq {s : Segment} {key : Text} :
    (∃ raw stages, SegmentView.of s = .placeholder raw key stages) ↔ s.key? = some key := by
  cases s with
  | literal t => simp [SegmentView.of, Segment.key?]
  | placeholder body => simp [SegmentView.of, Segment.key?]

theorem mentions_iff {pattern key : Text} : Mentions pattern key ↔ ∃ s ∈ scan pattern, s.key? = some key := by
  unfold Mentions inspect
  constructor
  · rintro ⟨raw, stages, h⟩
    obtain ⟨s, hs, heq⟩ := List.mem_map.mp h
    exact ⟨s, hs, segmentView_of_eq.mp ⟨raw, stages, heq⟩⟩
  · rintro ⟨s, hs, hkey⟩
    obtain ⟨raw, stages, heq⟩ := segmentView_of_eq.mpr hkey
    exact ⟨raw, stages, List.mem_map.mpr ⟨s, hs, heq⟩⟩

/-- A key that a pattern mentions can be written. -/
theorem Mentions.isKey {pattern key : Text} (h : Mentions pattern key) : IsKey key := by
  obtain ⟨s, hs, hkey⟩ := mentions_iff.mp h
  cases s with
  | literal t => cases hkey
  | placeholder body =>
    cases hkey
    exact isKey_of_isBody ((Pattern.segmented_scan pattern).isSegmentation.bodies body hs)

namespace Engine

/-! ## Texts that agree -/

section
variable {params params' : Params} (engine : Engine)

theorem evaluate_of_text {body : Text}
    (h : params.text? (Expression.parse body).key = params'.text? (Expression.parse body).key) :
    engine.evaluate params body = engine.evaluate params' body := by
  cases hget : params.get? (Expression.parse body).key with
  | none =>
    rw [Params.text?_eq_none.mpr hget] at h
    rw [evaluate_of_get?_none _ hget, evaluate_of_get?_none _ (Params.text?_eq_none.mp h.symm)]
  | some value =>
    obtain ⟨value', hget', htext⟩ : ∃ value', params'.get? (Expression.parse body).key = some value' ∧
        value'.toText = value.toText := by
      unfold Params.text? at h
      rw [hget] at h
      exact Option.map_eq_some_iff.mp h.symm
    rw [evaluate_of_get?_some _ hget, evaluate_of_get?_some _ hget', htext]

theorem renderSegment_of_text {s : Segment}
    (h : ∀ key, s.key? = some key → params.text? key = params'.text? key) :
    engine.renderSegment params s = engine.renderSegment params' s := by
  cases s with
  | literal t => rfl
  | placeholder body => rw [renderSegment_placeholder, renderSegment_placeholder, evaluate_of_text engine (h _ rfl)]

theorem renderSegments_of_texts :
    ∀ {segments : List Segment},
      (∀ s ∈ segments, ∀ key, s.key? = some key → params.text? key = params'.text? key) →
      engine.renderSegments params segments = engine.renderSegments params' segments
  | [], _ => rfl
  | s :: segments, h => by
    rw [renderSegments_cons, renderSegments_cons, renderSegment_of_text engine (h s List.mem_cons_self),
      renderSegments_of_texts fun s' hs' => h s' (List.mem_cons_of_mem s hs')]

/-- Parameters with the same texts under the keys of a pattern render it alike. -/
theorem render_of_mentioned {pattern : Text}
    (h : ∀ key, Mentions pattern key → params.text? key = params'.text? key) :
    engine.render params pattern = engine.render params' pattern :=
  renderSegments_of_texts engine fun s hs key hkey => h key (mentions_iff.mpr ⟨s, hs, hkey⟩)

end

/-! ## Keys that are missing -/

section
variable {provider : Provider} {params : Params}

theorem LenientStage.error_ne_missingKey {key value next : Text} {stage : Option Pattern.Call} {issues : List Issue}
    (h : LenientStage provider key value stage next issues) :
    ∀ i ∈ issues, ∀ missing, i.error ≠ .missingKey missing := by
  have hargs : ∀ args, ∀ i ∈ argumentIssues args, ∀ missing, i.error ≠ .missingKey missing := by
    intro args i hi missing
    obtain ⟨token, -, rfl⟩ := List.mem_map.mp hi
    simp
  cases h with
  | blank => simp
  | notFound _ => exact List.forall_mem_append.mpr ⟨hargs _, by simp⟩
  | failed _ _ _ => exact List.forall_mem_append.mpr ⟨hargs _, by simp⟩
  | applied _ _ _ => exact hargs _

theorem error_ne_missingKey_of_run {key : Text} :
    ∀ {stages : List (Option Pattern.Call)} {value t : Text} {issues : List Issue},
      (stages.foldlM (runStage ⟨provider, .lenient⟩ key) value).run = .ok (t, issues) →
      ∀ i ∈ issues, ∀ missing, i.error ≠ .missingKey missing
  | [], _, _, _, h => by
    cases h
    simp
  | stage :: stages, value, t, issues, h => by
    rw [List.foldlM_cons] at h
    obtain ⟨next, noted, more, hstage, hrest, rfl⟩ := Noting.run_bind_eq_ok.mp h
    exact List.forall_mem_append.mpr
      ⟨(lenientStage_of_run hstage).error_ne_missingKey, error_ne_missingKey_of_run hrest⟩

theorem missingKey_mem_segment {s : Segment} {part : Rendered}
    (h : renderSegment ⟨provider, .lenient⟩ params s = .ok part) (key : Text) :
    (∃ d ∈ part.diagnostics, d.issue.error = .missingKey key) ↔ s.key? = some key ∧ params.get? key = none := by
  cases s with
  | literal t =>
    cases h
    simp [Segment.key?]
  | placeholder body =>
    rw [renderSegment_placeholder] at h
    obtain ⟨⟨t, issues⟩, hrun, rfl⟩ := Outcome.map_eq_ok.mp h
    cases hget : params.get? (Expression.parse body).key with
    | none =>
      rw [evaluate_of_get?_none _ hget] at hrun
      cases hrun
      constructor
      · rintro ⟨d, hd, herror⟩
        rw [List.mem_singleton.mp hd] at herror
        cases herror
        exact ⟨rfl, hget⟩
      · rintro ⟨hkey, -⟩
        cases hkey
        exact ⟨_, List.mem_cons_self, rfl⟩
    | some value =>
      rw [evaluate_of_get?_some _ hget] at hrun
      constructor
      · rintro ⟨d, hd, herror⟩
        obtain ⟨i, hi, rfl⟩ := List.mem_map.mp hd
        exact absurd herror (error_ne_missingKey_of_run hrun i hi key)
      · rintro ⟨hkey, hnone⟩
        cases hkey
        rw [hget] at hnone
        cases hnone

theorem missingKey_mem_segments {segments : List Segment} {r : Rendered}
    (h : renderSegments ⟨provider, .lenient⟩ params segments = .ok r) (key : Text) :
    (∃ d ∈ r.diagnostics, d.issue.error = .missingKey key) ↔
      (∃ s ∈ segments, s.key? = some key) ∧ params.get? key = none := by
  induction segments generalizing r with
  | nil =>
    cases h
    simp
  | cons s segments ih =>
    rw [renderSegments_cons] at h
    obtain ⟨part, hpart, h⟩ := Outcome.bind_eq_ok.mp h
    obtain ⟨rest, hrest, h⟩ := Outcome.bind_eq_ok.mp h
    cases h
    have hparts : (∃ d ∈ part.diagnostics ++ rest.diagnostics, d.issue.error = .missingKey key) ↔
        (∃ d ∈ part.diagnostics, d.issue.error = .missingKey key) ∨
          ∃ d ∈ rest.diagnostics, d.issue.error = .missingKey key := by
      simp only [List.mem_append, or_and_right, exists_or]
    show (∃ d ∈ part.diagnostics ++ rest.diagnostics, d.issue.error = .missingKey key) ↔ _
    rw [hparts, missingKey_mem_segment hpart, ih hrest, List.exists_mem_cons_iff, or_and_right]

/-- The keys that a lenient rendering reports are those of the pattern that have no value. -/
theorem reports_missingKey_iff {pattern : Text} {r : Rendered}
    (h : render ⟨provider, .lenient⟩ params pattern = .ok r) (key : Text) :
    (∃ d ∈ r.diagnostics, d.issue.error = .missingKey key) ↔ Mentions pattern key ∧ params.get? key = none := by
  rw [mentions_iff]
  exact missingKey_mem_segments h key

/-- Whether a key that is mentioned has a value shows in a lenient rendering. -/
theorem render_ne_of_missing {params' : Params} (hanswers : provider.Answers) {pattern key : Text}
    (hkey : Mentions pattern key) (hnone : params.get? key = none) (hsome : params'.get? key ≠ none) :
    render ⟨provider, .lenient⟩ params pattern ≠ render ⟨provider, .lenient⟩ params' pattern := by
  intro heq
  obtain ⟨r, hr⟩ := exists_lenient_render hanswers params pattern
  have hmissing := (reports_missingKey_iff hr key).mpr ⟨hkey, hnone⟩
  exact hsome ((reports_missingKey_iff (heq ▸ hr) key).mp hmissing).2

end

/-- **A rendering sees the texts under the keys of its pattern**, and nothing else of
the parameters: neither what kind of value a text is of, nor the other entries. It
does see whether there is a value. -/
theorem render_of_texts (pattern : Text) :
    (∀ (engine : Engine) (params params' : Params),
      (∀ key, Mentions pattern key → params.text? key = params'.text? key) →
      engine.render params pattern = engine.render params' pattern) ∧
    ∀ provider : Provider, provider.Answers → ∀ (params params' : Params) (key : Text), Mentions pattern key →
      params.get? key = none → params'.get? key ≠ none →
      render ⟨provider, .lenient⟩ params pattern ≠ render ⟨provider, .lenient⟩ params' pattern :=
  ⟨fun engine _ _ h => render_of_mentioned engine h,
    fun _ hanswers _ _ _ hkey hnone hsome => render_ne_of_missing hanswers hkey hnone hsome⟩

/-- A number, and an entry that is not asked for. -/
def counted : Params := Params.ofList [(['n'], .integer 2), ([' ', 'm'], .bool true)]

/-- The numeral as a text, and another such entry. -/
def worded : Params := Params.ofList [(['n'], .string ['2']), (['M'], .string ['2'])]

/-- A key with a call by types, and one that is missing. -/
def reading : Text := "${n | pad_left 3}${ m | f}".toList

theorem render_of_texts_reading :
    (∀ key, Mentions reading key → counted.text? key = worded.text? key) ∧
      (∀ mode, render ⟨standard.toProvider, mode⟩ counted reading = render ⟨standard.toProvider, mode⟩ worded reading) ∧
      failing.Answers ∧ Mentions reading ['m'] ∧ counted.get? ['m'] = none ∧
      (counted.insert ['m'] (.bool true)).get? ['m'] ≠ none ∧
      render ⟨failing, .lenient⟩ counted reading ≠
        render ⟨failing, .lenient⟩ (counted.insert ['m'] (.bool true)) reading := by
  have hkeys : (scan reading).filterMap Segment.key? = [['n'], ['m']] := by cbv
  have hn : counted.text? ['n'] = worded.text? ['n'] := by cbv
  have hm : counted.text? ['m'] = worded.text? ['m'] := by cbv
  have hagree : ∀ key, Mentions reading key → counted.text? key = worded.text? key := by
    intro key hkey
    have hmem : key ∈ [['n'], ['m']] := hkeys ▸ List.mem_filterMap.mpr (mentions_iff.mp hkey)
    simp only [List.mem_cons, List.not_mem_nil, or_false] at hmem
    rcases hmem with rfl | rfl
    · exact hn
    · exact hm
  have hmentions : Mentions reading ['m'] :=
    mentions_iff.mpr (List.mem_filterMap.mp (hkeys.symm ▸ List.mem_cons_of_mem _ List.mem_cons_self))
  have hnone : counted.get? ['m'] = none := by cbv
  have hsome : (counted.insert ['m'] (.bool true)).get? ['m'] ≠ none := by
    rw [Params.get?_insert, if_pos rfl]
    exact Option.some_ne_none _
  obtain ⟨hsame, hdiffer⟩ := render_of_texts reading
  exact ⟨hagree, fun mode => hsame ⟨standard.toProvider, mode⟩ counted worded hagree, failing_answers, hmentions,
    hnone, hsome, hdiffer _ failing_answers _ _ _ hmentions hnone hsome⟩

end Engine

/-! ## Parameters that differ under one key -/

/-- One more element in a traversal that succeeds. -/
theorem map_mapM_insert {ε α β γ : Type} {f : α → Except ε β} {g : List β → γ} {before after : List α} {c : γ} {a : α}
    {b : β} (h : ((before ++ after).mapM f).map g = .ok c) (ha : f a = .ok b) :
    ∃ first rest, g (first ++ rest) = c ∧ ((before ++ a :: after).mapM f).map g = .ok (g (first ++ b :: rest)) := by
  rw [List.mapM_append] at h
  rw [List.mapM_append, List.mapM_cons, ha]
  cases hfirst : before.mapM f with
  | error e =>
    rw [hfirst] at h
    cases h
  | ok first =>
    rw [hfirst] at h
    cases hrest : after.mapM f with
    | error e =>
      rw [hrest] at h
      cases h
    | ok rest =>
      rw [hrest] at h
      cases h
      exact ⟨first, rest, rfl, rfl⟩

/-- The parameters have the same entries but for this key. -/
def Params.AgreeBut (key : Text) (params params' : Params) : Prop :=
  ∀ other, other ≠ key → params.get? other = params'.get? other

namespace Params.AgreeBut

variable {key : Text} {params params' : Params}

theorem insert_self (key : Text) (value : ParamValue) (params : Params) :
    AgreeBut key (params.insert key value) params := by
  intro other hother
  rw [get?_insert, if_neg hother.symm]

theorem insert (h : AgreeBut key params params') (k : Text) (value : ParamValue) :
    AgreeBut key (params.insert k value) (params'.insert k value) := by
  intro other hother
  rw [get?_insert, get?_insert, h other hother]

theorem foldl_insert (h : AgreeBut key params params') (entries : List (Text × ParamValue)) :
    AgreeBut key (entries.foldl (fun p (k, value) => p.insert k value) params)
      (entries.foldl (fun p (k, value) => p.insert k value) params') := by
  induction entries generalizing params params' with
  | nil => exact h
  | cons entry entries ih => exact ih (h.insert entry.1 entry.2)

/-- What an entry changes, those after it leave or overwrite. -/
theorem ofList (key : Text) (value : ParamValue) (before after : List (Text × ParamValue)) :
    AgreeBut key (Params.ofList (before ++ (key, value) :: after)) (Params.ofList (before ++ after)) := by
  unfold Params.ofList
  rw [List.foldl_append, List.foldl_append, List.foldl_cons]
  exact (insert_self key value _).foldl_insert after

theorem extend (h : AgreeBut key params params') (base : Params) :
    AgreeBut key (base.extend params) (base.extend params') := by
  intro other hother
  rw [get?_extend, get?_extend, h other hother]

/-- One more variable changes the entry of its key only. -/
theorem ofVariables {before after : List Text} {word value : Text} (hcut : word.cutAt '=' = some (key, value))
    (h : Params.ofVariables (before ++ after) = .ok params) :
    ∃ params', Params.ofVariables (before ++ word :: after) = .ok params' ∧ AgreeBut key params' params := by
  unfold Params.ofVariables at h ⊢
  obtain ⟨first, rest, rfl, hmore⟩ := map_mapM_insert h (by rw [hcut])
  exact ⟨_, hmore, ofList key (.string value) first rest⟩

end Params.AgreeBut

namespace Engine

/-! ## Keys that can be written -/

/-- Some lenient rendering changes with the text of this key alone. -/
def IsVisible (key : Text) : Prop :=
  ∃ (provider : Provider) (pattern : Text) (params params' : Params), params.AgreeBut key params' ∧
    params.text? key ≠ params'.text? key ∧
    render ⟨provider, .lenient⟩ params pattern ≠ render ⟨provider, .lenient⟩ params' pattern

/-- A placeholder of a key alone gives way to the text of the key, or is left and reported. -/
theorem content_render_key {key : Text} (hkey : IsKey key) (provider : Provider) (params : Params) :
    (render ⟨provider, .lenient⟩ params (pipelineText key [])).map Rendered.content =
      .ok (match params.text? key with
        | none => (pipelineText key [], [⟨.warning, .missingKey key⟩])
        | some t => (t, [])) := by
  have hstages : ∀ s ∈ [], IsPart s := List.forall_mem_nil _
  rw [content_render_pipeline hkey hstages]
  unfold Params.text?
  cases hget : params.get? key with
  | none =>
    have hparsed : (Expression.parse (Expression.written key [])).key = key := by
      rw [Expression.parse_written hkey.plain.1 (List.forall_mem_nil _)]
      exact hkey.trimmed
    rw [evaluate_of_get?_none _ (hparsed.symm ▸ hget), hparsed]
    rfl
  | some value =>
    rw [evaluate_written hkey hstages hget]
    rfl

theorem render_key_ne {key : Text} (hkey : IsKey key) (provider : Provider) {params params' : Params}
    (h : params.text? key ≠ params'.text? key) :
    render ⟨provider, .lenient⟩ params (pipelineText key []) ≠
      render ⟨provider, .lenient⟩ params' (pipelineText key []) := by
  intro heq
  have hcontent := content_render_key hkey provider params
  rw [heq, content_render_key hkey provider params'] at hcontent
  cases ht : params.text? key with
  | none =>
    cases ht' : params'.text? key with
    | none => exact h (ht.trans ht'.symm)
    | some t' => simp [ht, ht'] at hcontent
  | some t =>
    cases ht' : params'.text? key with
    | none => simp [ht, ht'] at hcontent
    | some t' =>
      simp only [ht, ht', Except.ok.injEq, Prod.mk.injEq, and_true] at hcontent
      exact h (by rw [ht, ht', hcontent])

theorem render_of_agreeBut {key : Text} (hkey : ¬ IsKey key) {params params' : Params}
    (h : params.AgreeBut key params') (engine : Engine) (pattern : Text) :
    engine.render params pattern = engine.render params' pattern := by
  refine render_of_mentioned engine fun other hother => ?_
  have hne : other ≠ key := fun heq => hkey (heq ▸ hother.isKey)
  unfold Params.text?
  rw [h other hne]

/-- **The keys that matter are those that can be written**: trimmed, without a bar and a
closing brace. The text under such a key, and whether there is one, shows where the key
stands alone. Under any other key an entry has no part in any rendering, and a
variable that sets one may as well be left out. -/
theorem isVisible_iff (key : Text) :
    (IsVisible key ↔ IsKey key) ∧
    (IsKey key → ∀ (provider : Provider) (params params' : Params), params.text? key ≠ params'.text? key →
      render ⟨provider, .lenient⟩ params (pipelineText key []) ≠
        render ⟨provider, .lenient⟩ params' (pipelineText key [])) ∧
    (¬ IsKey key →
      (∀ params params' : Params, params.AgreeBut key params' → ∀ (engine : Engine) (pattern : Text),
        engine.render params pattern = engine.render params' pattern) ∧
      ∀ (before after : List Text) (word value : Text) (vars : Params), word.cutAt '=' = some (key, value) →
        Params.ofVariables (before ++ after) = .ok vars →
        ∃ vars', Params.ofVariables (before ++ word :: after) = .ok vars' ∧
          ∀ (settings : Settings) (file : Option Params) (engine : Engine) (pattern : Text),
            engine.render (mergeParams settings file vars') pattern =
              engine.render (mergeParams settings file vars) pattern) := by
  refine ⟨⟨?_, fun hkey => ?_⟩, fun hkey provider params params' => render_key_ne hkey provider, fun hkey => ⟨?_, ?_⟩⟩
  · rintro ⟨provider, pattern, params, params', hagree, -, hne⟩
    by_contra hkey
    exact hne (render_of_agreeBut hkey hagree _ pattern)
  · have htext : ((∅ : Params).insert key (.string [])).text? key ≠ (∅ : Params).text? key := by
      unfold Params.text?
      rw [Params.get?_insert, if_pos rfl, Params.get?_empty]
      exact Option.some_ne_none _
    exact ⟨minimal.toProvider, pipelineText key [], _, ∅, .insert_self key (.string []) ∅, htext,
      render_key_ne hkey _ htext⟩
  · exact fun params params' hagree => render_of_agreeBut hkey hagree
  · intro before after word value vars hcut hvars
    obtain ⟨vars', hvars', hagree⟩ := Params.AgreeBut.ofVariables hcut hvars
    exact ⟨vars', hvars', fun settings file => render_of_agreeBut hkey (hagree.extend _)⟩

/-- A key that looks like the start of a placeholder, with a quote mark and a blank in it. -/
def awkward : Text := "$\x7b\" y".toList

theorem isVisible_iff_awkward :
    IsKey awkward ∧ (onlyA.insert awkward (.integer 1)).text? awkward ≠ onlyA.text? awkward ∧
      IsVisible awkward ∧
      render ⟨failing, .lenient⟩ (onlyA.insert awkward (.integer 1)) (pipelineText awkward []) ≠
        render ⟨failing, .lenient⟩ onlyA (pipelineText awkward []) ∧
      ¬ IsKey " x".toList ∧ (onlyA.insert " x".toList (.integer 1)).AgreeBut " x".toList onlyA ∧
      ¬ IsVisible " x".toList ∧
      (∀ pattern, render ⟨failing, .strict⟩ (onlyA.insert " x".toList (.integer 1)) pattern =
        render ⟨failing, .strict⟩ onlyA pattern) ∧
      Text.cutAt '=' " x=1".toList = some (" x".toList, ['1']) ∧
      Params.ofVariables ([] ++ ["a=v".toList]) = .ok onlyA ∧
      ∃ vars, Params.ofVariables [" x=1".toList, "a=v".toList] = .ok vars ∧
        ∀ (settings : Settings) (file : Option Params) (pattern : Text),
          render ⟨failing, .lenient⟩ (mergeParams settings file vars) pattern =
            render ⟨failing, .lenient⟩ (mergeParams settings file onlyA) pattern := by
  have hkey : IsKey awkward := ⟨by cbv, by decide⟩
  have htext : (onlyA.insert awkward (.integer 1)).text? awkward ≠ onlyA.text? awkward := by
    have hone : (onlyA.insert awkward (.integer 1)).text? awkward = some ['1'] := by cbv
    have hnone : onlyA.text? awkward = none := by cbv
    rw [hone, hnone]
    exact Option.some_ne_none _
  have hblank : ¬ IsKey " x".toList := fun h => absurd h.trimmed (by decide)
  have hagree : (onlyA.insert " x".toList (.integer 1)).AgreeBut " x".toList onlyA := .insert_self _ _ _
  have hcut : Text.cutAt '=' " x=1".toList = some (" x".toList, ['1']) := by decide
  have hvars : Params.ofVariables ([] ++ ["a=v".toList]) = .ok onlyA := rfl
  obtain ⟨hvisible, hshown, -⟩ := isVisible_iff awkward
  obtain ⟨hhidden, -, hunseen⟩ := isVisible_iff " x".toList
  obtain ⟨hsame, hvariables⟩ := hunseen hblank
  obtain ⟨vars, hwith, hleft⟩ := hvariables [] ["a=v".toList] _ _ onlyA hcut hvars
  exact ⟨hkey, htext, hvisible.mpr hkey, hshown hkey failing _ _ htext, hblank, hagree, fun h => hblank (hhidden.mp h),
    hsame _ _ hagree ⟨failing, .strict⟩, hcut, hvars, vars, hwith, fun settings file =>
      hleft settings file ⟨failing, .lenient⟩⟩

end Engine
end Placeholders

/-
Where the settings come from. Merging the variables of an environment changes settings
in place, and it looks at the strictness first: a text that is no word for a truth value
ends it before anything has changed (`merged_eq`). Otherwise each variable that is set
wins over the settings, and the command line wins over both
(`loadSettings_precedence`). The settings that are merged into are those of the first
file that is there, or the defaults.
-/
import Placeholders.Proofs.Decimals
import Placeholders.Proofs.RenderCommand
import Placeholders.Proofs.Trimming

namespace Placeholders
open Text (IsGap isBlank)

namespace Settings

/-- The words for a truth value. -/
def wordsFor : Bool → List Text
  | true => ["true".toList, "1".toList, "yes".toList, "on".toList]
  | false => ["false".toList, "0".toList, "no".toList, "off".toList]

/-- The text is a word for the truth value, in any case and between gaps. -/
def Means (t : Text) (b : Bool) : Prop :=
  ∃ before word after, t = before ++ (word ++ after) ∧ IsGap before ∧ IsGap after ∧ word.asciiLower ∈ wordsFor b

/-- The settings that an environment has overridden: what it says, and else what they were. -/
structure Overridden (base : Settings) (lookup : Text → Option Text) (after : Settings) : Prop where
  strict_set : ∀ word, lookup "SUBSTITUTOR_STRICT".toList = some word → Means word after.strict
  strict_unset : lookup "SUBSTITUTOR_STRICT".toList = none → after.strict = base.strict
  provider : after.provider = (lookup "SUBSTITUTOR_PROVIDER".toList).getD base.provider
  level : after.logging.level = (lookup "SUBSTITUTOR_LOG_LEVEL".toList).getD base.logging.level
  format : after.logging.format = (lookup "SUBSTITUTOR_LOG_FORMAT".toList).getD base.logging.format
  params : after.params = base.params

/-! ## Words for truth values -/

theorem not_blank_of_wordsFor (b : Bool) : ∀ word ∈ wordsFor b, ∀ c ∈ word, isBlank c = false := by
  cases b <;> simp [wordsFor] <;> decide

theorem wordsFor_disjoint : ∀ word ∈ wordsFor true, word ∉ wordsFor false := by decide

/-- No capital letter of ASCII is a blank. -/
theorem toLower_of_isBlank {c : Char} (h : isBlank c = true) : c.toLower = c := by
  refine toLower_of_not_capital ?_
  simp only [isBlank, Text.blankRanges, List.any_cons, List.any_nil, Bool.or_false, Bool.or_eq_true,
    Bool.and_eq_true, decide_eq_true_eq] at h
  omega

theorem means_iff {t : Text} {b : Bool} : Means t b ↔ t.trim.asciiLower ∈ wordsFor b := by
  constructor
  · intro h
    obtain ⟨before, word, after, rfl, hbefore, hafter, hword⟩ := h
    have hunblank : ∀ c ∈ word, isBlank c = false := by
      intro c hc
      by_contra hblank
      have hlower : c.toLower = c := toLower_of_isBlank (by simpa using hblank)
      exact hblank (not_blank_of_wordsFor b _ hword c (List.mem_map.mpr ⟨c, hc, hlower⟩))
    rwa [Text.trim_pad hbefore hafter, Text.trim_of_not_blank hunblank]
  · intro h
    obtain ⟨before, after, hbefore, hafter, ht⟩ := Text.exists_trim t
    exact ⟨before, t.trim, after, ht, hbefore, hafter, h⟩

theorem boolWord?_eq_some_iff {t : Text} {b : Bool} : boolWord? t = some b ↔ Means t b := by
  have hunfold : boolWord? t = if (wordsFor true).contains t.trim.asciiLower then some true
      else if (wordsFor false).contains t.trim.asciiLower then some false else none := rfl
  have hdisjoint := wordsFor_disjoint t.trim.asciiLower
  rw [hunfold, means_iff]
  by_cases htrue : t.trim.asciiLower ∈ wordsFor true
  · cases b <;> simp [htrue, hdisjoint htrue]
  · by_cases hfalse : t.trim.asciiLower ∈ wordsFor false
    · cases b <;> simp [htrue, hfalse]
    · cases b <;> simp [htrue, hfalse]

theorem boolWord?_eq_none_iff {t : Text} : boolWord? t = none ↔ ∀ b, ¬ Means t b := by
  simp only [Option.eq_none_iff_forall_ne_some, ne_eq, boolWord?_eq_some_iff]

theorem Means.unique {t : Text} {a b : Bool} (ha : Means t a) (hb : Means t b) : a = b :=
  Option.some.inj ((boolWord?_eq_some_iff.mpr ha).symm.trans (boolWord?_eq_some_iff.mpr hb))

/-! ## Merging in place -/

variable {base : Settings} {o : Overrides}

/-- The settings with this strictness, and with what else overrides them. -/
def overridden (base : Settings) (o : Overrides) (strict : Bool) : Settings where
  strict
  provider := o.provider.getD base.provider
  params := base.params
  logging := ⟨o.level.getD base.logging.level, o.format.getD base.logging.format⟩

/-- All that merging can do: it ends at a wrong strictness with nothing changed, or it goes through. -/
theorem merged_eq (base : Settings) (o : Overrides) :
    base.merged o =
      match o.strict with
      | none => (.ok (), base.overridden o base.strict)
      | some word =>
        match boolWord? word with
        | some strict => (.ok (), base.overridden o strict)
        | none => (.error word, base) := by
  obtain ⟨strict, provider, level, format⟩ := o
  cases strict with
  | none => cases provider <;> cases level <;> cases format <;> rfl
  | some word =>
    cases hword : boolWord? word with
    | none =>
      simp only [merged, merge, hword]
      rfl
    | some strict =>
      simp only [merged, merge, hword]
      cases provider <;> cases level <;> cases format <;> rfl

theorem merged_of_not_word {word : Text} (hword : o.strict = some word) (h : ∀ b, ¬ Means word b) :
    base.merged o = (.error word, base) := by
  rw [merged_eq, hword]
  simp only [boolWord?_eq_none_iff.mpr h]

/-- An environment whose strictness is a word for a truth value, or is not set, overrides. -/
theorem exists_merged {lookup : Text → Option Text}
    (h : ∀ word, lookup "SUBSTITUTOR_STRICT".toList = some word → ∃ b, Means word b) :
    ∃ after, base.merged (.ofLookup lookup) = (.ok (), after) ∧ Overridden base lookup after := by
  have hset : (Overrides.ofLookup lookup).strict = lookup "SUBSTITUTOR_STRICT".toList := rfl
  rw [merged_eq, hset]
  cases hlookup : lookup "SUBSTITUTOR_STRICT".toList with
  | none =>
    refine ⟨base.overridden (.ofLookup lookup) base.strict, rfl, ⟨?_, fun _ => rfl, rfl, rfl, rfl, rfl⟩⟩
    intro word hword
    rw [hlookup] at hword
    cases hword
  | some word =>
    obtain ⟨strict, hstrict⟩ := h word hlookup
    simp only [boolWord?_eq_some_iff.mpr hstrict]
    refine ⟨base.overridden (.ofLookup lookup) strict, rfl, ⟨?_, ?_, rfl, rfl, rfl, rfl⟩⟩
    · intro word' hword'
      obtain rfl : word = word' := Option.some.inj (hlookup.symm.trans hword')
      exact hstrict
    · intro hnone
      rw [hlookup] at hnone
      cases hnone

end Settings

/-! ## Loading -/

namespace World
open Settings (Means Overridden engineOptions exists_merged merged_of_not_word override)

variable (refusals : Refusals)

/-- Where the settings are looked for: at the given place, or at the usual ones in order. -/
def settingsPlaces (w : World) (given : Option Text) : List Text :=
  match given with
  | some path => [path]
  | none => (w.homeDirectory.map homeSettings).toList ++ settingsNames

/-- The settings of the first file that is there; without one, the defaults. -/
def baseSettings (w : World) (given : Option Text) : Except Failure Settings :=
  match (w.settingsPlaces given).find? (w.files.pathExists w.working) with
  | none => .ok {}
  | some path => do Settings.ofContent path (← (w.readText refusals path).mapError .unreadableSettings)

/-- The settings with what the environment overrides. -/
def settings (w : World) (given : Option Text) : Except Failure Settings := do
  let base ← w.baseSettings refusals given
  (base.override (.ofLookup fun name => w.environment.lookup name)).mapError .invalidStrictness

theorem run_findPath (paths : List Text) (w : World) :
    StateT.run ((guarded refusals).findPath paths) w = (paths.find? (w.files.pathExists w.working), w) := by
  induction paths with
  | nil => rfl
  | cons path paths ih =>
    have hexists : StateT.run ((guarded refusals).pathExists path) w = (w.files.pathExists w.working path, w) := rfl
    rw [Host.findPath, StateT.run_bind, hexists, List.find?_cons]
    cases w.files.pathExists w.working path with
    | true => rfl
    | false => exact ih

theorem reads_settingsPath (given : Option Text) :
    Reads (Action.ofHost ((guarded refusals).settingsPath given)) fun w =>
      .ok ((w.settingsPlaces given).find? (w.files.pathExists w.working)) := by
  refine .ofHost fun w => ?_
  cases given with
  | some path => exact run_findPath refusals [path] w
  | none => exact run_findPath refusals _ w

theorem reads_overrides :
    Reads (Action.ofHost (guarded refusals).overrides) fun w =>
      .ok (.ofLookup fun name => w.environment.lookup name) := .ofHost fun _ => rfl

theorem reads_loadSettings (given : Option Text) :
    Reads ((guarded refusals).loadSettings given) fun w => (w.settings refusals given).mapError .error := by
  have hrest : ∀ base : Settings, Reads (do
      Action.ofExcept Failure.invalidStrictness (base.override (← Action.ofHost (guarded refusals).overrides)))
      fun w => ((base.override (.ofLookup fun name => w.environment.lookup name)).mapError
        .invalidStrictness).mapError .error := fun base =>
    ((reads_overrides refusals).bind fun o => .ofExcept _ (base.override o)).congr fun w => by
      rw [mapError_mapError]
      rfl
  intro w
  unfold Host.loadSettings
  rw [(reads_settingsPath refusals given).run_bind]
  dsimp only [settings, baseSettings]
  cases (w.settingsPlaces given).find? (w.files.pathExists w.working) with
  | none => exact hrest {} w
  | some path =>
    have hread := (reads_readText refusals path).bind fun t => (Reads.ofExcept Failure.unreadableSettings t).bind
      fun content => (Reads.ofExcept id (Settings.ofContent path content)).bind hrest
    refine (hread w).trans ?_
    simp only [mapError_bind, mapError_mapError, bind_assoc]
    rfl

/-- **The command line wins over the environment, and the environment over the file.** An
environment whose strictness is no word for a truth value is an error, and the settings
that it was to override are as before, whatever else it sets. Any other environment
overrides: each setting that it has is the one in force, the others are kept, and so are
the parameters. An engine is chosen by the command line where that says something and
else by the settings; strictness is a matter of either. The settings that are overridden
are those of the first file that is there, or the defaults, and loading them changes
nothing in the world. -/
theorem loadSettings_precedence (given provider : Option Text) (strict : Bool) :
    (∀ (base : Settings) (lookup : Text → Option Text),
      (∀ word, lookup "SUBSTITUTOR_STRICT".toList = some word → (∀ b, ¬ Means word b) →
        base.merged (.ofLookup lookup) = (.error word, base)) ∧
      ((∀ word, lookup "SUBSTITUTOR_STRICT".toList = some word → ∃ b, Means word b) →
        ∃ after, base.merged (.ofLookup lookup) = (.ok (), after) ∧ Overridden base lookup after ∧
          (after.engineOptions provider strict).provider = provider.getD after.provider ∧
          ((after.engineOptions provider strict).strict = true ↔ strict = true ∨ after.strict = true))) ∧
    ∀ w, run ((guarded refusals).loadSettings given) w =
      match w.baseSettings refusals given with
      | .error e => (.error (.error e), w)
      | .ok base =>
        match base.merged (.ofLookup fun name => w.environment.lookup name) with
        | (.ok (), after) => (.ok after, w)
        | (.error word, _) => (.error (.error (.invalidStrictness word)), w) := by
  refine ⟨fun base lookup => ⟨fun word hword hnot => merged_of_not_word hword hnot, fun hwords => ?_⟩, fun w => ?_⟩
  · obtain ⟨after, hmerged, hover⟩ := exists_merged hwords
    refine ⟨after, hmerged, hover, rfl, ?_⟩
    simp [engineOptions]
  · have hload : run ((guarded refusals).loadSettings given) w = ((w.settings refusals given).mapError .error, w) :=
      reads_loadSettings refusals given w
    rw [hload, settings]
    cases w.baseSettings refusals given with
    | error e => rfl
    | ok base =>
      dsimp only [override, bind, Except.bind]
      rcases base.merged (.ofLookup fun name => w.environment.lookup name) with ⟨_ | _, after⟩ <;> rfl

/-- A settings file in the working directory, below one that is looked for first. -/
def cabin : World where
  files := ⟨[([['d'], "substitutor.yml".toList],
    Text.utf8 "strict_mode: true\nprovider: standard\nparams:\n  a: true\n".toList)], []⟩
  working := [['d']]
  homeDirectory := some "/h".toList
  environment := [("SUBSTITUTOR_STRICT".toList, " Off\t".toList), ("SUBSTITUTOR_LOG_LEVEL".toList, "warn".toList)]

/-- An environment with a strictness that is no word, and with a provider. -/
def unsure : List (Text × Text) :=
  [("SUBSTITUTOR_PROVIDER".toList, "minimal".toList), ("SUBSTITUTOR_STRICT".toList, "maybe".toList)]

theorem loadSettings_precedence_cabin :
    Means " Off\t".toList false ∧ (∀ b, ¬ Means "maybe".toList b) ∧
      (∃ after, run (host.loadSettings none) cabin = (.ok after, cabin) ∧ after.strict = false ∧
        after.provider = "standard".toList ∧ after.logging.level = "warn".toList ∧
        after.logging.format = "pretty".toList ∧ after.params.get? ['a'] = some (.bool true) ∧
        after.engineOptions (some "minimal".toList) true = ⟨"minimal".toList, true⟩) ∧
      Settings.merged { strict := true } (.ofLookup fun name => unsure.lookup name) =
        (.error "maybe".toList, { strict := true }) := by
  have hoff : Means " Off\t".toList false := Settings.means_iff.mpr (by decide +kernel)
  have hmaybe : ∀ b, ¬ Means "maybe".toList b := fun b => by
    rw [Settings.means_iff]
    cases b <;> decide +kernel
  obtain ⟨hmerge, hload⟩ := loadSettings_precedence {} none (some "minimal".toList) true
  refine ⟨hoff, hmaybe, ?_, (hmerge { strict := true } _).1 "maybe".toList (by decide +kernel) hmaybe⟩
  obtain ⟨base, hbase, hprovider, hlogging, hget⟩ : ∃ base, cabin.baseSettings {} none = .ok base ∧
      base.provider = "standard".toList ∧ base.logging = {} ∧ base.params.get? ['a'] = some (.bool true) := by
    -- Settings hold parameters, which have no decidable equality.
    have hfields : (cabin.baseSettings {} none).map (fun base => (base.provider, base.logging, base.params.get? ['a'])) =
        .ok ("standard".toList, {}, some (.bool true)) := by decide +kernel
    cases hbase : cabin.baseSettings {} none with
    | error e =>
      rw [hbase] at hfields
      cases hfields
    | ok base =>
      rw [hbase] at hfields
      simp only [Except.map, Except.ok.injEq, Prod.mk.injEq] at hfields
      exact ⟨base, rfl, hfields⟩
  have hword : cabin.environment.lookup "SUBSTITUTOR_STRICT".toList = some " Off\t".toList := by decide +kernel
  obtain ⟨after, hmerged, hover, -, -⟩ := (hmerge base fun name => cabin.environment.lookup name).2
    fun word h => ⟨false, Option.some.inj (hword.symm.trans h) ▸ hoff⟩
  have hstrict : after.strict = false := Settings.Means.unique (hover.strict_set _ hword) hoff
  have hformat : after.logging.format = "pretty".toList := hover.format.trans (congrArg Logging.format hlogging)
  refine ⟨after, ?_, hstrict, hover.provider.trans hprovider, hover.level.trans rfl, hformat, ?_, rfl⟩
  · rw [← guarded_nothing, hload, hbase]
    dsimp only
    rw [hmerged]
  · rw [hover.params]
    exact hget

end World
end Placeholders

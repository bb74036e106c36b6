/-
Where the value of a parameter comes from. Variables are read in order, and the first
one without an equals sign is the error; else the last variable for a key gives its value
(`exists_ofVariables`). Variables win over the file, and the file over the settings
(`Prevails`). A file that cannot be loaded fails before the variables are looked at, and
no failure leaves a part of the parameters behind (`collectParams_precedence`).
-/
import Placeholders.Proofs.Arguments
import Placeholders.Proofs.RenderCommand
import Mathlib.Data.List.Induction

namespace Placeholders

/-- The variable is for the key: an equals sign, the first one, is between it and the value. -/
structure Sets (word key value : Text) : Prop where
  written : word = key ++ '=' :: value
  first : '=' ∉ key

/-- No variable is for the key. -/
def Unset (vars : List Text) (key : Text) : Prop := ∀ word ∈ vars, ∀ value, ¬ Sets word key value

/-- The last variable for the key gives it this value. -/
def LastSets (vars : List Text) (key value : Text) : Prop :=
  ∃ before word after, vars = before ++ word :: after ∧ Sets word key value ∧ Unset after key

/-- What prevails for a key: the last variable for it, else the file, else the settings. -/
inductive Prevails (settings : Settings) (file : Option Params) (vars : List Text) (key : Text) :
    Option ParamValue → Prop
  | variable {value} : LastSets vars key value → Prevails settings file vars key (some (.string value))
  | file {params value} : Unset vars key → file = some params → params.get? key = some value →
      Prevails settings file vars key (some value)
  | settings {value} : Unset vars key → (∀ params ∈ file, params.get? key = none) →
      settings.params.get? key = some value → Prevails settings file vars key (some value)
  | absent : Unset vars key → (∀ params ∈ file, params.get? key = none) → settings.params.get? key = none →
      Prevails settings file vars key none

/-! ## Variables -/

variable {vars before after : List Text} {word key value : Text}

theorem sets_iff : Sets word key value ↔ word.cutAt '=' = some (key, value) := by
  rw [Text.cutAt_eq_some_iff]
  exact ⟨fun h => ⟨h.written, h.first⟩, fun h => ⟨h.1, h.2⟩⟩

theorem exists_sets (h : '=' ∈ word) : ∃ key value, Sets word key value := by
  obtain ⟨key, value, hword, hkey⟩ := List.eq_append_cons_of_mem h
  exact ⟨key, value, hword, hkey⟩

theorem Sets.unique {key' value' : Text} (h : Sets word key value) (h' : Sets word key' value') :
    key' = key ∧ value' = value := by
  have hsame := (sets_iff.mp h').symm.trans (sets_iff.mp h)
  exact Prod.mk.inj (Option.some.inj hsame)

theorem unset_nil (key : Text) : Unset [] key := List.forall_mem_nil _

theorem unset_iff : Unset vars key ↔ ∀ word ∈ vars, (word.cutAt '=').map Prod.fst ≠ some key := by
  refine forall₂_congr fun word _ => ?_
  simp only [sets_iff, ne_eq, Option.map_eq_some_iff, Prod.exists, exists_eq_right, exists_and_right, not_exists]

instance : Decidable (Unset vars key) := decidable_of_iff _ unset_iff.symm

/-- A variable for another key leaves the key unset. -/
theorem Unset.concat {key' : Text} (h : Unset vars key) (hword : Sets word key' value) (hne : key' ≠ key) :
    Unset (vars ++ [word]) key := by
  intro w hw v hv
  rcases List.mem_append.mp hw with hw | hw
  · exact h w hw v hv
  · obtain rfl := List.mem_singleton.mp hw
    exact hne (hv.unique hword).1

theorem LastSets.concat {key' value' : Text} (h : LastSets vars key value) (hword : Sets word key' value')
    (hne : key' ≠ key) : LastSets (vars ++ [word]) key value := by
  obtain ⟨before, last, after, rfl, hlast, hafter⟩ := h
  exact ⟨before, last, after ++ [word], by simp, hlast, hafter.concat hword hne⟩

theorem LastSets.not_unset (h : LastSets vars key value) : ¬ Unset vars key := by
  obtain ⟨before, word, after, rfl, hword, -⟩ := h
  exact fun hunset => hunset word (by simp) value hword

theorem LastSets.unique {value' : Text} (h : LastSets vars key value) (h' : LastSets vars key value') :
    value = value' := by
  obtain ⟨before, word, after, rfl, hword, hafter⟩ := h
  obtain ⟨before', word', after', hvars, hword', hafter'⟩ := h'
  -- Each of the two is for the key, so neither comes after the other.
  rcases Pattern.append_eq_append_cons hvars with ⟨between, -, rfl⟩ | ⟨between, -, hrest⟩
  · exact absurd hword (hafter' word (by simp) value)
  · cases between with
    | nil =>
      obtain ⟨rfl, -⟩ := List.cons.inj hrest
      exact (hword'.unique hword).2
    | cons w between =>
      obtain ⟨-, rfl⟩ := List.cons.inj hrest
      exact absurd hword' (hafter word' (by simp) value')

theorem exists_first_malformed (h : ∃ word ∈ vars, '=' ∉ word) :
    ∃ before word after, vars = before ++ word :: after ∧ '=' ∉ word ∧ ∀ w ∈ before, '=' ∈ w := by
  obtain ⟨w, hw, hmalformed⟩ := h
  have hsome : (vars.find? fun w => !w.contains '=').isSome = true :=
    List.find?_isSome.mpr ⟨w, hw, by simpa using hmalformed⟩
  obtain ⟨word, hfind⟩ := Option.isSome_iff_exists.mp hsome
  obtain ⟨hword, before, after, hvars, hbefore⟩ := List.find?_eq_some_iff_append.mp hfind
  exact ⟨before, word, after, hvars, by simpa using hword, by simpa using hbefore⟩

namespace Params

/-- The key and the value of a variable. -/
def readVariable (word : Text) : Except Text (Text × ParamValue) :=
  match word.cutAt '=' with
  | some (key, value) => .ok (key, .string value)
  | none => .error word

theorem ofVariables_eq (vars : List Text) : ofVariables vars = (vars.mapM readVariable).map ofList := rfl

theorem readVariable_of_sets (h : Sets word key value) : readVariable word = .ok (key, .string value) := by
  rw [readVariable, sets_iff.mp h]

theorem readVariable_of_malformed (h : '=' ∉ word) : readVariable word = .error word := by
  have hcut : word.cutAt '=' = none := if_neg (by simpa using h)
  rw [readVariable, hcut]

theorem ofVariables_concat (h : Sets word key value) :
    ofVariables (vars ++ [word]) = (ofVariables vars).map (·.insert key (.string value)) := by
  rw [ofVariables_eq, ofVariables_eq, List.mapM_append, List.mapM_cons, List.mapM_nil, readVariable_of_sets h]
  cases vars.mapM readVariable with
  | error e => rfl
  | ok entries =>
    show Except.ok (ofList (entries ++ [(key, .string value)])) = .ok ((ofList entries).insert key (.string value))
    rw [ofList, List.foldl_append]
    rfl

theorem ofVariables_append_of_malformed {params : Params} (h : ofVariables before = .ok params) (hword : '=' ∉ word) :
    ofVariables (before ++ word :: after) = .error word := by
  rw [ofVariables_eq] at h ⊢
  rw [List.mapM_append, List.mapM_cons, readVariable_of_malformed hword]
  cases hread : before.mapM readVariable with
  | error e =>
    rw [hread] at h
    cases h
  | ok entries => rfl

/-- Variables with equals signs are read, and the last one for a key gives its value. -/
theorem exists_ofVariables (h : ∀ word ∈ vars, '=' ∈ word) :
    ∃ params, ofVariables vars = .ok params ∧ ∀ key,
      (∃ value, LastSets vars key value ∧ params.get? key = some (.string value)) ∨
        Unset vars key ∧ params.get? key = none := by
  induction vars using List.reverseRecOn with
  | nil => exact ⟨∅, rfl, fun key => .inr ⟨unset_nil key, get?_empty key⟩⟩
  | append_singleton vars word ih =>
    obtain ⟨params, hparams, hkeys⟩ := ih fun w hw => h w (List.mem_append_left _ hw)
    obtain ⟨k, v, hword⟩ := exists_sets (h word (by simp))
    refine ⟨params.insert k (.string v), by rw [ofVariables_concat hword, hparams]; rfl, fun key => ?_⟩
    rw [get?_insert]
    by_cases hk : k = key
    · subst hk
      rw [if_pos rfl]
      exact .inl ⟨v, ⟨vars, word, [], rfl, hword, unset_nil k⟩, rfl⟩
    · rw [if_neg hk]
      rcases hkeys key with ⟨value, hlast, hget⟩ | ⟨hunset, hget⟩
      · exact .inl ⟨value, hlast.concat hword hk, hget⟩
      · exact .inr ⟨hunset.concat hword hk, hget⟩

/-- The first variable without an equals sign is the error. -/
theorem ofVariables_of_malformed (h : ∀ w ∈ before, '=' ∈ w) (hword : '=' ∉ word) :
    ofVariables (before ++ word :: after) = .error word := by
  obtain ⟨params, hparams, -⟩ := exists_ofVariables h
  exact ofVariables_append_of_malformed hparams hword

theorem ofVariables_fails_iff : (∃ e, ofVariables vars = .error e) ↔ ∃ word ∈ vars, '=' ∉ word := by
  constructor
  · rintro ⟨e, he⟩
    by_contra hnone
    push Not at hnone
    obtain ⟨params, hparams, -⟩ := exists_ofVariables hnone
    rw [hparams] at he
    cases he
  · intro hsome
    obtain ⟨before, word, after, rfl, hword, hbefore⟩ := exists_first_malformed hsome
    exact ⟨word, ofVariables_of_malformed hbefore hword⟩

end Params

/-! ## The three layers -/

theorem get?_mergeParams (settings : Settings) (file : Option Params) (params : Params) (key : Text) :
    (mergeParams settings file params).get? key =
      (params.get? key).or ((file.bind (·.get? key)).or (settings.params.get? key)) := by
  rw [mergeParams, Params.get?_extend, Params.get?_extend]
  cases file with
  | none => rw [Option.getD_none, Params.get?_empty]; rfl
  | some file => rfl

section

variable {settings : Settings} {file : Option Params} {found : Option ParamValue}

theorem prevails_iff_of_lastSets (h : LastSets vars key value) :
    Prevails settings file vars key found ↔ some (.string value) = found := by
  constructor
  · rintro (hlast | ⟨hunset, -, -⟩ | ⟨hunset, -, -⟩ | ⟨hunset, -, -⟩)
    · rw [h.unique hlast]
    all_goals exact absurd hunset h.not_unset
  · rintro rfl
    exact .variable h

/-- Below the variables the file prevails over the settings. -/
theorem prevails_iff_of_unset (h : Unset vars key) :
    Prevails settings file vars key found ↔ (file.bind (·.get? key)).or (settings.params.get? key) = found := by
  constructor
  · rintro (hlast | ⟨-, rfl, hget⟩ | ⟨-, hfile, hget⟩ | ⟨-, hfile, hget⟩)
    · exact absurd h hlast.not_unset
    · rw [Option.bind_some, hget, Option.some_or]
    all_goals rw [Option.bind_eq_none_iff.mpr hfile, Option.none_or, hget]
  · rintro rfl
    cases hfile : file.bind (·.get? key) with
    | some value =>
      obtain ⟨params, rfl, hget⟩ := Option.bind_eq_some_iff.mp hfile
      exact .file h rfl hget
    | none =>
      have hnone : ∀ params ∈ file, params.get? key = none := Option.bind_eq_none_iff.mp hfile
      rw [Option.none_or]
      cases hsettings : settings.params.get? key with
      | some value => exact .settings h hnone hsettings
      | none => exact .absent h hnone hsettings

end

/-- What is merged is what prevails, for each key. -/
theorem mergeParams_iff_prevails (settings : Settings) (file : Option Params) (h : ∀ word ∈ vars, '=' ∈ word) :
    ∃ params, Params.ofVariables vars = .ok params ∧ ∀ key found,
      (mergeParams settings file params).get? key = found ↔ Prevails settings file vars key found := by
  obtain ⟨params, hparams, hkeys⟩ := Params.exists_ofVariables h
  refine ⟨params, hparams, fun key found => ?_⟩
  rw [get?_mergeParams]
  rcases hkeys key with ⟨value, hlast, hget⟩ | ⟨hunset, hget⟩
  · rw [hget, Option.some_or, prevails_iff_of_lastSets hlast]
  · rw [hget, Option.none_or, prevails_iff_of_unset hunset]

/-- The words for a malformed variable quote it. -/
theorem quoted_infix_message (word : Text) :
    '\x27' :: (word ++ ['\x27']) <:+: (Failure.malformedVariable word).message := by
  have hopen : "Invalid variable format '".toList = "Invalid variable format ".toList ++ ['\x27'] := rfl
  have hclose : "'. Expected 'key=value'".toList = '\x27' :: ". Expected 'key=value'".toList := rfl
  have hmessage : (Failure.malformedVariable word).message =
      "Invalid variable format '".toList ++ word ++ "'. Expected 'key=value'".toList := rfl
  rw [hmessage, hopen, hclose]
  exact ⟨"Invalid variable format ".toList, ". Expected 'key=value'".toList, by
    simp only [List.append_assoc, List.cons_append, List.nil_append]⟩

namespace World

variable (refusals : Refusals)

theorem reads_paramsFile (path : Option Text) :
    Reads (path.mapM (guarded refusals).loadParams) fun w => (path.mapM (w.fileParams refusals)).mapError .error :=
  .optionMapM (reads_loadParams refusals) path

/-- **The last variable wins over the file, and the file over the settings.** Collecting
parameters changes nothing in the world. It fails just when the file cannot be loaded or
a variable has no equals sign: with the file's failure if there is one, and else with the
first such variable, which the message quotes. Otherwise the value of every key is the
one that prevails for it. -/
theorem collectParams_precedence (settings : Settings) (path : Option Text) (vars : List Text) (w : World) :
    ((∃ e, run ((guarded refusals).collectParams settings path vars) w = (.error (.error e), w)) ↔
      (∃ e, (run (path.mapM (guarded refusals).loadParams) w).1 = .error (.error e)) ∨ ∃ word ∈ vars, '=' ∉ word) ∧
    match (run (path.mapM (guarded refusals).loadParams) w).1 with
    | .error fault => run ((guarded refusals).collectParams settings path vars) w = (.error fault, w)
    | .ok file =>
      (∀ before word after, vars = before ++ word :: after → '=' ∉ word → (∀ v ∈ before, '=' ∈ v) →
        run ((guarded refusals).collectParams settings path vars) w = (.error (.error (.malformedVariable word)), w) ∧
          '\x27' :: (word ++ ['\x27']) <:+: (Failure.malformedVariable word).message) ∧
      ((∀ word ∈ vars, '=' ∈ word) →
        ∃ merged, run ((guarded refusals).collectParams settings path vars) w = (.ok merged, w) ∧
          ∀ key found, merged.get? key = found ↔ Prevails settings file vars key found) := by
  have hload : run (path.mapM (guarded refusals).loadParams) w =
      ((path.mapM (w.fileParams refusals)).mapError .error, w) := reads_paramsFile refusals path w
  have hcollect : run ((guarded refusals).collectParams settings path vars) w =
      ((w.params refusals settings path vars).mapError .error, w) := reads_collectParams refusals settings path vars w
  rw [hload, hcollect, params]
  cases path.mapM (w.fileParams refusals) with
  | error e => exact ⟨iff_of_true ⟨e, rfl⟩ (.inl ⟨e, rfl⟩), rfl⟩
  | ok file =>
    refine ⟨?_, ?_, ?_⟩
    · rw [← Params.ofVariables_fails_iff]
      constructor
      · rintro ⟨e, he⟩
        cases hvars : Params.ofVariables vars with
        | error word => exact .inr ⟨word, rfl⟩
        | ok params =>
          rw [hvars] at he
          cases he
      · rintro (⟨e, he⟩ | ⟨word, hvars⟩)
        · cases he
        · rw [hvars]
          exact ⟨_, rfl⟩
    · rintro before word after rfl hword hbefore
      rw [Params.ofVariables_of_malformed hbefore hword]
      exact ⟨rfl, quoted_infix_message word⟩
    · intro hvars
      obtain ⟨params, hparams, hprevails⟩ := mergeParams_iff_prevails settings file hvars
      rw [hparams]
      exact ⟨_, rfl, hprevails⟩

/-- A parameter file in the working directory. -/
def shelf : World where
  files := ⟨[([['d'], "p.json".toList], Text.utf8 "\x7b\"a\":\"file\",\"b\":true\x7d".toList)], []⟩
  working := [['d']]
  homeDirectory := none
  environment := []

/-- A key may be empty, and a value may have more equals signs. -/
theorem collectParams_precedence_shelf :
    (∃ merged, run (host.collectParams { params := .ofList [(['a'], .bool true), (['c'], .integer 1)] }
          (some "p.json".toList) ["b=x".toList, "=e".toList, "b=y=z".toList]) shelf = (.ok merged, shelf) ∧
        merged.get? ['b'] = some (.string "y=z".toList) ∧ merged.get? [] = some (.string ['e']) ∧
        merged.get? ['a'] = some (.string "file".toList) ∧ merged.get? ['c'] = some (.integer 1) ∧
        merged.get? ['d'] = none) ∧
      run (host.collectParams {} (some "p.json".toList) ["b=x".toList, ['b'], ['c']]) shelf =
        (.error (.error (.malformedVariable ['b'])), shelf) ∧
      run (host.collectParams {} (some "q.json".toList) [['b']]) shelf =
        (.error (.error (.unreadableParams "q.json".toList .missing)), shelf) := by
  -- Parameters have no decidable equality, so the keys that are asked for are decided.
  have hfields : ((run ((some "p.json".toList).mapM (guarded {}).loadParams) shelf).1.map fun file =>
      file.map fun params => (params.get? ['a'], params.get? ['c'], params.get? ['d'])) =
        .ok (some (some (.string "file".toList), none, none)) := by decide +kernel
  obtain ⟨_, hload, hsome⟩ := Outcome.map_eq_ok.mp hfields
  obtain ⟨file, rfl, hvalues⟩ := Option.map_eq_some_iff.mp hsome
  simp only [Prod.mk.injEq] at hvalues
  obtain ⟨ha, hc, hd⟩ := hvalues
  have hmissing : (run ((some "q.json".toList).mapM (guarded {}).loadParams) shelf).1 =
      .error (.error (.unreadableParams "q.json".toList .missing)) := rfl
  refine ⟨?_, ?_, ?_⟩
  · obtain ⟨-, hcollect⟩ := collectParams_precedence {} { params := .ofList [(['a'], .bool true), (['c'], .integer 1)] }
      (some "p.json".toList) ["b=x".toList, "=e".toList, "b=y=z".toList] shelf
    rw [hload] at hcollect
    obtain ⟨merged, hrun, hmerged⟩ := hcollect.2 (by decide)
    refine ⟨merged, hrun, (hmerged _ _).mpr (.variable ?_), (hmerged _ _).mpr (.variable ?_),
      (hmerged _ _).mpr (.file (by decide) rfl ha), (hmerged _ _).mpr (.settings (by decide) ?_ rfl),
      (hmerged _ _).mpr (.absent (by decide) ?_ rfl)⟩
    · exact ⟨["b=x".toList, "=e".toList], _, [], rfl, ⟨rfl, by decide⟩, unset_nil _⟩
    · exact ⟨["b=x".toList], _, ["b=y=z".toList], rfl, ⟨rfl, by decide⟩, by decide⟩
    · exact fun _ h => Option.mem_some.mp h ▸ hc
    · exact fun _ h => Option.mem_some.mp h ▸ hd
  · obtain ⟨-, hcollect⟩ := collectParams_precedence {} {} (some "p.json".toList) ["b=x".toList, ['b'], ['c']] shelf
    rw [hload] at hcollect
    exact (hcollect.1 ["b=x".toList] ['b'] [['c']] rfl (by decide) (by decide)).1
  · obtain ⟨-, hcollect⟩ := collectParams_precedence {} {} (some "q.json".toList) [['b']] shelf
    rw [hmissing] at hcollect
    exact hcollect

end World
end Placeholders

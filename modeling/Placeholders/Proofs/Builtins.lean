/-
The built-in functions, called under their signatures. Each comes to a text or
fails for a reason of its own (`Settles`); none finds an argument missing or of
another type. The exception is `round`: it checks the places that it is asked for
against the output limit, but a number can be written with fewer, and in between
it ends the process (`round_eq_abort_iff`). No other call of a rendering with a
built-in registry does (`render_ends_iff`).

What holds of everything in a registry is shown along its registrations
(`Registry.All`).
-/
import Placeholders.Proofs.Forecast
import Placeholders.Proofs.Providers

namespace Placeholders
open Pattern (Call Expression enclose scan)

/-! ## Everything in a registry -/

namespace Registry

/-- Everything that is registered has the property. -/
def All (P : Signature → PipeFunction → Prop) (r : Registry) : Prop := ∀ s f, r.resolve s = some f → P s f

variable {P : Signature → PipeFunction → Prop} {r : Registry}

theorem all_empty (name : Text) : All P (empty name) := by
  intro s f h
  rw [resolve_empty] at h
  cases h

theorem All.register (h : All P r) {name : Text} {types : List ArgType} {f : PipeFunction} (hf : P ⟨name, types⟩ f) :
    All P (r.register name types f) := by
  intro s g hg
  rw [resolve_register] at hg
  split at hg
  · next heq =>
    cases hg
    exact heq ▸ hf
  · exact h s g hg

theorem All.registerUnary (h : All P r) {name : Text} {f : Text → Text}
    (hf : P ⟨name, []⟩ fun value _ => .ok (f value)) : All P (r.registerUnary name f) := h.register hf

theorem All.merge (h : All P r) {other : Registry} (hother : All P other) : All P (r.merge other) := by
  intro s f hf
  rw [resolve_merge, Option.or_eq_some_iff] at hf
  rcases hf with hf | ⟨-, hf⟩
  · exact hother s f hf
  · exact h s f hf

end Registry

/-! ## Functions that settle -/

/-- The function came to a text or failed for a reason that it gives. -/
def Settles (x : Outcome FunctionError Text) : Prop := (∃ t, x = .ok t) ∨ ∃ reason, x = Builtin.fail reason

theorem settles_ok (t : Text) : Settles (.ok t) := .inl ⟨t, rfl⟩

theorem settles_fail (reason : Text) : Settles (Builtin.fail reason) := .inr ⟨reason, rfl⟩

theorem Settles.ne_abort {x : Outcome FunctionError Text} (h : Settles x) : x ≠ abort := by
  rcases h with ⟨t, rfl⟩ | ⟨reason, rfl⟩ <;> intro h <;> cases h

theorem Settles.exists_reason {x : Outcome FunctionError Text} (h : Settles x) {e : FunctionError}
    (he : x = refuse e) : ∃ reason, e = .failed reason := by
  rcases h with ⟨t, rfl⟩ | ⟨reason, rfl⟩
  · cases he
  · cases he
    exact ⟨reason, rfl⟩

theorem Settles.map {x : Outcome FunctionError Text} (h : Settles x) (g : Text → Text) : Settles (x.map g) := by
  rcases h with ⟨t, rfl⟩ | ⟨reason, rfl⟩
  · exact settles_ok (g t)
  · exact settles_fail reason

/-- On all arguments that fit its signature the function settles. -/
def SettlesUnder (s : Signature) (f : PipeFunction) : Prop := ∀ value args, Fits s.types args → Settles (f value args)

namespace Builtin

theorem settlesUnder_unary (name : Text) (f : Text → Text) :
    SettlesUnder ⟨name, []⟩ fun value _ => .ok (f value) := fun value _ _ => settles_ok (f value)

theorem settlesUnder_putBefore (name : Text) : SettlesUnder ⟨name, [.string]⟩ putBefore := by
  intro value args h
  simp only [fits_string, fits_nil] at h
  obtain ⟨t, _, rfl, rfl⟩ := h
  exact settles_ok (t ++ value)

theorem settlesUnder_putAfter (name : Text) : SettlesUnder ⟨name, [.string]⟩ putAfter := by
  intro value args h
  simp only [fits_string, fits_nil] at h
  obtain ⟨t, _, rfl, rfl⟩ := h
  exact settles_ok (value ++ t)

theorem settlesUnder_whenEmpty (name : Text) : SettlesUnder ⟨name, [.string]⟩ whenEmpty := by
  intro value args h
  simp only [fits_string, fits_nil] at h
  obtain ⟨t, _, rfl, rfl⟩ := h
  cases value with
  | nil => exact settles_ok t
  | cons c r => exact settles_ok (c :: r)

theorem settlesUnder_replace (name : Text) : SettlesUnder ⟨name, [.string, .string]⟩ replace := by
  intro value args h
  simp only [fits_string, fits_nil] at h
  obtain ⟨old, _, rfl, new, _, rfl, rfl⟩ := h
  cases old with
  | nil => exact settles_fail _
  | cons c r => exact settles_ok (replaceFrom (c :: r) new [] value)

theorem settlesUnder_truncate (name : Text) : SettlesUnder ⟨name, [.integer]⟩ truncate := by
  intro value args h
  simp only [fits_integer, fits_nil] at h
  obtain ⟨n, _, rfl, rfl⟩ := h
  exact settles_ok (value.take n)

theorem fetchCount_of_nonneg {n : Int} (h : 0 ≤ n) (args : List Argument) :
    fetchCount (.integer n :: args) 0 = .ok n.toNat := by
  obtain ⟨k, rfl⟩ := Int.eq_ofNat_of_zero_le h
  rfl

theorem fetchCount_of_neg {n : Int} (h : n < 0) (args : List Argument) :
    fetchCount (.integer n :: args) 0 = refuse (.invalidArgument 0 .integer) := by
  obtain ⟨k, rfl⟩ := Int.eq_negSucc_of_lt_zero h
  rfl

theorem replicate_eq {args : List Argument} {n : Nat} (hcount : fetchCount args 0 = .ok n) (value : Text) :
    replicate value args =
      if outputLimit < value.byteLength * n then failTooLarge "repeat".toList n
      else .ok (if value.isEmpty then [] else (List.replicate n value).flatten) := by
  unfold replicate
  rw [hcount]
  split <;> rfl

theorem settlesUnder_replicate (name : Text) : SettlesUnder ⟨name, [.integer]⟩ replicate := by
  intro value args h
  simp only [fits_integer, fits_nil] at h
  obtain ⟨n, _, rfl, rfl⟩ := h
  rw [replicate_eq (n := n) rfl]
  split
  · exact settles_fail _
  · exact settles_ok _

theorem settles_missingTo (width : Nat) (fill value : Text) : Settles (missingTo width fill value) := by
  unfold missingTo
  split
  · exact settles_fail _
  · split
    · exact settles_fail _
    · exact settles_ok _

/-- The side on which padding puts what is missing. -/
inductive Side
  | left
  | right

namespace Side

/-- Padding on the side. -/
def pad : Side → (List Argument → Outcome FunctionError Text) → PipeFunction
  | left => padLeft
  | right => padRight

/-- What is added on the side, and the value. -/
def join : Side → Text → Text → Text
  | left, added, value => added ++ value
  | right, added, value => value ++ added

theorem pad_eq (side : Side) {fillOf : List Argument → Outcome FunctionError Text} {args : List Argument}
    {fill : Text} {width : Nat} (hfill : fillOf args = .ok fill) (hwidth : fetchCount args 0 = .ok width)
    (value : Text) : side.pad fillOf value args = (missingTo width fill value).map (side.join · value) := by
  cases side
  all_goals
    simp only [pad, padLeft, padRight, hfill, hwidth]
    cases h : missingTo width fill value <;> simp [bind, Except.bind, h] <;> rfl

end Side

/-- Arguments of these types hold a width, and the fill is known with them. -/
def GivesPadding (types : List ArgType) (fillOf : List Argument → Outcome FunctionError Text) : Prop :=
  ∀ args, Fits types args → ∃ fill width, fillOf args = .ok fill ∧ fetchCount args 0 = .ok width

theorem givesPadding_blank : GivesPadding [.integer] blankFill := by
  intro args h
  simp only [fits_integer, fits_nil] at h
  obtain ⟨n, _, rfl, rfl⟩ := h
  exact ⟨[' '], n, rfl, rfl⟩

theorem givesPadding_given : GivesPadding [.integer, .string] givenFill := by
  intro args h
  simp only [fits_integer, fits_string, fits_nil] at h
  obtain ⟨n, _, rfl, fill, _, rfl, rfl⟩ := h
  exact ⟨fill, n, rfl, rfl⟩

theorem settlesUnder_pad {types : List ArgType} {fillOf : List Argument → Outcome FunctionError Text}
    (h : GivesPadding types fillOf) (side : Side) (name : Text) : SettlesUnder ⟨name, types⟩ (side.pad fillOf) := by
  intro value args hfits
  obtain ⟨fill, width, hfill, hwidth⟩ := h args hfits
  rw [side.pad_eq hfill hwidth]
  exact (settles_missingTo width fill value).map _

theorem settlesUnder_decodeBase64 (name : Text) : SettlesUnder ⟨name, []⟩ decodeBase64 := by
  intro value args _
  unfold decodeBase64
  split
  · exact settles_fail _
  · split
    · exact settles_fail _
    · exact settles_ok _

theorem round_eq {args : List Argument} {n : Nat} (hplaces : fetchInt args 0 = .ok (n : Int)) (value : Text) :
    round value args =
      if outputLimit < n then failTooLarge "round".toList n
      else match Number.readBinary64? value.trim with
        | none => fail ('\x27' :: value ++ "' is not a number".toList)
        | some x => if placesLimit < n then abort else .ok (x.toPlaces n) := by
  have hneg : ¬ (n : Int) < 0 := Int.not_lt.mpr (Int.natCast_nonneg n)
  unfold round
  rw [hplaces]
  by_cases hn : outputLimit < n
  · simp [bind, Except.bind, hneg, hn]; rfl
  · cases hx : Number.readBinary64? value.trim with
    | none => simp [bind, Except.bind, hneg, hn]
    | some x => simp [bind, Except.bind, hneg, hn]; rfl

/-- What rounding comes to when it succeeds: the number that the value reads as, with so many places. -/
theorem round_eq_ok {args : List Argument} {value t : Text} :
    round value args = .ok t ↔
      ∃ (n : Nat) (x : Number.Binary64), fetchInt args 0 = .ok (n : Int) ∧ n ≤ placesLimit ∧
        Number.readBinary64? value.trim = some x ∧ x.toPlaces n = t := by
  have hlimits : placesLimit ≤ outputLimit := by decide
  constructor
  · intro h
    obtain ⟨places, hplaces, hrest⟩ := Outcome.bind_eq_ok.mp h
    cases places with
    | negSucc n => simp [Int.negSucc_lt_zero, bind, Except.bind, fail, refuse] at hrest
    | ofNat n =>
      rw [round_eq (n := n) hplaces] at h
      split at h
      · cases h
      · split at h
        · cases h
        · next x hx =>
          split at h
          · cases h
          · next hle => exact ⟨n, x, hplaces, Nat.not_lt.mp hle, hx, Except.ok.inj h⟩
  · rintro ⟨n, x, hplaces, hle, hx, rfl⟩
    rw [round_eq hplaces, if_neg (by omega), hx]
    exact if_neg (Nat.not_lt.mpr hle)

/-- A number is asked for in more places than can be written, but not in so many
that `round` refuses. -/
def OverrunsPlaces (value : Text) (places : Nat) : Prop :=
  placesLimit < places ∧ places ≤ outputLimit ∧ (Number.readBinary64? value.trim).isSome = true

theorem round_cases (value : Text) (n : Nat) :
    OverrunsPlaces value n ∧ round value [.integer n] = abort ∨
      ¬ OverrunsPlaces value n ∧ Settles (round value [.integer n]) := by
  rw [round_eq (n := n) rfl]
  unfold OverrunsPlaces
  by_cases hlarge : outputLimit < n
  · rw [if_pos hlarge]
    exact .inr ⟨fun h => absurd hlarge (Nat.not_lt.mpr h.2.1), settles_fail _⟩
  · rw [if_neg hlarge]
    cases hx : Number.readBinary64? value.trim with
    | none => exact .inr ⟨fun h => (nomatch h.2.2), settles_fail _⟩
    | some x =>
      dsimp only
      by_cases hplaces : placesLimit < n
      · rw [if_pos hplaces]
        exact .inl ⟨⟨hplaces, Nat.not_lt.mp hlarge, rfl⟩, rfl⟩
      · rw [if_neg hplaces]
        exact .inr ⟨fun h => absurd h.1 hplaces, settles_ok _⟩

theorem round_eq_abort_iff {value : Text} {n : Nat} :
    round value [.integer n] = abort ↔ OverrunsPlaces value n := by
  rcases round_cases value n with ⟨hover, habort⟩ | ⟨hover, hsettles⟩
  · exact ⟨fun _ => hover, fun _ => habort⟩
  · exact ⟨fun h => absurd h hsettles.ne_abort, fun h => absurd h hover⟩

/-- The signature of rounding. -/
def roundSignature : Signature := ⟨"round".toList, [.integer]⟩

/-- The function settles under its signature, or it is rounding. -/
def SettlesOrRounds (s : Signature) (f : PipeFunction) : Prop :=
  SettlesUnder s f ∨ s = roundSignature ∧ f = round

theorem minimal_all : minimal.All SettlesOrRounds :=
  (Registry.all_empty _)
    |>.registerUnary (.inl (settlesUnder_unary _ _))
    |>.register (.inl (settlesUnder_putBefore _))
    |>.register (.inl (settlesUnder_putAfter _))

theorem standard_all : standard.All SettlesOrRounds :=
  (Registry.all_empty _)
    |>.merge minimal_all
    |>.registerUnary (.inl (settlesUnder_unary _ _))
    |>.registerUnary (.inl (settlesUnder_unary _ _))
    |>.registerUnary (.inl (settlesUnder_unary _ _))
    |>.registerUnary (.inl (settlesUnder_unary _ _))
    |>.registerUnary (.inl (settlesUnder_unary _ _))
    |>.register (.inl (settlesUnder_whenEmpty _))
    |>.register (.inl (settlesUnder_replace _))
    |>.register (.inl (settlesUnder_truncate _))
    |>.register (.inl (settlesUnder_replicate _))
    |>.register (.inl (settlesUnder_pad givesPadding_blank .left _))
    |>.register (.inl (settlesUnder_pad givesPadding_given .left _))
    |>.register (.inl (settlesUnder_pad givesPadding_blank .right _))
    |>.register (.inl (settlesUnder_pad givesPadding_given .right _))
    |>.register (.inr ⟨rfl, rfl⟩)
    |>.registerUnary (.inl (settlesUnder_unary _ _))
    |>.register (.inl (settlesUnder_decodeBase64 _))

/-- A built-in function settles on arguments that fit, or it is rounding to places
that overrun. -/
theorem settles_or_overruns {r : Registry} (hr : r ∈ builtins) {s : Signature} {f : PipeFunction}
    (hf : r.resolve s = some f) {value : Text} {args : List Argument} (hargs : Fits s.types args) :
    Settles (f value args) ∨
      s = roundSignature ∧ f = round ∧ ∃ places : Nat, args = [.integer places] ∧ OverrunsPlaces value places := by
  have hall : SettlesOrRounds s f := by
    simp only [builtins, List.mem_cons, List.not_mem_nil, or_false] at hr
    rcases hr with rfl | rfl
    · exact minimal_all s f hf
    · exact standard_all s f hf
  rcases hall with hsettles | ⟨rfl, rfl⟩
  · exact .inl (hsettles value args hargs)
  · simp only [roundSignature, fits_integer, fits_nil] at hargs
    obtain ⟨places, _, rfl, rfl⟩ := hargs
    rcases round_cases value places with ⟨hover, -⟩ | ⟨-, hsettles⟩
    · exact .inr ⟨rfl, rfl, places, rfl, hover⟩
    · exact .inl hsettles

end Builtin

/-! ## Renderings with a built-in registry -/

namespace Engine
open Builtin (OverrunsPlaces roundSignature settles_or_overruns)

theorem render_eq_abort_iff_overruns {r : Registry} (hr : r ∈ builtins) {mode : Mode} {params : Params}
    {pattern : Text} :
    render ⟨r.toProvider, mode⟩ params pattern = abort ↔
      ∃ value, ∃ places : Nat,
        Calls ⟨r.toProvider, mode⟩ params pattern roundSignature Builtin.round value [.integer places] ∧
          OverrunsPlaces value places := by
  rw [render_eq_abort_iff]
  constructor
  · rintro ⟨s, f, value, args, hcall, habort⟩
    rcases settles_or_overruns hr hcall.resolve_eq hcall.fits with hsettles | ⟨rfl, rfl, places, rfl, hover⟩
    · exact absurd habort hsettles.ne_abort
    · exact ⟨value, places, hcall, hover⟩
  · rintro ⟨value, places, hcall, hover⟩
    exact ⟨_, _, _, _, hcall, Builtin.round_eq_abort_iff.mpr hover⟩

/-- **A rendering with a built-in registry ends in a text or in an error**, in
either mode, just when it does not come to round a number to more places than can
be written and to no more than the output limit. -/
theorem render_ends_iff {r : Registry} (hr : r ∈ builtins) (mode : Mode) (params : Params) (pattern : Text) :
    ((∃ rendered, render ⟨r.toProvider, mode⟩ params pattern = .ok rendered) ∨
        ∃ e, render ⟨r.toProvider, mode⟩ params pattern = refuse e) ↔
      ¬ ∃ value, ∃ places : Nat,
        Calls ⟨r.toProvider, mode⟩ params pattern roundSignature Builtin.round value [.integer places] ∧
          OverrunsPlaces value places := by
  rw [← render_eq_abort_iff_overruns hr]
  match h : render ⟨r.toProvider, mode⟩ params pattern with
  | .ok rendered => exact ⟨fun _ hc => (nomatch hc), fun _ => .inl ⟨rendered, rfl⟩⟩
  | .error (.error e) => exact ⟨fun _ hc => (nomatch hc), fun _ => .inr ⟨e, rfl⟩⟩
  | .error .abort =>
    constructor
    · rintro (⟨_, hc⟩ | ⟨_, hc⟩) <;> cases hc
    · exact fun hc => absurd rfl hc

/-- A number to round. -/
def onlyNumber : Params := Params.ofList [("n".toList, .integer 2)]

/-- Rounding to one place more than can be written. -/
def overrunBody : Text := "n | round 65536".toList

theorem standard_mem_builtins : standard ∈ builtins := by simp [builtins]

theorem calls_overrun :
    Calls ⟨standard.toProvider, .lenient⟩ onlyNumber (enclose overrunBody) roundSignature Builtin.round ['2']
      [.integer (65536 : Nat)] := by
  have hscan : scan (enclose overrunBody) = [] ++ .placeholder overrunBody :: [] := by decide +kernel
  have hget : onlyNumber.get? (Expression.parse overrunBody).key = some (.integer 2) := rfl
  have hcalls : (Expression.parse overrunBody).calls = [] ++ some ⟨"round".toList, ["65536".toList]⟩ :: [] := by
    decide +kernel
  have htypes : (["65536".toList].mapM (typeOf .lenient)).run = .ok ([.integer], []) := rfl
  have hargs : Argument.ofTokens "round".toList ["65536".toList] [.integer] = .ok [.integer (65536 : Nat)] :=
    rfl
  have hresolve : standard.resolve roundSignature = some Builtin.round := rfl
  exact ⟨_, _, .intro hscan rfl hget hcalls rfl, .intro htypes hargs hresolve⟩

theorem overrun_overruns : OverrunsPlaces ['2'] 65536 := by
  refine ⟨by decide, by decide, by decide⟩

theorem render_ends_iff_overrun :
    standard ∈ builtins ∧
      (((∃ rendered, render ⟨standard.toProvider, .lenient⟩ onlyNumber (enclose overrunBody) = .ok rendered) ∨
          ∃ e, render ⟨standard.toProvider, .lenient⟩ onlyNumber (enclose overrunBody) = refuse e) ↔
        ¬ ∃ value, ∃ places : Nat,
          Calls ⟨standard.toProvider, .lenient⟩ onlyNumber (enclose overrunBody) roundSignature Builtin.round value
              [.integer places] ∧
            OverrunsPlaces value places) ∧
      ∃ value, ∃ places : Nat,
        Calls ⟨standard.toProvider, .lenient⟩ onlyNumber (enclose overrunBody) roundSignature Builtin.round value
            [.integer places] ∧
          OverrunsPlaces value places :=
  ⟨standard_mem_builtins, render_ends_iff standard_mem_builtins .lenient onlyNumber (enclose overrunBody),
    ['2'], 65536, calls_overrun, overrun_overruns⟩

/-- The rendering of this pattern ends the process. -/
theorem render_overrun : render ⟨standard.toProvider, .lenient⟩ onlyNumber (enclose overrunBody) = abort :=
  (render_eq_abort_iff_overruns standard_mem_builtins).mpr ⟨['2'], 65536, calls_overrun, overrun_overruns⟩

end Engine
end Placeholders

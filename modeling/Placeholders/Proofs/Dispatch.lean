/-
What the engine hands to a function. The types of a call are told by its tokens
alone (`Call.types`), whatever the mode; a token always has a value at its type
(`exists_ofTokens`), so calling a function fails only as `invoke_eq` lists:
nothing is registered under the signature, or the function itself fails.
-/
import Placeholders.Render

namespace Placeholders
open Pattern (Call TokenKind isDecimal isQuote isQuoted)

/-- The type under which the engine passes a token on. -/
def ArgType.ofToken (token : Text) : ArgType := (ArgType.ofToken? token).getD .any

/-- Has the token no type of its own? -/
def isUnsupported (token : Text) : Bool := (ArgType.ofToken? token).isNone

/-- The argument types of a call. -/
def Pattern.Call.types (call : Call) : List ArgType := call.args.map ArgType.ofToken

/-- What a call is looked up by. -/
def Pattern.Call.signature (call : Call) : Signature := ⟨call.function, call.types⟩

/-! ## Kinds and types -/

theorem isQuoted_of_kind {token : Text} (h : TokenKind.of token = .stringLiteral) : isQuoted token = true := by
  unfold TokenKind.of at h
  split at h
  · next hq => exact hq
  · split at h
    · cases h
    · split at h <;> cases h

theorem isDigits_of_kind {token : Text} (h : TokenKind.of token = .integer) : Text.isDigits token = true := by
  unfold TokenKind.of at h
  split at h
  · cases h
  · split at h
    · next hd => exact hd
    · split at h <;> cases h

theorem isDecimal_of_kind {token : Text} (h : TokenKind.of token = .float) : isDecimal token = true := by
  unfold TokenKind.of at h
  split at h
  · cases h
  · split at h
    · cases h
    · split at h
      · next hd => exact hd
      · cases h

theorem isDigit_of_isDigits {t : Text} (h : Text.isDigits t = true) : ∀ c ∈ t, c.isDigit = true := by
  simp only [Text.isDigits, Bool.and_eq_true, List.all_eq_true] at h
  exact h.2

theorem isEmpty_of_isDigits {t : Text} (h : Text.isDigits t = true) : t.isEmpty = false := by
  simp only [Text.isDigits, Bool.and_eq_true, Bool.not_eq_true'] at h
  exact h.1

theorem signOf_of_isDigit {c : Char} (h : c.isDigit = true) (r : Text) :
    Number.signOf (c :: r) = (false, c :: r) := by
  unfold Number.signOf
  split
  · next heq => cases heq; exact absurd h (by decide)
  · next heq => cases heq; exact absurd h (by decide)
  · rfl

theorem signOf_of_isDigits {t : Text} (h : Text.isDigits t = true) : Number.signOf t = (false, t) := by
  cases t with
  | nil => rfl
  | cons c r => exact signOf_of_isDigit (isDigit_of_isDigits h c List.mem_cons_self) r

/-- A run of digits is read as its value, if that fits. -/
theorem readInt64?_of_isDigits {t : Text} (h : Text.isDigits t = true) :
    Number.readInt64? t =
      if (Text.digitsValue t : Int) ≤ Number.maxInt64 then some (Text.digitsValue t : Int) else none := by
  have hmin : Number.minInt64 ≤ (Text.digitsValue t : Int) :=
    Int.le_trans (by decide) (Int.natCast_nonneg (Text.digitsValue t))
  simp [Number.readInt64?, Number.readInt?, signOf_of_isDigits h, h, hmin, Option.filter_some]

/-- A run of digits is read as an integer just when its value fits. -/
theorem isSome_readInt64? {t : Text} (h : Text.isDigits t = true) :
    (Number.readInt64? t).isSome = true ↔ (Text.digitsValue t : Int) ≤ Number.maxInt64 := by
  rw [readInt64?_of_isDigits h, Option.isSome_ite]

/-- A token has either no type or the type of its kind. -/
theorem ofKind_of_ofToken? {token : Text} {type : ArgType} (h : ArgType.ofToken? token = some type) :
    type = .ofKind (TokenKind.of token) := by
  unfold ArgType.ofToken? at h
  split at h
  · cases h
  · next hk =>
    split at h
    · cases h; rw [hk]; rfl
    · cases h
  · exact (Option.some.inj h).symm

/-- Only opaque tokens and integers that are too great have no type. -/
theorem isUnsupported_iff (token : Text) :
    isUnsupported token = true ↔ TokenKind.of token = .opaqueText ∨
      TokenKind.of token = .integer ∧ Number.maxInt64 < (Text.digitsValue token : Int) := by
  unfold isUnsupported ArgType.ofToken?
  cases hk : TokenKind.of token with
  | stringLiteral | float => simp
  | opaqueText => simp
  | integer =>
    have hread := isSome_readInt64? (isDigits_of_kind hk)
    by_cases hfit : (Number.readInt64? token).isSome = true
    · simp [hfit, hread.mp hfit]
    · simp only [hfit]
      simpa [hread] using hfit

/-! ## Tokens have values at their types -/

theorem utf8Size_of_isQuote {c : Char} (h : isQuote c = true) : c.utf8Size = 1 := by
  simp only [isQuote, Bool.or_eq_true, beq_iff_eq] at h
  rcases h with rfl | rfl <;> rfl

theorem exists_unquote? {token : Text} (h : isQuoted token = true) : ∃ t, unquote? token = some t := by
  cases token with
  | nil => simp [isQuoted] at h
  | cons first r =>
    simp only [isQuoted, Bool.and_eq_true, beq_iff_eq] at h
    obtain ⟨hq, hlast⟩ := h
    have hone := utf8Size_of_isQuote hq
    exact ⟨r.dropLast, by simp [unquote?, hlast, hone]⟩

theorem isQuoted_of_ofToken? {token : Text} (h : ArgType.ofToken? token = some .string) :
    isQuoted token = true := by
  apply isQuoted_of_kind
  have hk := ofKind_of_ofToken? h
  cases hkind : TokenKind.of token <;> rw [hkind] at hk <;> first | rfl | cases hk

theorem exists_ofToken? (token : Text) : ∃ a, Argument.ofToken? token (ArgType.ofToken token) = some a := by
  unfold ArgType.ofToken
  cases h : ArgType.ofToken? token with
  | none => exact ⟨_, rfl⟩
  | some type =>
    cases type with
    | string =>
      obtain ⟨t, ht⟩ := exists_unquote? (isQuoted_of_ofToken? h)
      exact ⟨.string t, by simp [Argument.ofToken?, ht]⟩
    | integer | float | any => exact ⟨_, rfl⟩

theorem exists_mapM_ofToken? (tokens : List Text) :
    ∃ args, ((tokens.zip (tokens.map ArgType.ofToken)).mapM fun (token, type) =>
      Argument.ofToken? token type) = some args := by
  induction tokens with
  | nil => exact ⟨[], rfl⟩
  | cons token tokens ih =>
    obtain ⟨a, ha⟩ := exists_ofToken? token
    obtain ⟨args, hargs⟩ := ih
    exact ⟨a :: args, by simp [List.mapM_cons, ha, hargs]⟩

theorem exists_ofTokens (call : Call) :
    ∃ args, Argument.ofTokens call.function call.args call.types = .ok args := by
  obtain ⟨args, h⟩ := exists_mapM_ofToken? call.args
  exact ⟨args, by simp [Argument.ofTokens, Call.types, h]⟩

namespace Engine

/-- A call looks up one signature and, if something is registered there, applies it. -/
theorem invoke_eq (provider : Provider) (value : Text) (call : Call) :
    ∃ args, Argument.ofTokens call.function call.args call.types = .ok args ∧
      invoke provider value call call.types =
        match provider.resolve call.signature with
        | none => refuse (.functionNotFound call.function call.types provider.name)
        | some f => (f value args).mapError (.invocationFailed call.function provider.name) := by
  obtain ⟨args, h⟩ := exists_ofTokens call
  refine ⟨args, h, ?_⟩
  unfold invoke
  rw [h]
  rfl

/-! ## The types of a call -/

/-- What a lenient engine notes of the arguments of a call. -/
def argumentIssues (args : List Text) : List Issue :=
  (args.filter isUnsupported).map fun token => ⟨.warning, .unsupportedArgumentType token⟩

theorem run_typeOf_lenient (token : Text) :
    (typeOf .lenient token).run = .ok (ArgType.ofToken token, argumentIssues [token]) := by
  unfold typeOf argumentIssues ArgType.ofToken isUnsupported
  cases h : ArgType.ofToken? token with
  | none => simp [h]; rfl
  | some type => simp [h]

theorem run_mapM_typeOf_lenient (args : List Text) :
    (args.mapM (typeOf .lenient)).run = .ok (args.map ArgType.ofToken, argumentIssues args) := by
  induction args with
  | nil => rfl
  | cons token args ih =>
    have happ : argumentIssues (token :: args) = argumentIssues [token] ++ argumentIssues args := by
      simp only [argumentIssues, ← List.map_append, ← List.filter_append, List.singleton_append]
    rw [List.mapM_cons, Noting.run_bind, run_typeOf_lenient]
    simp only [Noting.run_bind, ih, Noting.run_pure, List.append_nil, List.map_cons, happ]

/-! ## One stage of a lenient pipeline -/

theorem run_runStage_lenient (provider : Provider) (key value : Text) (call : Call) :
    (runStage ⟨provider, .lenient⟩ key value (some call)).run =
      (Noting.ofStage .lenient value (invoke provider value call call.types)).run.map
        fun (next, issues) => (next, argumentIssues call.args ++ issues) := by
  unfold runStage Call.types
  rw [Noting.run_bind, run_mapM_typeOf_lenient]
  dsimp only
  cases (Noting.ofStage .lenient value (invoke provider value call (call.args.map ArgType.ofToken))).run with
  | error e => rfl
  | ok result => rfl

/-- All that a stage can do: the next value and what is noted. -/
inductive LenientStage (provider : Provider) (key value : Text) : Option Call → Text → List Issue → Prop
  | blank : LenientStage provider key value none value [⟨.error, .emptyStage key⟩]
  | notFound {call} : provider.resolve call.signature = none →
      LenientStage provider key value (some call) value
        (argumentIssues call.args ++ [⟨.error, .functionNotFound call.function call.types provider.name⟩])
  | failed {call f args e} : provider.resolve call.signature = some f →
      Argument.ofTokens call.function call.args call.types = .ok args → f value args = refuse e →
      LenientStage provider key value (some call) value
        (argumentIssues call.args ++ [⟨.error, .invocationFailed call.function provider.name e⟩])
  | applied {call f args next} : provider.resolve call.signature = some f →
      Argument.ofTokens call.function call.args call.types = .ok args → f value args = .ok next →
      LenientStage provider key value (some call) next (argumentIssues call.args)

theorem lenientStage_of_run {provider : Provider} {key value next : Text} {stage : Option Call}
    {issues : List Issue} (h : (runStage ⟨provider, .lenient⟩ key value stage).run = .ok (next, issues)) :
    LenientStage provider key value stage next issues := by
  cases stage with
  | none => cases h; exact .blank
  | some call =>
    obtain ⟨args, hargs, hinvoke⟩ := invoke_eq provider value call
    rw [run_runStage_lenient, hinvoke] at h
    cases hresolve : provider.resolve call.signature with
    | none =>
      rw [hresolve] at h
      cases h
      exact .notFound hresolve
    | some f =>
      rw [hresolve] at h
      dsimp only at h
      match hf : f value args with
      | .ok t =>
        rw [hf] at h
        cases h
        rw [List.append_nil]
        exact .applied hresolve hargs hf
      | .error (.error e) =>
        rw [hf] at h
        cases h
        exact .failed hresolve hargs hf
      | .error .abort =>
        rw [hf] at h
        cases h

end Engine
end Placeholders

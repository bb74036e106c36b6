/-
Arguments that are written out are handed over as they were meant
(`render_oneCall`): a text in quotes with every character that is between them, and
a numeral as its number, whatever the other arguments are. So the writing of a
call undoes the cut at the braces and at the bar, the trimming, the tokens, the
look at their shapes and the lookup by types.
-/
import Placeholders.Proofs.Arguments
import Placeholders.Proofs.Bodies
import Placeholders.Proofs.Tokens
import Mathlib.Algebra.Order.Ring.Nat

namespace Placeholders
open Pattern (Call Expression IsBody Segment TokenKind Tokenized Units enclose isBlank_of_isQuote isQuote isQuoted scan
  scan_enclose scan_nil spaced tokenize)

/-- An argument that can be written: a text in quotes of a kind that it does not
have, without a bar and a closing brace; or a number that fits 64 bits. -/
inductive Literal
  | quoted (mark : Char) (text : Text) (isMark : isQuote mark = true) (fresh : mark ∉ text)
      (plain : '|' ∉ text ∧ '}' ∉ text)
  | number (n : Nat) (fits : n < 2 ^ 63)

namespace Literal

/-- The token that writes the argument. -/
def token : Literal → Text
  | quoted mark text .. => mark :: (text ++ [mark])
  | number n _ => Text.ofNat n

/-- The type that the argument is looked up by. -/
def type : Literal → ArgType
  | quoted .. => .string
  | number .. => .integer

/-- The value that the function gets. -/
def argument : Literal → Argument
  | quoted _ text .. => .string text
  | number n _ => .integer n

end Literal

/-! ## One argument -/

theorem not_isQuote_of_isDigit {c : Char} (h : c.isDigit = true) : isQuote c = false := by
  cases hq : isQuote c with
  | false => rfl
  | true =>
    simp only [isQuote, Bool.or_eq_true, beq_iff_eq] at hq
    rcases hq with rfl | rfl <;> cases h

theorem isQuoted_of_isDigits {t : Text} (h : Text.isDigits t = true) : isQuoted t = false := by
  cases t with
  | nil => rfl
  | cons c r => simp [isQuoted, not_isQuote_of_isDigit (isDigit_of_isDigits h c List.mem_cons_self)]

/-- Neither blanks nor quote marks are in the text. -/
def IsUnbroken (t : Text) : Prop := ∀ c ∈ t, Text.isBlank c = false ∧ isQuote c = false

theorem isUnbroken_ofNat (n : Nat) : IsUnbroken (Text.ofNat n) := fun c hc =>
  have hdigit := isDigit_of_isDigits (isDigits_ofNat n) c hc
  ⟨not_isBlank_of_isDigit hdigit, not_isQuote_of_isDigit hdigit⟩

theorem IsUnbroken.units {t : Text} (h : IsUnbroken t) (rest : Text) : Units t rest := by
  induction t with
  | nil => exact .nil
  | cons c t ih =>
    obtain ⟨hblank, hquote⟩ := h c List.mem_cons_self
    refine .single hblank (fun hq => ?_) (ih fun d hd => h d (List.mem_cons_of_mem c hd))
    rw [hquote] at hq
    cases hq

namespace Literal

theorem token_ne_nil (l : Literal) : l.token ≠ [] := by
  cases l with
  | quoted mark text => exact List.cons_ne_nil _ _
  | number n => exact Nat.toDigits_ne_nil

/-- A written argument is one token, whatever follows it. -/
theorem units (l : Literal) (rest : Text) : Units l.token rest := by
  cases l with
  | quoted mark text isMark fresh => exact .quoted isMark fresh .nil
  | number n => exact (isUnbroken_ofNat n).units rest

theorem plain_token (l : Literal) : '|' ∉ l.token ∧ '}' ∉ l.token := by
  cases l with
  | quoted mark text isMark _ plain =>
    have hbar : '|' ≠ mark := by rintro rfl; cases isMark
    have hbrace : '}' ≠ mark := by rintro rfl; cases isMark
    simp [token, hbar, hbrace, plain]
  | number n =>
    have hdigit := isDigit_of_isDigits (isDigits_ofNat n)
    exact ⟨fun h => (nomatch hdigit _ h), fun h => (nomatch hdigit _ h)⟩

theorem isQuoted_token {mark : Char} (isMark : isQuote mark = true) (text : Text) :
    isQuoted (mark :: (text ++ [mark])) = true := by
  simp [isQuoted, isMark]

theorem readInt64?_ofNat {n : Nat} (fits : n < 2 ^ 63) : Number.readInt64? (Text.ofNat n) = some (n : Int) := by
  have hfits : (n : Int) ≤ Number.maxInt64 := by
    unfold Number.maxInt64
    omega
  rw [readInt64?_of_isDigits (isDigits_ofNat n), digitsValue_ofNat, if_pos hfits]

/-- The type of a written argument is told from its token. -/
theorem ofToken?_token (l : Literal) : ArgType.ofToken? l.token = some l.type := by
  cases l with
  | quoted mark text isMark =>
    simp [ArgType.ofToken?, TokenKind.of, token, isQuoted_token isMark, type, ArgType.ofKind]
  | number n fits =>
    have hkind : TokenKind.of (Text.ofNat n) = .integer := by
      simp [TokenKind.of, isQuoted_of_isDigits (isDigits_ofNat n), isDigits_ofNat n]
    simp [ArgType.ofToken?, token, hkind, readInt64?_ofNat fits, type]

/-- The value of a written argument is read from its token. -/
theorem argument_token (l : Literal) : Argument.ofToken? l.token l.type = some l.argument := by
  cases l with
  | quoted mark text isMark =>
    have hsize := utf8Size_of_isQuote isMark
    simp [Argument.ofToken?, token, type, argument, unquote?, hsize]
  | number n fits => simp [Argument.ofToken?, token, type, argument, readInt64?_ofNat fits]

end Literal

/-! ## One call -/

/-- A name that a function can be called by. -/
structure IsName (function : Text) : Prop where
  nonempty : function ≠ []
  unbroken : IsUnbroken function
  plain : '|' ∉ function ∧ '}' ∉ function

/-- A call as it is written: the name and the arguments, with single spaces between them. -/
def callText (function : Text) (literals : List Literal) : Text :=
  List.intercalate [' '] (function :: literals.map Literal.token)

theorem tokenize_callText {function : Text} (hname : IsName function) (literals : List Literal) :
    tokenize (callText function literals) = function :: literals.map Literal.token := by
  refine (Pattern.tokenized_spaced fun t ht => ?_).tokenize_joined
  rcases List.mem_cons.mp ht with rfl | ht
  · exact ⟨hname.nonempty, hname.unbroken.units⟩
  · obtain ⟨l, -, rfl⟩ := List.mem_map.mp ht
    exact ⟨l.token_ne_nil, l.units⟩

theorem plain_callText {function : Text} (hname : IsName function) (literals : List Literal) :
    '|' ∉ callText function literals ∧ '}' ∉ callText function literals := by
  have hplain : ∀ c ∈ callText function literals, c ≠ '|' ∧ c ≠ '}' := by
    intro c hc
    rcases Pattern.mem_intercalate_space hc with rfl | ⟨t, ht, hct⟩
    · decide
    · rcases List.mem_cons.mp ht with rfl | ht
      · exact ⟨fun h => hname.plain.1 (h ▸ hct), fun h => hname.plain.2 (h ▸ hct)⟩
      · obtain ⟨l, -, rfl⟩ := List.mem_map.mp ht
        exact ⟨fun h => l.plain_token.1 (h ▸ hct), fun h => l.plain_token.2 (h ▸ hct)⟩
  exact ⟨fun h => (hplain _ h).1 rfl, fun h => (hplain _ h).2 rfl⟩

theorem callText_ne_nil {function : Text} (hname : IsName function) (literals : List Literal) :
    callText function literals ≠ [] := by
  intro hnil
  have htokens := tokenize_callText hname literals
  rw [hnil, Pattern.tokenize_of_dropWhile_nil rfl] at htokens
  cases htokens

/-- A key that can be written. -/
structure IsKey (key : Text) : Prop where
  trimmed : key.trim = key
  plain : '|' ∉ key ∧ '}' ∉ key

/-- The body of a placeholder with one call. -/
def oneCall (key function : Text) (literals : List Literal) : Text :=
  key ++ (" | ".toList ++ callText function literals)

section
variable {key function : Text} (hkey : IsKey key) (hname : IsName function) (literals : List Literal)
include hkey hname

theorem isBody_oneCall : IsBody (oneCall key function literals) := by
  refine ⟨by simp [oneCall], fun hbrace => ?_⟩
  rcases List.mem_append.mp hbrace with hbrace | hbrace
  · exact hkey.plain.2 hbrace
  · rcases List.mem_append.mp hbrace with hbrace | hbrace
    · exact absurd hbrace (by decide)
    · exact (plain_callText hname literals).2 hbrace

theorem parse_oneCall :
    Expression.parse (oneCall key function literals) = ⟨key, [(callText function literals).trim]⟩ := by
  have hparse := Expression.parse_oneStage hkey.plain.1 (callText_ne_nil hname literals)
    (plain_callText hname literals).1
  rw [hkey.trimmed] at hparse
  exact hparse

theorem calls_oneCall :
    (Expression.parse (oneCall key function literals)).calls =
      [some ⟨function, literals.map Literal.token⟩] := by
  have hcall : Call.parse? (callText function literals).trim = some ⟨function, literals.map Literal.token⟩ := by
    unfold Call.parse?
    rw [Pattern.tokenize_trim, tokenize_callText hname]
  rw [parse_oneCall hkey hname, Expression.calls, List.map_singleton, hcall]

end

/-! ## One rendering -/

theorem ofTokens_literals (function : Text) (literals : List Literal) :
    Argument.ofTokens function (literals.map Literal.token) (literals.map Literal.type) =
      .ok (literals.map Literal.argument) := by
  have hvalues : ((literals.map Literal.token).zip (literals.map Literal.type)).mapM
      (fun p => Argument.ofToken? p.1 p.2) = some (literals.map Literal.argument) := by
    induction literals with
    | nil => rfl
    | cons l literals ih => simp [List.mapM_cons, l.argument_token, ih]
  have hlength : (literals.map Literal.token).length = (literals.map Literal.type).length := by
    rw [List.length_map, List.length_map]
  unfold Argument.ofTokens
  rw [if_pos hlength]
  split
  · next args hargs =>
    cases hvalues.symm.trans hargs
    rfl
  · next hnone => cases hvalues.symm.trans hnone

namespace Engine

theorem mapM_typeOf_literals (mode : Mode) (literals : List Literal) :
    (literals.map Literal.token).mapM (typeOf mode) = pure (literals.map Literal.type) := by
  induction literals with
  | nil => rfl
  | cons l literals ih =>
    have htype : typeOf mode l.token = pure l.type := by
      unfold typeOf
      rw [l.ofToken?_token]
    rw [List.map_cons, List.mapM_cons, htype, pure_bind, ih, pure_bind, List.map_cons]

theorem renderSegments_singleton (engine : Engine) (params : Params) (s : Segment) :
    engine.renderSegments params [s] = engine.renderSegment params s := by
  unfold renderSegments
  rw [List.mapM_cons]
  cases engine.renderSegment params s with
  | error e => rfl
  | ok part => simp [bind, Except.bind, pure, Except.pure, Except.map]

variable {params : Params} {key function : Text} {value : ParamValue} {literals : List Literal} {f : PipeFunction}

/-- A placeholder with one call comes to what its function gives on the arguments as they were meant. -/
theorem evaluate_oneCall {engine : Engine} (hget : params.get? key = some value) (hkey : IsKey key)
    (hname : IsName function) (hresolve : engine.provider.resolve ⟨function, literals.map Literal.type⟩ = some f) :
    engine.evaluate params (oneCall key function literals) =
      Noting.ofStage engine.mode value.toText
        ((f value.toText (literals.map Literal.argument)).mapError
          (.invocationFailed function engine.provider.name)) := by
  have hparsed : (Expression.parse (oneCall key function literals)).key = key := by
    rw [parse_oneCall hkey hname]
  rw [evaluate_of_get?_some engine (hparsed.symm ▸ hget), calls_oneCall hkey hname, hparsed, List.foldlM_cons]
  simp only [List.foldlM_nil, bind_pure, runStage, mapM_typeOf_literals, pure_bind, invoke, ofTokens_literals,
    hresolve]

/-- **Arguments are handed over as they were meant.** A strict rendering of a
placeholder with one call of written arguments comes to what the function gives
on them, if that is a text; else to its failure under the name of the call. -/
theorem render_oneCall {provider : Provider} (hget : params.get? key = some value) (hkey : IsKey key)
    (hname : IsName function) (hresolve : provider.resolve ⟨function, literals.map Literal.type⟩ = some f) :
    render ⟨provider, .strict⟩ params (enclose (oneCall key function literals)) =
      match f value.toText (literals.map Literal.argument) with
      | .ok t => .ok ⟨t, []⟩
      | .error (.error e) => refuse (.invocationFailed function provider.name e)
      | .error .abort => abort := by
  have hscan : scan (enclose (oneCall key function literals)) = [.placeholder (oneCall key function literals)] := by
    have hcut := scan_enclose (isBody_oneCall hkey hname literals) []
    rwa [List.append_nil, scan_nil] at hcut
  rw [render, hscan, renderSegments_singleton, renderSegment_placeholder, evaluate_oneCall hget hkey hname hresolve]
  match f value.toText (literals.map Literal.argument) with
  | .ok t => rfl
  | .error (.error e) => rfl
  | .error .abort => rfl

/-- A number, and a text with a blank and the other quote mark in it. -/
def numberAndText : List Literal := [.number 7 (by decide), .quoted '"' "it's ".toList rfl (by decide) (by decide)]

theorem render_oneCall_padLeft :
    onlyA.get? ['a'] = some (.string ['v']) ∧ IsKey ['a'] ∧ IsName "pad_left".toList ∧
      standard.resolve ⟨"pad_left".toList, numberAndText.map Literal.type⟩ =
          some (Builtin.padLeft Builtin.givenFill) ∧
        render ⟨standard.toProvider, .strict⟩ onlyA (enclose "a | pad_left 7 \"it's \"".toList) =
          .ok ⟨"it's iv".toList, []⟩ := by
  have hget : onlyA.get? ['a'] = some (.string ['v']) := by cbv
  have hkey : IsKey ['a'] := ⟨by decide, by decide⟩
  have hall : "pad_left".toList.all (fun c => !Text.isBlank c && !isQuote c) = true := by cbv
  have hname : IsName "pad_left".toList :=
    ⟨by decide, fun c hc => by simpa using List.all_eq_true.mp hall c hc, by decide⟩
  have hresolve : standard.toProvider.resolve ⟨"pad_left".toList, numberAndText.map Literal.type⟩ =
      some (Builtin.padLeft Builtin.givenFill) := by cbv
  have hvalue : Builtin.padLeft Builtin.givenFill ['v'] (numberAndText.map Literal.argument) =
      .ok "it's iv".toList := by cbv
  have hbody : oneCall ['a'] "pad_left".toList numberAndText = "a | pad_left 7 \"it's \"".toList := by cbv
  have hrender := render_oneCall hget hkey hname hresolve
  rw [hbody, show ParamValue.toText (.string ['v']) = ['v'] from rfl, hvalue] at hrender
  exact ⟨hget, hkey, hname, hresolve, hrender⟩

end Engine
end Placeholders

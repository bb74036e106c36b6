/-
Tokens of decimal digits. Their value is told by places (`placeValue`), so zeros in
front count for nothing, and the one bound on it is the greatest signed 64-bit number:
up to there the token is an integer of just that value, and beyond it the token has no
type and is handed over as it stands (`integer_tokens`). The look at the type and the
reading of the value agree on where the bound is, because both read the same digits.
-/
import Placeholders.Proofs.Quoting
import Mathlib.Data.List.Induction
import Mathlib.Data.Nat.Digits.Defs

namespace Placeholders
open Pattern (Call TokenKind)

namespace Text

/-- The value of decimal digits, by their places from the right. -/
def placeValue (t : Text) : Nat := Nat.ofDigits 10 (t.reverse.map fun c => c.toNat - '0'.toNat)

theorem placeValue_concat (t : Text) (c : Char) : placeValue (t ++ [c]) = 10 * placeValue t + (c.toNat - '0'.toNat) := by
  simp only [placeValue, List.reverse_append, List.reverse_singleton, List.singleton_append, List.map_cons,
    Nat.ofDigits_cons]
  omega

theorem digitsValue_eq_placeValue (t : Text) : digitsValue t = placeValue t := by
  induction t using List.reverseRecOn with
  | nil => rfl
  | append_singleton t c ih =>
    rw [placeValue_concat, ← ih, digitsValue, Nat.ofDigitChars_append, Nat.ofDigitChars_cons, Nat.ofDigitChars_nil]
    rfl

end Text

open Text (isDigits placeValue)

variable {token : Text}

/-- What a token of digits stands for: its value if that fits 64 bits, and else the token itself. -/
def Argument.ofDigits (token : Text) : Argument :=
  if placeValue token < 2 ^ 63 then .integer (placeValue token) else .raw token

/-! ## The type of one token -/

theorem kind_of_isDigits (h : isDigits token = true) : TokenKind.of token = .integer := by
  simp [TokenKind.of, isQuoted_of_isDigits h, h]

/-- A token of digits is read as its value, if that fits. -/
theorem readInt64?_eq (h : isDigits token = true) :
    Number.readInt64? token = if placeValue token < 2 ^ 63 then some (placeValue token : Int) else none := by
  rw [readInt64?_of_isDigits h, Text.digitsValue_eq_placeValue]
  refine if_congr ?_ rfl rfl
  rw [Number.maxInt64]
  omega

theorem ofToken?_of_isDigits (h : isDigits token = true) :
    ArgType.ofToken? token = if placeValue token < 2 ^ 63 then some .integer else none := by
  unfold ArgType.ofToken?
  rw [kind_of_isDigits h, readInt64?_eq h]
  by_cases hfits : placeValue token < 2 ^ 63
  · simp only [if_pos hfits, Option.isSome_some]
    rfl
  · simp only [if_neg hfits, Option.isSome_none]
    rfl

theorem isDigits_of_ofToken? (h : ArgType.ofToken? token = some .integer) : isDigits token = true := by
  have hkind := ofKind_of_ofToken? h
  exact isDigits_of_kind (ofKind_injective (j := .integer) hkind).symm

theorem ofToken?_eq_integer_iff :
    ArgType.ofToken? token = some .integer ↔ isDigits token = true ∧ placeValue token < 2 ^ 63 := by
  refine ⟨fun h => ?_, fun h => ?_⟩
  · have hdigits := isDigits_of_ofToken? h
    rw [ofToken?_of_isDigits hdigits] at h
    by_cases hfits : placeValue token < 2 ^ 63
    · exact ⟨hdigits, hfits⟩
    · rw [if_neg hfits] at h
      cases h
  · rw [ofToken?_of_isDigits h.1, if_pos h.2]

/-! ## The value of one token -/

theorem argument_of_isDigits (h : isDigits token = true) :
    Argument.ofToken? token (ArgType.ofToken token) = some (.ofDigits token) := by
  unfold ArgType.ofToken Argument.ofDigits
  rw [ofToken?_of_isDigits h]
  by_cases hfits : placeValue token < 2 ^ 63
  · simp only [if_pos hfits, Option.getD_some, Argument.ofToken?, readInt64?_eq h, Option.elim_some]
  · simp only [if_neg hfits, Option.getD_none, Argument.ofToken?]

theorem getElem?_of_ofTokens {call : Call} {args : List Argument} {i : Nat}
    (h : Argument.ofTokens call.function call.args call.types = .ok args) (hi : call.args[i]? = some token)
    (hdigits : isDigits token = true) : args[i]? = some (.ofDigits token) := by
  obtain ⟨hlength, hpointwise⟩ := List.forall₂_iff_get.mp (forall₂_of_ofTokens h)
  obtain ⟨hlt, rfl⟩ := List.getElem?_eq_some_iff.mp hi
  have hlt' : i < args.length := hlength ▸ hlt
  have hvalue : Argument.ofToken? call.args[i] (ArgType.ofToken call.args[i]) = some args[i] := hpointwise i hlt hlt'
  rw [argument_of_isDigits hdigits] at hvalue
  rw [List.getElem?_eq_getElem hlt', hvalue]

namespace Engine

/-- A lenient engine that finds a function hands it what a token of digits stands for, at its place. -/
theorem exists_handed {provider : Provider} {call : Call} {f : PipeFunction} {i : Nat} (key value : Text)
    (hi : call.args[i]? = some token) (hdigits : isDigits token = true)
    (hresolve : provider.resolve call.signature = some f) :
    ∃ args, args[i]? = some (.ofDigits token) ∧
      (runStage ⟨provider, .lenient⟩ key value (some call)).run =
        (Noting.ofStage .lenient value
          ((f value args).mapError (.invocationFailed call.function provider.name))).run.map
            fun (next, issues) => (next, argumentIssues call.args ++ issues) := by
  obtain ⟨args, hargs, hinvoke⟩ := invoke_eq provider value call
  refine ⟨args, getElem?_of_ofTokens hargs hi hdigits, ?_⟩
  rw [run_runStage_lenient, hinvoke, hresolve]

/-- **Integers are exact as far as 64 bits go.** Just the tokens of digits whose value is below
`2 ^ 63` have the type of integers, whatever zeros they begin with, and then the value is
that of the digits. Any other token of digits is of the same kind, but has no type: a
strict engine ends with an error that names the token, and a lenient one notes it. What a
lenient engine hands to a function for the one is the integer, and for the other the
token as it stands. -/
theorem integer_tokens (token : Text) :
    (ArgType.ofToken? token = some .integer ↔ isDigits token = true ∧ placeValue token < 2 ^ 63) ∧
    (isDigits token = true →
      TokenKind.of token = .integer ∧
      (placeValue token < 2 ^ 63 → Argument.ofToken? token .integer = some (.integer (placeValue token))) ∧
      (2 ^ 63 ≤ placeValue token →
        (typeOf .strict token).run = refuse (.unsupportedArgumentType token) ∧
        (typeOf .lenient token).run = .ok (.any, [⟨.warning, .unsupportedArgumentType token⟩]) ∧
        Argument.ofToken? token .any = some (.raw token)) ∧
      ∀ (provider : Provider) (key value : Text) (call : Call) (f : PipeFunction) (i : Nat),
        call.args[i]? = some token → provider.resolve call.signature = some f →
        ∃ args, args[i]? = some (if placeValue token < 2 ^ 63 then .integer (placeValue token) else .raw token) ∧
          (runStage ⟨provider, .lenient⟩ key value (some call)).run =
            (Noting.ofStage .lenient value
              ((f value args).mapError (.invocationFailed call.function provider.name))).run.map
                fun (next, issues) => (next, argumentIssues call.args ++ issues)) := by
  refine ⟨ofToken?_eq_integer_iff, fun hdigits => ⟨kind_of_isDigits hdigits, fun hfits => ?_, fun hbeyond => ?_, ?_⟩⟩
  · rw [Argument.ofToken?, readInt64?_eq hdigits, if_pos hfits]
    rfl
  · have hnone : ArgType.ofToken? token = none := by
      rw [ofToken?_of_isDigits hdigits, if_neg (Nat.not_lt.mpr hbeyond)]
    unfold typeOf
    rw [hnone]
    exact ⟨rfl, rfl, rfl⟩
  · intro provider key value call f i hi hresolve
    exact exists_handed key value hi hdigits hresolve

/-- The greatest integer with zeros in front of it, and the next one. -/
def greatestAndNext : Call := ⟨['f'], ["0009223372036854775807".toList, "9223372036854775808".toList]⟩

/-- Every function gives its second argument back, if that is a text. -/
def second : Provider := ⟨"second".toList, fun _ => some fun value args => .ok ((args[1]?.bind (·.text?)).getD value)⟩

theorem integer_tokens_greatestAndNext :
    isDigits "0009223372036854775807".toList = true ∧ isDigits "9223372036854775808".toList = true ∧
      ArgType.ofToken? "0009223372036854775807".toList = some .integer ∧
      Argument.ofToken? "0009223372036854775807".toList .integer = some (.integer 9223372036854775807) ∧
      (typeOf .strict "9223372036854775808".toList).run =
        refuse (.unsupportedArgumentType "9223372036854775808".toList) ∧
      (runStage ⟨second, .lenient⟩ ['k'] ['v'] (some greatestAndNext)).run =
        .ok ("9223372036854775808".toList,
          [⟨.warning, .unsupportedArgumentType "9223372036854775808".toList⟩]) := by
  have hgreatest : isDigits "0009223372036854775807".toList = true := by decide +kernel
  have hnext : isDigits "9223372036854775808".toList = true := by decide +kernel
  have hvalue : placeValue "0009223372036854775807".toList = 9223372036854775807 := by decide +kernel
  have hbeyond : 2 ^ 63 ≤ placeValue "9223372036854775808".toList := by decide +kernel
  obtain ⟨htype, hinteger⟩ := integer_tokens "0009223372036854775807".toList
  obtain ⟨-, hraw⟩ := integer_tokens "9223372036854775808".toList
  obtain ⟨-, hexact, -, -⟩ := hinteger hgreatest
  obtain ⟨-, -, hrefused, hhanded⟩ := hraw hnext
  obtain ⟨args, hargs, hrun⟩ := hhanded second ['k'] ['v'] greatestAndNext _ 1 rfl rfl
  rw [if_neg (Nat.not_lt.mpr hbeyond)] at hargs
  refine ⟨hgreatest, hnext, htype.mpr ⟨hgreatest, ?_⟩, ?_, (hrefused hbeyond).1, ?_⟩
  · rw [hvalue]
    decide
  · rw [hexact (by rw [hvalue]; decide), hvalue]
    rfl
  · rw [hrun, hargs]
    have hissues : argumentIssues greatestAndNext.args =
        [⟨.warning, .unsupportedArgumentType "9223372036854775808".toList⟩] := by decide +kernel
    rw [hissues]
    rfl

end Engine
end Placeholders

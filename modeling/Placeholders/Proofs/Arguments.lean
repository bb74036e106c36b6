/-
The arguments that a function is handed. A token has a value of its own type
(`hasType_of_ofToken?`), so the arguments of a call are of the types that it is
looked up by, one by one (`fits_of_ofTokens`), and the types are the same in
either mode whenever they are found at all (`types_of_run`). The cut that takes
the quotes off a token needs two ASCII characters, and a token that is told for a
string has them.
-/
import Placeholders.Proofs.Decimals
import Placeholders.Proofs.Segmentation
import Placeholders.Proofs.Tolerance

namespace Placeholders
open Pattern (Call TokenKind isDecimal takeWhile_ne_append)

/-- Is a value of the type, as a token has it? A token has no sign, so an integer is
not negative. -/
def Argument.HasType (type : ArgType) (a : Argument) : Prop :=
  a.type = type ∧ ∀ n, a = .integer n → 0 ≤ n

/-- The arguments are of the types, one by one. -/
def Fits (types : List ArgType) (args : List Argument) : Prop := List.Forall₂ Argument.HasType types args

theorem Fits.map_type {types : List ArgType} {args : List Argument} (h : Fits types args) :
    args.map Argument.type = types := by
  induction h with
  | nil => rfl
  | cons ha _ ih => rw [List.map_cons, ha.1, ih]

theorem fits_nil {args : List Argument} : Fits [] args ↔ args = [] := List.forall₂_nil_left_iff

theorem fits_string {types : List ArgType} {args : List Argument} :
    Fits (.string :: types) args ↔ ∃ t rest, args = .string t :: rest ∧ Fits types rest := by
  constructor
  · rintro (_ | @⟨_, a, _, rest, ⟨htype, -⟩, hrest⟩)
    cases a with
    | string t => exact ⟨t, rest, rfl, hrest⟩
    | _ => cases htype
  · rintro ⟨t, rest, rfl, hrest⟩
    exact .cons ⟨rfl, fun n hn => by cases hn⟩ hrest

theorem fits_integer {types : List ArgType} {args : List Argument} :
    Fits (.integer :: types) args ↔ ∃ (n : Nat) (rest : _), args = .integer n :: rest ∧ Fits types rest := by
  constructor
  · rintro (_ | @⟨_, a, _, rest, ⟨htype, hpos⟩, hrest⟩)
    cases a with
    | integer n =>
      obtain ⟨k, rfl⟩ := Int.eq_ofNat_of_zero_le (hpos n rfl)
      exact ⟨k, rest, rfl, hrest⟩
    | _ => cases htype
  · rintro ⟨n, rest, rfl, hrest⟩
    exact .cons ⟨rfl, fun m hm => by cases hm; exact Int.natCast_nonneg n⟩ hrest

/-! ## The value of one token -/

theorem Text.cutAt_eq_some_iff {c : Char} {t before after : Text} :
    t.cutAt c = some (before, after) ↔ t = before ++ c :: after ∧ c ∉ before := by
  constructor
  · intro h
    unfold cutAt at h
    split at h
    · next hmem =>
      obtain ⟨u, v, rfl, hu⟩ := List.eq_append_cons_of_mem (List.contains_iff_mem.mp hmem)
      obtain ⟨htake, hdrop⟩ := takeWhile_ne_append hu v
      rw [htake, hdrop] at h
      cases h
      exact ⟨rfl, hu⟩
    · cases h
  · rintro ⟨rfl, hbefore⟩
    obtain ⟨htake, hdrop⟩ := takeWhile_ne_append hbefore after
    rw [cutAt, if_pos (by simp), htake, hdrop]
    rfl

theorem exists_of_isDecimal {token : Text} (h : isDecimal token = true) :
    ∃ whole fraction, token = whole ++ '.' :: fraction ∧
      Text.isDigits whole = true ∧ Text.isDigits fraction = true := by
  unfold isDecimal at h
  split at h
  · next whole fraction hcut =>
    obtain ⟨rfl, -⟩ := Text.cutAt_eq_some_iff.mp hcut
    exact ⟨whole, fraction, rfl, by simpa using h⟩
  · cases h

/-- Digits, a point and digits are always read as a number. -/
theorem exists_readBinary64? {token : Text} (h : isDecimal token = true) :
    ∃ x, Number.readBinary64? token = some x := by
  obtain ⟨whole, fraction, rfl, hwhole, hfraction⟩ := exists_of_isDecimal h
  have hpointed : whole ++ '.' :: fraction = Number.pointed whole fraction := by
    simp [Number.pointed, isEmpty_of_isDigits hfraction]
  rw [hpointed]
  exact ⟨_, Number.readBinary64?_signText_append hwhole (isDigit_of_isDigits hfraction) false⟩

theorem ofKind_injective {j k : TokenKind} (h : ArgType.ofKind j = .ofKind k) : j = k := by
  cases j <;> cases k <;> first | rfl | cases h

/-- The value of a token at its own type is of that type. -/
theorem hasType_of_ofToken? {token : Text} {a : Argument}
    (h : Argument.ofToken? token (ArgType.ofToken token) = some a) : a.HasType (ArgType.ofToken token) := by
  unfold ArgType.ofToken at h ⊢
  cases htype : ArgType.ofToken? token with
  | none =>
    rw [htype] at h
    cases h
    exact ⟨rfl, fun n hn => by cases hn⟩
  | some type =>
    have hkind := ofKind_of_ofToken? htype
    rw [htype] at h
    cases type with
    | string =>
      obtain ⟨t, -, rfl⟩ := Option.map_eq_some_iff.mp h
      exact ⟨rfl, fun n hn => by cases hn⟩
    | any =>
      cases h
      exact ⟨rfl, fun n hn => by cases hn⟩
    | integer =>
      have hk : TokenKind.of token = .integer := (ofKind_injective (j := .integer) hkind).symm
      have hread := readInt64?_of_isDigits (isDigits_of_kind hk)
      split at hread
      · simp only [Option.getD_some, Argument.ofToken?, hread, Option.elim_some, Option.some.injEq] at h
        subst h
        exact ⟨rfl, fun n hn => by cases hn; exact Int.natCast_nonneg _⟩
      · simp [ArgType.ofToken?, hk, hread] at htype
    | float =>
      have hk : TokenKind.of token = .float := (ofKind_injective (j := .float) hkind).symm
      obtain ⟨x, hx⟩ := exists_readBinary64? (isDecimal_of_kind hk)
      simp only [Option.getD_some, Argument.ofToken?, hx, Option.elim_some, Option.some.injEq] at h
      subst h
      exact ⟨rfl, fun n hn => by cases hn⟩

/-! ## The values of a call -/

/-- The arguments of a call are the values of its tokens, one by one. -/
theorem forall₂_of_mapM : ∀ {tokens : List Text} {args : List Argument},
    ((tokens.zip (tokens.map ArgType.ofToken)).mapM fun (token, type) => Argument.ofToken? token type) = some args →
      List.Forall₂ (fun token a => Argument.ofToken? token (ArgType.ofToken token) = some a) tokens args
  | [], args, h => by
    cases h
    exact .nil
  | token :: tokens, args, h => by
    simp only [List.map_cons, List.zip_cons_cons, List.mapM_cons, Option.bind_eq_bind, Option.bind_eq_some_iff] at h
    obtain ⟨a, ha, rest, hrest, h⟩ := h
    cases h
    exact .cons ha (forall₂_of_mapM hrest)

theorem forall₂_of_ofTokens {call : Call} {args : List Argument}
    (h : Argument.ofTokens call.function call.args call.types = .ok args) :
    List.Forall₂ (fun token a => Argument.ofToken? token (ArgType.ofToken token) = some a) call.args args := by
  obtain ⟨args', hmap⟩ := exists_mapM_ofToken? call.args
  have hlength : call.args.length = call.types.length := by rw [Call.types, List.length_map]
  rw [Argument.ofTokens, if_pos hlength, Call.types, hmap] at h
  cases h
  exact forall₂_of_mapM hmap

theorem fits_of_ofTokens {call : Call} {args : List Argument}
    (h : Argument.ofTokens call.function call.args call.types = .ok args) : Fits call.types args := by
  rw [Fits, Call.types, List.forall₂_map_left_iff]
  exact (forall₂_of_ofTokens h).imp fun _ _ => hasType_of_ofToken?

namespace Engine

/-- The types that an engine finds for the arguments of a call do not hang on its mode. -/
theorem types_of_run {mode : Mode} {call : Call} {types : List ArgType} {issues : List Issue}
    (h : (call.args.mapM (typeOf mode)).run = .ok (types, issues)) : types = call.types := by
  cases mode with
  | lenient =>
    rw [run_mapM_typeOf_lenient] at h
    cases h
    rfl
  | strict =>
    obtain ⟨a, noted, hlenient, hstrict⟩ := Corresponds.mapM typeOf_corresponds call.args
    rw [run_mapM_typeOf_lenient] at hlenient
    cases hlenient
    rw [h] at hstrict
    cases hnoted : argumentIssues call.args with
    | nil =>
      rw [hnoted] at hstrict
      cases hstrict
      rfl
    | cons first rest =>
      rw [hnoted] at hstrict
      cases hstrict

end Engine
end Placeholders

/-
Decimal numbers as texts: digits, and behind a point more digits if there are any
(`pointed`). A count of decimal places is written as its quotient by a power of ten and so
many last digits (`fixedPoint_eq`), and the two together are the digits of the count. What
is written so is read as its digits, moved behind the point by as many places
(`readDecimal?_pointed`); a sign before it is read apart, and there is nothing to trim.
-/
import Placeholders.Proofs.Dispatch
import Placeholders.Proofs.Trimming
import Mathlib.Algebra.Order.Ring.Nat
import Mathlib.Data.List.TakeWhile

namespace Placeholders

/-! ## Numerals -/

theorem isDigits_ofNat (n : Nat) : Text.isDigits (Text.ofNat n) = true := by
  have hne : (Nat.toDigits 10 n).isEmpty = false := List.isEmpty_eq_false_iff.mpr Nat.toDigits_ne_nil
  have hall : (Nat.toDigits 10 n).all Char.isDigit = true :=
    List.all_eq_true.mpr fun c hc => Nat.isDigit_of_mem_toDigits (by decide) (by decide) hc
  simp [Text.isDigits, Text.ofNat, hne, hall]

theorem digitsValue_ofNat (n : Nat) : Text.digitsValue (Text.ofNat n) = n := Nat.ofDigitChars_ten_toDigits

theorem not_isBlank_of_isDigit {c : Char} (h : c.isDigit = true) : Text.isBlank c = false := by
  simp only [Char.isDigit, Bool.and_eq_true, decide_eq_true_eq, ge_iff_le, UInt32.le_iff_toNat_le] at h
  have hlow : 48 ≤ c.toNat := h.1
  have hhigh : c.toNat ≤ 57 := h.2
  simp only [Text.isBlank, Text.blankRanges, List.any_cons, List.any_nil, Bool.or_false, Bool.or_eq_false_iff,
    Bool.and_eq_false_iff, decide_eq_false_iff_not]
  omega

/-- Only the capital letters of ASCII have another lower case. -/
theorem toLower_of_not_capital {c : Char} (h : ¬ (65 ≤ c.toNat ∧ c.toNat ≤ 90)) : c.toLower = c := by
  have hval : ¬ (c.val ≥ 'A'.val ∧ c.val ≤ 'Z'.val) := by
    rw [ge_iff_le, UInt32.le_iff_toNat_le, UInt32.le_iff_toNat_le]
    exact h
  exact dif_neg hval

theorem toLower_of_isDigit {c : Char} (h : c.isDigit = true) : c.toLower = c := by
  simp only [Char.isDigit, Bool.and_eq_true, decide_eq_true_eq, ge_iff_le, UInt32.le_iff_toNat_le] at h
  have hhigh : c.toNat ≤ 57 := h.2
  exact toLower_of_not_capital (by omega)

namespace Number
open Text (digitsValue isDigits ofNat)

/-- So many last digits of a number, with zeros for those that it lacks. -/
def lastDigits : Nat → Nat → Text
  | 0, _ => []
  | places + 1, n => lastDigits places (n / 10) ++ [(n % 10).digitChar]

@[simp] theorem length_lastDigits (places n : Nat) : (lastDigits places n).length = places := by
  induction places generalizing n with
  | zero => rfl
  | succ places ih => rw [lastDigits, List.length_append, ih, List.length_singleton]

theorem isDigit_of_mem_lastDigits {places n : Nat} {c : Char} (h : c ∈ lastDigits places n) : c.isDigit = true := by
  induction places generalizing n with
  | zero => cases h
  | succ places ih =>
    rcases List.mem_append.mp h with h | h
    · exact ih h
    · rw [List.mem_singleton.mp h, Nat.isDigit_digitChar]
      simp [Nat.mod_lt]

theorem lastDigits_mul (k places : Nat) : lastDigits places (k * 10 ^ places) = List.replicate places '0' := by
  induction places with
  | zero => rfl
  | succ places ih =>
    have hshift : k * 10 ^ (places + 1) = k * 10 ^ places * 10 := by rw [pow_succ, mul_assoc]
    rw [lastDigits, hshift, Nat.mul_mod_left, Nat.mul_div_cancel _ (by decide), ih, List.replicate_succ']
    rfl

theorem digitsValue_concat_digit (t : Text) {d : Nat} (h : d < 10) :
    digitsValue (t ++ [d.digitChar]) = 10 * digitsValue t + d := by
  have hdigit : d.digitChar.toNat - '0'.toNat = d := by
    rw [Nat.toNat_digitChar_of_lt_ten h]
    change 48 + d - 48 = d
    omega
  rw [digitsValue, Nat.ofDigitChars_append, Nat.ofDigitChars_cons, Nat.ofDigitChars_nil, hdigit]
  rfl

/-- A number is its last digits behind the quotient by their power of ten. -/
theorem digitsValue_quotient_append (places n : Nat) :
    digitsValue (ofNat (n / 10 ^ places) ++ lastDigits places n) = n := by
  induction places generalizing n with
  | zero => rw [lastDigits, List.append_nil, pow_zero, Nat.div_one, digitsValue_ofNat]
  | succ places ih =>
    have hquotient : n / 10 ^ (places + 1) = n / 10 / 10 ^ places := by
      rw [Nat.div_div_eq_div_mul, pow_succ']
    rw [lastDigits, hquotient, ← List.append_assoc, digitsValue_concat_digit _ (Nat.mod_lt n (by decide)), ih]
    omega

/-- The numeral, filled up with zeros so that a digit stands before the last ones. -/
theorem replicate_append_ofNat (places n : Nat) :
    List.replicate (places + 1 - (ofNat n).length) '0' ++ ofNat n =
      ofNat (n / 10 ^ places) ++ lastDigits places n := by
  induction places generalizing n with
  | zero =>
    have hlength : 0 < (ofNat n).length := Nat.length_toDigits_pos
    rw [show 0 + 1 - (ofNat n).length = 0 by omega, pow_zero, Nat.div_one, lastDigits, List.append_nil]
    rfl
  | succ places ih =>
    have hquotient : n / 10 ^ (places + 1) = n / 10 / 10 ^ places := by
      rw [Nat.div_div_eq_div_mul, pow_succ']
    rw [lastDigits, hquotient, ← List.append_assoc, ← ih]
    have hdigits : ofNat n = if n < 10 then [n.digitChar] else ofNat (n / 10) ++ [(n % 10).digitChar] :=
      Nat.toDigits_eq_if (by decide)
    by_cases hsmall : n < 10
    · rw [hdigits, if_pos hsmall, Nat.div_eq_of_lt hsmall, Nat.mod_eq_of_lt hsmall]
      simp [ofNat, List.replicate_succ']
    · rw [hdigits, if_neg hsmall]
      simp

/-- Digits, and behind a point more digits if there are any. -/
def pointed (whole fraction : Text) : Text := if fraction.isEmpty then whole else whole ++ '.' :: fraction

theorem pointed_append (s whole fraction : Text) : pointed (s ++ whole) fraction = s ++ pointed whole fraction := by
  unfold pointed
  split
  · rfl
  · exact List.append_assoc _ _ _

theorem fixedPoint_eq (count places : Nat) :
    fixedPoint count places = pointed (ofNat (count / 10 ^ places)) (lastDigits places count) := by
  unfold fixedPoint pointed
  simp only [replicate_append_ofNat, List.length_append, length_lastDigits, Nat.add_sub_cancel]
  cases places with
  | zero => simp [lastDigits]
  | succ places =>
    have hne : (lastDigits (places + 1) count).isEmpty = false := by simp [lastDigits]
    rw [if_neg (by omega), hne, List.take_left, List.drop_left]
    rfl

theorem exists_cons_pointed {whole : Text} (hwhole : isDigits whole = true) (fraction : Text) :
    ∃ c r, pointed whole fraction = c :: r ∧ c.isDigit = true := by
  cases whole with
  | nil => cases hwhole
  | cons c r =>
    have hc := isDigit_of_isDigits hwhole c List.mem_cons_self
    unfold pointed
    split
    · exact ⟨c, r, rfl, hc⟩
    · exact ⟨c, r ++ '.' :: fraction, rfl, hc⟩

theorem digitsValue_append_zeros (t : Text) (k : Nat) :
    digitsValue (t ++ List.replicate k '0') = digitsValue t * 10 ^ k := by
  induction k with
  | zero => simp
  | succ k ih =>
    have hzero : '0' = (0 : Nat).digitChar := rfl
    rw [List.replicate_succ', ← List.append_assoc, hzero, digitsValue_concat_digit _ (by decide), ← hzero, ih,
      pow_succ, Nat.add_zero, Nat.mul_left_comm, Nat.mul_comm 10]

/-- A decimal value is written as digits that are its own, with zeros behind them for the
tens in it, and with as many places as it has. -/
theorem Decimal.exists_toText (d : Decimal) :
    ∃ whole fraction, d.toText = pointed whole fraction ∧ isDigits whole = true ∧
      (∀ c ∈ fraction, c.isDigit = true) ∧
      digitsValue (whole ++ fraction) = d.digits * tenTo d.exponent.toNat ∧
      fraction.length = (-d.exponent).toNat := by
  obtain ⟨digits, exponent⟩ := d
  unfold toText
  by_cases hwhole : 0 ≤ exponent
  · refine ⟨ofNat digits ++ List.replicate exponent.toNat '0', [], if_pos hwhole, ?_, by simp, ?_, ?_⟩
    · have hdigits := isDigits_ofNat digits
      simp only [isDigits, Bool.and_eq_true, Bool.not_eq_true', List.isEmpty_eq_false_iff] at hdigits ⊢
      simp [hdigits]
    · rw [List.append_nil, digitsValue_append_zeros, digitsValue_ofNat]
      rfl
    · simp; omega
  · refine ⟨_, _, (if_neg hwhole).trans (fixedPoint_eq _ _), isDigits_ofNat _,
      fun c => isDigit_of_mem_lastDigits, ?_, length_lastDigits _ _⟩
    rw [digitsValue_quotient_append, Int.toNat_of_nonpos (by simp only at *; omega)]
    exact (Nat.mul_one digits).symm

/-! ## Reading -/

section
variable {whole fraction : Text} (hwhole : isDigits whole = true) (hfraction : ∀ c ∈ fraction, c.isDigit = true)
include hwhole hfraction

theorem readDecimal?_pointed (negative : Bool) :
    readDecimal? negative (pointed whole fraction) =
      some (ofDecimal negative (digitsValue (whole ++ fraction)) (-(fraction.length : Int))) := by
  have hdigits := isDigit_of_isDigits hwhole
  have hne := isEmpty_of_isDigits hwhole
  unfold pointed
  cases fraction with
  | nil =>
    have htake : whole.takeWhile Char.isDigit = whole := List.takeWhile_eq_self_iff.mpr hdigits
    have hdrop : whole.dropWhile Char.isDigit = [] := List.dropWhile_eq_nil_iff.mpr hdigits
    simp [readDecimal?, htake, hdrop, hne, readExponent?]
  | cons c r =>
    have htake : (whole ++ '.' :: c :: r).takeWhile Char.isDigit = whole := by
      rw [List.takeWhile_append_of_pos hdigits, List.takeWhile_cons_of_neg (by decide), List.append_nil]
    have hdrop : (whole ++ '.' :: c :: r).dropWhile Char.isDigit = '.' :: c :: r := by
      rw [List.dropWhile_append_of_pos hdigits, List.dropWhile_cons_of_neg (by decide)]
    have htake' : (c :: r).takeWhile Char.isDigit = c :: r := List.takeWhile_eq_self_iff.mpr hfraction
    have hdrop' : (c :: r).dropWhile Char.isDigit = [] := List.dropWhile_eq_nil_iff.mpr hfraction
    simp only [readDecimal?, List.isEmpty_cons, Bool.false_eq_true, if_false, htake, hdrop, htake', hdrop', hne,
      Bool.false_and, readExponent?, Option.map_some, Int.zero_sub]

/-- A sign is read apart from the digits, which are none of the words. -/
theorem readBinary64?_signText_append (negative : Bool) :
    readBinary64? (signText negative ++ pointed whole fraction) =
      some (ofDecimal negative (digitsValue (whole ++ fraction)) (-(fraction.length : Int))) := by
  obtain ⟨c, r, hstart, hc⟩ := exists_cons_pointed hwhole fraction
  have hsign : signOf (signText negative ++ c :: r) = (negative, c :: r) := by
    cases negative with
    | true => rfl
    | false => exact signOf_of_isDigit hc r
  have hword : ∀ (d : Char) (word : Text), d.isDigit = false → (Text.asciiLower (c :: r) == d :: word) = false := by
    intro d word hd
    have hne : c ≠ d := fun h => by rw [← h, hc] at hd; cases hd
    simp [Text.asciiLower, toLower_of_isDigit hc, hne]
  rw [← readDecimal?_pointed hwhole hfraction, hstart, readBinary64?, hsign]
  have hinf := hword 'i' "nf".toList (by decide)
  have hinfinity := hword 'i' "nfinity".toList (by decide)
  have hnan := hword 'n' "an".toList (by decide)
  change (if (_ == 'i' :: "nf".toList || _ == 'i' :: "nfinity".toList) = true then _
    else if (_ == 'n' :: "an".toList) = true then _ else _) = _
  rw [hinf, hinfinity, hnan]
  rfl

theorem trim_signText_append (negative : Bool) :
    (signText negative ++ pointed whole fraction).trim = signText negative ++ pointed whole fraction := by
  have hdigits := isDigit_of_isDigits hwhole
  refine Text.trim_of_not_blank fun c hc => ?_
  have hcases : c = '-' ∨ c = '.' ∨ c.isDigit = true := by
    unfold signText pointed at hc
    grind
  rcases hcases with rfl | rfl | hc
  · decide
  · decide
  · exact not_isBlank_of_isDigit hc

end

end Number
end Placeholders

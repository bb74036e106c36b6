/-
Integers as floats. An integer is rounded to its first 53 binary digits (`toBinary`): there is
no nearer one that has no more digits before its last zeros, and of two the 53 digits are even
(`isNearestBinary_toBinary`). So it is itself just when it has no more (`IsNearestBinary.eq_iff`).
This is what the numeral of an integer is read as (`readBinary64?_ofInt`).
-/
import Placeholders.Proofs.ReadingBack

namespace Placeholders.Number

/-- A number, rounded to its first 53 binary digits. -/
def toBinary (a : ℕ) : ℕ := roundQuotient a (2 ^ (a.log2 - 52)) * 2 ^ (a.log2 - 52)

theorem toBinary_pos {a : ℕ} (ha : a ≠ 0) : 0 < toBinary a := by
  have hfirst : 1 * 2 ^ (a.log2 - 52) ≤ a := by
    rw [Nat.one_mul]
    exact (Nat.pow_le_pow_right two_pos (Nat.sub_le _ _)).trans (Nat.log2_self_le ha)
  exact Nat.mul_pos (le_roundQuotient_of_mul_le (by positivity) hfirst) (by positivity)

theorem exists_toBinary_eq (a : ℕ) : ∃ m e, m < 2 ^ 53 ∧ toBinary a = m * 2 ^ e := by
  have hle : roundQuotient a (2 ^ (a.log2 - 52)) ≤ 2 ^ 53 := by
    refine roundQuotient_le_of_le_mul (by positivity) ?_
    rw [← pow_add]
    exact Nat.lt_log2_self.le.trans (Nat.pow_le_pow_right two_pos (by omega))
  by_cases hfull : roundQuotient a (2 ^ (a.log2 - 52)) = 2 ^ 53
  · refine ⟨1, 53 + (a.log2 - 52), by decide, ?_⟩
    rw [toBinary, hfull, pow_add, Nat.one_mul]
  · exact ⟨_, _, by omega, rfl⟩

/-- The rounding under the sign of the integer: its size, and when it is negative. -/
theorem sign_mul_toBinary (i : ℤ) :
    (i.sign * toBinary i.natAbs).natAbs = toBinary i.natAbs ∧ (i.sign * toBinary i.natAbs < 0 ↔ i < 0) := by
  by_cases hzero : i = 0
  · rw [hzero]
    decide
  · have hpos : 0 < toBinary i.natAbs := toBinary_pos (Int.natAbs_ne_zero.mpr hzero)
    rcases Int.lt_or_gt_of_ne hzero with hneg | hplus
    · rw [Int.sign_eq_neg_one_of_neg hneg]
      omega
    · rw [Int.sign_eq_one_of_pos hplus]
      omega

/-! ## The nearest integer of 53 digits -/

/-- The integer has no more than 53 binary digits before its last zeros. -/
def IsBinary (i : ℤ) : Prop := ∃ m e : ℕ, m < 2 ^ 53 ∧ i.natAbs = m * 2 ^ e

/-- The integer is the nearest to another one of those that have no more than 53 binary
digits before their last zeros; of two, the one whose 53 digits, from the first digit of the
other one on, are even. -/
structure IsNearestBinary (j i : ℤ) : Prop where
  binary : IsBinary j
  nearest : ∀ r, IsBinary r → |i - j| ≤ |i - r|
  rounded : ∃ k : ℕ, IsNearest k ((i.natAbs : ℚ) / 2 ^ (i.natAbs.log2 - 52)) ∧
    j = i.sign * (k * 2 ^ (i.natAbs.log2 - 52))

/-- The nearest one is the integer itself just when that has no more digits. -/
theorem IsNearestBinary.eq_iff {i j : ℤ} (h : IsNearestBinary j i) : j = i ↔ IsBinary i := by
  refine ⟨fun heq => heq ▸ h.binary, fun hi => ?_⟩
  have hzero := h.nearest i hi
  rw [sub_self, abs_zero, abs_nonpos_iff] at hzero
  omega

theorem abs_sub_sign_mul {i : ℤ} (hi : i ≠ 0) (n : ℕ) : |i - i.sign * n| = |(i.natAbs : ℤ) - n| := by
  rcases Int.lt_or_gt_of_ne hi with hneg | hpos
  · have habs : (i.natAbs : ℤ) = -i := by omega
    rw [Int.sign_eq_neg_one_of_neg hneg, habs, ← abs_neg]
    ring_nf
  · have habs : (i.natAbs : ℤ) = i := by omega
    rw [Int.sign_eq_one_of_pos hpos, habs, Int.one_mul]

/-- Rounding to the first 53 digits leaves no nearer integer of so many digits. -/
theorem abs_sub_le_of_isNearest {i r : ℤ} {k : ℕ}
    (hk : IsNearest k ((i.natAbs : ℚ) / 2 ^ (i.natAbs.log2 - 52))) (hr : IsBinary r) :
    |i - i.sign * (k * 2 ^ (i.natAbs.log2 - 52))| ≤ |i - r| := by
  obtain ⟨m, e, hm, hr⟩ := hr
  by_cases hzero : i = 0
  · simp [hzero]
  obtain ⟨s, hs⟩ : ∃ s, s = i.natAbs.log2 - 52 := ⟨_, rfl⟩
  rw [← hs] at hk ⊢
  have hstep : 0 < 2 ^ s := by positivity
  have hnear : ∀ g : ℕ, |(i.natAbs : ℤ) - (k * 2 ^ s : ℕ)| ≤ |(i.natAbs : ℤ) - (g * 2 ^ s : ℕ)| :=
    IsNearest.abs_sub_le hstep (by exact_mod_cast hk)
  have hsize : |i - i.sign * (k * 2 ^ s)| = |(i.natAbs : ℤ) - (k * 2 ^ s : ℕ)| := by
    rw [← abs_sub_sign_mul hzero]
    push_cast
    rfl
  have hfar : |(i.natAbs : ℤ) - r.natAbs| ≤ |i - r| := by
    rw [Int.natCast_natAbs, Int.natCast_natAbs]
    exact abs_abs_sub_abs_le_abs_sub i r
  rw [hsize]
  refine le_trans ?_ hfar
  by_cases hfine : s ≤ e
  · have hmultiple : r.natAbs = m * 2 ^ (e - s) * 2 ^ s := by
      rw [mul_assoc, ← pow_add, Nat.sub_add_cancel hfine, hr]
    rw [hmultiple]
    exact hnear _
  · -- what is finer than the grid is below the power of two that the integer begins with
    have hfirst : 2 ^ 52 * 2 ^ s ≤ i.natAbs := by
      rw [← pow_add, show 52 + s = i.natAbs.log2 by omega]
      exact Nat.log2_self_le (Int.natAbs_ne_zero.mpr hzero)
    have hbelow : r.natAbs ≤ 2 ^ 52 * 2 ^ s := by
      calc r.natAbs ≤ 2 ^ 53 * 2 ^ e := hr ▸ Nat.mul_le_mul_right _ hm.le
        _ = 2 ^ 52 * 2 ^ (e + 1) := by rw [pow_succ 2 52, pow_succ 2 e, mul_assoc, mul_comm 2]
        _ ≤ 2 ^ 52 * 2 ^ s := Nat.mul_le_mul_left _ (Nat.pow_le_pow_right two_pos (by omega))
    refine (hnear (2 ^ 52)).trans ?_
    rw [abs_of_nonneg (by omega), abs_of_nonneg (by omega)]
    omega

theorem isNearestBinary_toBinary (i : ℤ) : IsNearestBinary (i.sign * toBinary i.natAbs) i := by
  have hnear := isNearest_roundQuotient i.natAbs (d := 2 ^ (i.natAbs.log2 - 52)) (by positivity)
  rw [Nat.cast_pow, Nat.cast_ofNat] at hnear
  have hrounded : i.sign * toBinary i.natAbs =
      i.sign * (roundQuotient i.natAbs (2 ^ (i.natAbs.log2 - 52)) * 2 ^ (i.natAbs.log2 - 52)) := by
    rw [toBinary]
    push_cast
    rfl
  refine ⟨?_, fun r hr => ?_, _, hnear, hrounded⟩
  · rw [IsBinary, (sign_mul_toBinary i).1]
    exact exists_toBinary_eq i.natAbs
  · rw [hrounded]
    exact abs_sub_le_of_isNearest hnear hr

/-! ## Reading -/

/-- A number is rounded to its first 53 binary digits, whatever the unit is that it is told in. -/
theorem roundQuotient_binary (a unit : ℕ) :
    roundQuotient (a * 2 ^ unit) (2 ^ (a.log2 + unit - 52)) * 2 ^ (a.log2 + unit - 52) =
      roundQuotient a (2 ^ (a.log2 - 52)) * 2 ^ (a.log2 - 52) * 2 ^ unit := by
  by_cases hwide : 52 ≤ a.log2
  · have hsplit : 2 ^ (a.log2 + unit - 52) = 2 ^ (a.log2 - 52) * 2 ^ unit := by
      rw [← pow_add]
      congr 1
      omega
    rw [hsplit, roundQuotient_mul_right a (by positivity) (by positivity), mul_assoc]
  · -- a number of at most 53 digits is not rounded on either side
    obtain ⟨rest, hrest⟩ : ∃ rest, unit = rest + (a.log2 + unit - 52) :=
      ⟨unit - (a.log2 + unit - 52), by omega⟩
    have hscaled : a * 2 ^ unit = a * 2 ^ rest * 2 ^ (a.log2 + unit - 52) := by
      rw [mul_assoc, ← pow_add, ← hrest]
    have hzero : a.log2 - 52 = 0 := by omega
    rw [hscaled, roundQuotient_mul_self _ (by positivity), hzero, pow_zero, roundQuotient_one, mul_one]
    exact hscaled.symm

theorem log2_mul_two_pow {a : ℕ} (ha : a ≠ 0) (k : ℕ) : (a * 2 ^ k).log2 = a.log2 + k := by
  have hpos : 0 < 2 ^ k := by positivity
  rw [Nat.log2_eq_iff (Nat.mul_ne_zero ha hpos.ne'), add_right_comm, pow_add, pow_add]
  exact ⟨Nat.mul_le_mul_right _ (Nat.log2_self_le ha), Nat.mul_lt_mul_of_pos_right Nat.lt_log2_self hpos⟩

theorem exists_nearest_units {a : ℕ} (ha : a ≠ 0) (hsize : a.log2 ≤ 1022) :
    ∃ m, Magnitude.nearest (a * unitsPerOne) 1 = some m ∧ m.units = toBinary a * unitsPerOne := by
  have hpower : ∀ k, ∃ unit ≤ k, 1 <<< k = 2 ^ unit := fun k => ⟨k, Nat.le_refl k, Nat.one_shiftLeft k⟩
  obtain ⟨unit, hsmall, hunit⟩ : ∃ unit ≤ 1074, unitsPerOne = 2 ^ unit := hpower 1074
  have hlog : (a * unitsPerOne / 1).log2 = a.log2 + unit := by
    rw [hunit, Nat.div_one, log2_mul_two_pow ha]
  have hfits : (a * unitsPerOne / 1).log2 ≤ 2096 := by omega
  obtain ⟨m, hm, hunits⟩ := Magnitude.exists_nearest (by decide) (Magnitude.le_greatest (by decide) hfits)
  refine ⟨m, hm, ?_⟩
  rw [hunits, hlog, Nat.shiftLeft_eq, Nat.one_shiftLeft, hunit, roundQuotient_binary, toBinary]

theorem ofInt_eq (i : ℤ) : Text.ofInt i = signText (i < 0) ++ Text.ofNat i.natAbs := by
  cases i with
  | ofNat n => rfl
  | negSucc n => simp [Text.ofInt, signText, Int.negSucc_lt_zero]

theorem readBinary64?_ofInt {i : ℤ} (hsize : i.natAbs < 2 ^ 64) :
    ∃ m, readBinary64? (Text.ofInt i).trim = some (.finite (i < 0) m) ∧
      m.units = toBinary i.natAbs * unitsPerOne := by
  have hdigits := isDigits_ofNat i.natAbs
  have htext : Text.ofInt i = signText (i < 0) ++ pointed (Text.ofNat i.natAbs) [] := ofInt_eq i
  rw [htext, trim_signText_append hdigits (by simp), readBinary64?_signText_append hdigits (by simp),
    List.append_nil, digitsValue_ofNat]
  by_cases hzero : i.natAbs = 0
  · rw [hzero]
    exact ⟨.zero, rfl, by decide +kernel⟩
  · have hlog : i.natAbs.log2 < 64 := (Nat.log2_lt hzero).mpr hsize
    have hgreat : i.natAbs < 10 ^ (400 + 0) := hsize.trans_le (by decide +kernel)
    have hsmall : ∀ k, 10 ^ 0 ≤ i.natAbs * 10 ^ k := fun k =>
      Nat.mul_pos (Nat.pos_of_ne_zero hzero) (Nat.pow_pos (by decide))
    obtain ⟨m, hm, hunits⟩ := exists_nearest_units hzero (by omega)
    have hone : tenTo 0 = 1 := rfl
    refine ⟨m, ?_, hunits⟩
    rw [List.length_nil, ofDecimal_eq_nearest _ hzero hgreat (hsmall 400), Binary64.nearest, hone, hm, Option.elim_some]

end Placeholders.Number

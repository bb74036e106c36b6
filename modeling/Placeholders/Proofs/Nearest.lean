/-
Rounding to the nearest. A natural number is the nearest to a rational number, a half to
the even one, when it is at most a half away and even if it is just a half away
(`IsNearest`). There is one such number, and rounding a quotient finds it
(`roundQuotient_eq_iff`). A quotient is rounded to a magnitude on the grid whose step
leaves 53 binary digits before the point (`exists_nearest`), and no magnitude on any grid
is nearer (`exists_nearest_abs_sub_le`). So a value in the interval of a magnitude is
rounded to that magnitude (`nearest_of_admits`), also where the interval reaches below a
power of two, into a finer grid.
-/
import Placeholders.Number.Places
import Mathlib.Algebra.Order.Field.Basic
import Mathlib.Algebra.Order.Field.Rat
import Mathlib.Tactic.FieldSimp
import Mathlib.Tactic.Linarith
import Mathlib.Tactic.NormNum

namespace Placeholders.Number

/-- The natural number is the nearest to the rational one, of two the even one. -/
def IsNearest (k : ℕ) (q : ℚ) : Prop := |q - k| ≤ 1 / 2 ∧ (|q - k| = 1 / 2 → Even k)

/-- The nearest to a quotient, told without a division. -/
theorem isNearest_div_iff {k n d : ℕ} (hd : 0 < d) :
    IsNearest k ((n : ℚ) / d) ↔
      2 * (k * d) ≤ 2 * n + d ∧ 2 * n ≤ 2 * (k * d) + d ∧
        (2 * (k * d) = 2 * n + d ∨ 2 * n = 2 * (k * d) + d → Even k) := by
  have hpos : (0 : ℚ) < 2 * d := by exact_mod_cast (by omega : 0 < 2 * d)
  -- in steps of half the divisor the distance is a whole number
  obtain ⟨z, hz⟩ : ∃ z : ℤ, z = 2 * n - 2 * (k * d : ℕ) := ⟨_, rfl⟩
  have hdist : |(n : ℚ) / d - k| = ((|z| : ℤ) : ℚ) / (2 * d) := by
    rw [Int.cast_abs, ← abs_of_pos hpos, ← abs_div, hz]
    congr 1
    push_cast
    field_simp
  have hhalf : (1 / 2 : ℚ) = ((d : ℤ) : ℚ) / (2 * d) := by
    push_cast
    field_simp
  rw [IsNearest, hdist, hhalf, div_le_div_iff_of_pos_right hpos, div_left_inj' hpos.ne',
    Int.cast_le, Int.cast_inj, abs_le, abs_eq (by omega)]
  constructor
  · intro ⟨⟨hlow, hhigh⟩, heven⟩
    exact ⟨by omega, by omega, fun h => heven (by omega)⟩
  · intro ⟨hlow, hhigh, heven⟩
    exact ⟨by omega, fun h => heven (by omega)⟩

theorem IsNearest.unique {k l : ℕ} {q : ℚ} (hk : IsNearest k q) (hl : IsNearest l q) : k = l := by
  -- of two, the lower one is half below and the upper one half above, and one of them is odd
  have hnot : ∀ {a b : ℕ}, IsNearest a q → IsNearest b q → ¬ a < b := by
    intro a b ⟨ha, hevenA⟩ ⟨hb, hevenB⟩ hab
    have hsucc : (a : ℚ) + 1 ≤ b := by exact_mod_cast hab
    obtain ⟨-, hupper⟩ := abs_le.mp ha
    obtain ⟨hlower, -⟩ := abs_le.mp hb
    have hhalfA : q - a = 1 / 2 := by linarith
    have hhalfB : q - b = -(1 / 2) := by linarith
    have hnext : b = a + 1 := by
      have : (b : ℚ) = a + 1 := by linarith
      exact_mod_cast this
    have haEven : Even a := hevenA (by rw [hhalfA, abs_of_pos (by norm_num)])
    have hbEven : Even b := hevenB (by rw [hhalfB, abs_neg, abs_of_pos (by norm_num)])
    rw [hnext, Nat.even_add_one] at hbEven
    exact hbEven haEven
  have hle := hnot hk hl
  have hge := hnot hl hk
  omega

/-- Among the multiples of the divisor none is nearer. -/
theorem IsNearest.abs_sub_le {k n d : ℕ} (hd : 0 < d) (h : IsNearest k ((n : ℚ) / d)) (g : ℕ) :
    |(n : ℤ) - (k * d : ℕ)| ≤ |(n : ℤ) - (g * d : ℕ)| := by
  obtain ⟨hlower, hupper, -⟩ := (isNearest_div_iff hd).mp h
  rcases Nat.lt_trichotomy g k with hbelow | rfl | habove
  · have hstep : (g + 1) * d ≤ k * d := Nat.mul_le_mul_right d hbelow
    rw [Nat.add_mul, Nat.one_mul] at hstep
    rw [abs_le, abs_of_nonneg (by omega)]
    omega
  · exact le_refl _
  · have hstep : (k + 1) * d ≤ g * d := Nat.mul_le_mul_right d habove
    rw [Nat.add_mul, Nat.one_mul] at hstep
    rw [abs_le, abs_of_nonpos (by omega)]
    omega

theorem isNearest_roundQuotient (n : ℕ) {d : ℕ} (hd : 0 < d) :
    IsNearest (roundQuotient n d) ((n : ℚ) / d) := by
  have hn : d * (n / d) + n % d = n := Nat.div_add_mod n d
  have hr : n % d < d := Nat.mod_lt n hd
  have hq : n / d * d = d * (n / d) := Nat.mul_comm _ _
  have hsucc : (n / d + 1) * d = d * (n / d) + d := by rw [Nat.add_mul, hq, Nat.one_mul]
  rw [isNearest_div_iff hd]
  simp only [roundQuotient, Nat.even_iff]
  split
  · omega
  · split
    · omega
    · split <;> omega

theorem roundQuotient_eq_iff {n d k : ℕ} (hd : 0 < d) :
    roundQuotient n d = k ↔ IsNearest k ((n : ℚ) / d) :=
  ⟨fun h => h ▸ isNearest_roundQuotient n hd, (isNearest_roundQuotient n hd).unique⟩

theorem roundQuotient_mul_right (n : ℕ) {d c : ℕ} (hd : 0 < d) (hc : 0 < c) :
    roundQuotient (n * c) (d * c) = roundQuotient n d := by
  have hc' : (c : ℚ) ≠ 0 := by exact_mod_cast hc.ne'
  rw [roundQuotient_eq_iff (Nat.mul_pos hd hc), Nat.cast_mul, Nat.cast_mul,
    mul_div_mul_right _ _ hc']
  exact isNearest_roundQuotient n hd

theorem roundQuotient_mul_self (k : ℕ) {d : ℕ} (hd : 0 < d) : roundQuotient (k * d) d = k := by
  rw [roundQuotient_eq_iff hd, isNearest_div_iff hd]
  omega

theorem le_roundQuotient_of_mul_le {k n d : ℕ} (hd : 0 < d) (h : k * d ≤ n) : k ≤ roundQuotient n d := by
  obtain ⟨-, hupper, -⟩ := (isNearest_div_iff hd).mp (isNearest_roundQuotient n hd)
  by_contra hlt
  have hstep : (roundQuotient n d + 1) * d ≤ k * d := Nat.mul_le_mul_right d (by omega)
  rw [Nat.add_mul, Nat.one_mul] at hstep
  omega

theorem roundQuotient_le_of_le_mul {k n d : ℕ} (hd : 0 < d) (h : n ≤ k * d) : roundQuotient n d ≤ k := by
  obtain ⟨hlower, -, -⟩ := (isNearest_div_iff hd).mp (isNearest_roundQuotient n hd)
  by_contra hlt
  have hstep : (k + 1) * d ≤ roundQuotient n d * d := Nat.mul_le_mul_right d (by omega)
  rw [Nat.add_mul, Nat.one_mul] at hstep
  omega

namespace Magnitude

/-- The grid that a quotient is rounded on has a step that leaves it less than 53 binary
digits, and just 53 unless its step is one unit. -/
theorem scale_bounds (num : ℕ) {den : ℕ} (hden : 0 < den) :
    num < 2 ^ 53 * (den <<< ((num / den).log2 - 52)) ∧
      ((num / den).log2 - 52 = 0 ∨ 2 ^ 52 * (den <<< ((num / den).log2 - 52)) ≤ num) := by
  obtain ⟨k, hk⟩ : ∃ k, k = (num / den).log2 - 52 := ⟨_, rfl⟩
  rw [← hk, Nat.shiftLeft_eq]
  have hfloor : num / den < 2 ^ (53 + k) :=
    (Nat.lt_log2_self (n := num / den)).trans_le (Nat.pow_le_pow_right two_pos (by omega))
  refine ⟨?_, ?_⟩
  · rw [Nat.div_lt_iff_lt_mul hden, pow_add] at hfloor
    rwa [mul_comm den, ← mul_assoc]
  · rcases Nat.eq_zero_or_pos k with hzero | hpos
    · exact .inl hzero
    · have hne : num / den ≠ 0 := fun h => by simp [h] at hk; omega
      have hpow : 2 ^ (52 + k) ≤ num / den := by
        rw [show 52 + k = (num / den).log2 by omega]
        exact Nat.log2_self_le hne
      rw [Nat.le_div_iff_mul_le hden, pow_add] at hpow
      exact .inr (by rwa [mul_comm den, ← mul_assoc])

theorem nearest_of_fits {num den k s : ℕ} (hk : (num / den).log2 - 52 = k)
    (hs : roundQuotient num (den <<< k) = s) (hlt : s < 9007199254740992) (hle : k ≤ 2045)
    (hnormal : k = 0 ∨ 4503599627370496 ≤ s) :
    nearest num den = some ⟨s, k, hlt, hle, hnormal⟩ := by
  subst hk hs
  rw [nearest, dif_pos ⟨hlt, hle, hnormal⟩]

/-- When the rounding reaches the next power of two, the magnitude is on the next grid. -/
theorem nearest_of_carries {num den k : ℕ} (hk : (num / den).log2 - 52 = k)
    (hs : roundQuotient num (den <<< k) = 9007199254740992) (hle : k + 1 ≤ 2045) :
    nearest num den = some ⟨4503599627370496, k + 1, by decide, hle, .inr (Nat.le_refl _)⟩ := by
  subst hk
  rw [nearest, dif_neg (by omega), dif_pos hle]

/-- The greatest magnitude. -/
def greatest : Magnitude := ⟨9007199254740991, 2045, by decide, by decide, .inr (by decide)⟩

theorem units_le_of_le {a b : Magnitude} (hsignificand : a.significand ≤ b.significand)
    (hscale : a.scale ≤ b.scale) : a.units ≤ b.units := by
  rw [units, units, Nat.shiftLeft_eq, Nat.shiftLeft_eq]
  exact Nat.mul_le_mul hsignificand (Nat.pow_le_pow_right two_pos hscale)

theorem units_le_greatest (m : Magnitude) : m.units ≤ greatest.units :=
  units_le_of_le (Nat.le_of_lt_succ m.significand_lt) m.scale_le

theorem shiftLeft_mul_le (den : ℕ) {k i e : ℕ} (h : k + i ≤ e) : (den <<< k) * 2 ^ i ≤ den <<< e := by
  rw [Nat.shiftLeft_eq, Nat.shiftLeft_eq, mul_assoc, ← pow_add]
  exact Nat.mul_le_mul_left den (Nat.pow_le_pow_right two_pos h)

theorem shiftLeft_mul (n k den : ℕ) : (n <<< k) * den = n * (den <<< k) := by
  rw [Nat.shiftLeft_eq, Nat.shiftLeft_eq, mul_assoc, mul_comm den]

theorem greatest_units_mul (den : ℕ) : greatest.units * den = 9007199254740991 * (den <<< 2045) :=
  shiftLeft_mul _ _ _

theorem lt_of_log2_le {num den e : ℕ} (hden : 0 < den) (h : (num / den).log2 ≤ 51 + e) :
    num < 2 ^ 52 * (den <<< e) := by
  have hfloor : num / den < 2 ^ (52 + e) :=
    (Nat.lt_log2_self (n := num / den)).trans_le (Nat.pow_le_pow_right two_pos (by omega))
  rwa [Nat.div_lt_iff_lt_mul hden, pow_add, mul_assoc, mul_comm _ den, ← Nat.shiftLeft_eq] at hfloor

theorem le_greatest {num den : ℕ} (hden : 0 < den) (hsize : (num / den).log2 ≤ 2096) :
    num ≤ greatest.units * den := by
  have hlt : num < 2 ^ 52 * (den <<< 2045) := lt_of_log2_le hden hsize
  rw [greatest_units_mul]
  omega

/-- A quotient that is not beyond the greatest magnitude has a nearest one: the quotient
rounded on its grid. -/
theorem exists_nearest {num den : ℕ} (hden : 0 < den) (hle : num ≤ greatest.units * den) :
    ∃ m, nearest num den = some m ∧
      m.units = roundQuotient num (den <<< ((num / den).log2 - 52)) <<< ((num / den).log2 - 52) := by
  obtain ⟨hhigh, hlow⟩ := scale_bounds num hden
  obtain ⟨k, hk⟩ : ∃ k, (num / den).log2 - 52 = k := ⟨_, rfl⟩
  rw [hk] at hhigh hlow ⊢
  rw [greatest_units_mul] at hle
  have hstep : ∀ i, 0 < den <<< i := fun i => by rw [Nat.shiftLeft_eq]; positivity
  have hround := roundQuotient_le_of_le_mul (hstep k) hhigh.le
  have hnormal := hlow.imp_right (le_roundQuotient_of_mul_le (hstep k))
  have hscale : k ≤ 2045 := by
    by_contra hbeyond
    have htwice := shiftLeft_mul_le den (show 2045 + 1 ≤ k by omega)
    have hunit := hstep 2045
    omega
  by_cases hfull : roundQuotient num (den <<< k) = 9007199254740992
  · -- on the last grid no quotient is rounded so far up
    have hbefore : k ≠ 2045 := by
      rintro rfl
      have hlast := roundQuotient_le_of_le_mul (hstep 2045) hle
      omega
    refine ⟨_, nearest_of_carries hk hfull (by omega), ?_⟩
    rw [hfull]
    simp only [units, Nat.shiftLeft_eq, pow_succ]
    omega
  · exact ⟨_, nearest_of_fits hk rfl (by omega) hscale (by omega), rfl⟩

/-- No magnitude is nearer than the nearest one. Those on a finer grid are below the power of
two that the quotient begins with. -/
theorem exists_nearest_abs_sub_le {num den : ℕ} (hden : 0 < den) (hle : num ≤ greatest.units * den) :
    ∃ m, nearest num den = some m ∧
      ∀ x : Magnitude, |(num : ℤ) - (m.units * den : ℕ)| ≤ |(num : ℤ) - (x.units * den : ℕ)| := by
  obtain ⟨m, hm, hunits⟩ := exists_nearest hden hle
  obtain ⟨-, hlow⟩ := scale_bounds num hden
  obtain ⟨k, hk⟩ : ∃ k, (num / den).log2 - 52 = k := ⟨_, rfl⟩
  rw [hk] at hunits hlow
  have hstep : 0 < den <<< k := by rw [Nat.shiftLeft_eq]; positivity
  have hnear := (isNearest_roundQuotient num hstep).abs_sub_le hstep
  refine ⟨m, hm, fun x => ?_⟩
  rw [hunits, shiftLeft_mul]
  by_cases hcoarse : k ≤ x.scale
  · have hgrid : x.units * den = x.significand <<< (x.scale - k) * (den <<< k) := by
      rw [← shiftLeft_mul, ← Nat.shiftLeft_add, Nat.sub_add_cancel hcoarse, units]
    rw [hgrid]
    exact hnear _
  · have hfirst : 2 ^ 52 * (den <<< k) ≤ num := hlow.resolve_left (by omega)
    have hbelow : x.units * den ≤ 2 ^ 52 * (den <<< k) := by
      have htwice := shiftLeft_mul_le den (show x.scale + 1 ≤ k by omega)
      calc x.units * den = x.significand * (den <<< x.scale) := shiftLeft_mul _ _ _
        _ ≤ 2 ^ 53 * (den <<< x.scale) := Nat.mul_le_mul_right _ x.significand_lt.le
        _ ≤ 2 ^ 52 * (den <<< k) := by omega
    refine (hnear (2 ^ 52)).trans ?_
    rw [abs_of_nonneg (by omega), abs_of_nonneg (by omega)]
    omega

theorem admits_iff {m : Magnitude} {num den : ℕ} :
    m.admits num den = true ↔ m.fourfoldEnds.1 * den ≤ num ∧ num ≤ m.fourfoldEnds.2 * den ∧
      (m.fourfoldEnds.1 * den = num ∨ num = m.fourfoldEnds.2 * den → Even m.significand) := by
  simp only [admits, Nat.even_iff]
  split <;> simp only [Bool.and_eq_true, decide_eq_true_eq] <;> omega

theorem isNearest_of_admits {m : Magnitude} {num den : ℕ} (hden : 0 < den)
    (h : m.admits (4 * num) den = true) :
    IsNearest m.significand ((num : ℚ) / (den <<< m.scale : ℕ)) := by
  obtain ⟨hlow, hhigh, heven⟩ := admits_iff.mp h
  rw [isNearest_div_iff (by rw [Nat.shiftLeft_eq]; positivity)]
  rw [Nat.shiftLeft_eq, mul_comm den]
  simp only [fourfoldEnds, Nat.shiftLeft_eq, mul_assoc, Nat.sub_mul, Nat.add_mul] at hlow hhigh heven
  have hbelow : (if m.significand = 4503599627370496 ∧ m.scale ≠ 0 then 1 else 2) *
      (2 ^ m.scale * den) ≤ 2 * (2 ^ m.scale * den) := Nat.mul_le_mul_right _ (by split <;> omega)
  refine ⟨by omega, by omega, fun h => heven (by omega)⟩

theorem le_of_admits_power {m : Magnitude} {num den : ℕ} (h : m.admits (4 * num) den = true)
    (hs : m.significand = 4503599627370496) (hscale : m.scale ≠ 0) :
    4 * (4503599627370496 * (den <<< m.scale)) ≤ 4 * num + den <<< m.scale := by
  obtain ⟨hlow, -, -⟩ := admits_iff.mp h
  rw [fourfoldEnds, if_pos ⟨hs, hscale⟩, hs] at hlow
  rw [Nat.shiftLeft_eq, mul_comm den]
  simp only [Nat.shiftLeft_eq, mul_assoc] at hlow
  omega

/-- A value in the interval of a magnitude whose own grid is finer lies just below a power of
two: it is rounded up to that, and the magnitude is that one. -/
theorem carries_of_admits {m : Magnitude} {num den k : ℕ} (hden : 0 < den) (h : m.admits (4 * num) den = true)
    (hhigh : num < 2 ^ 53 * (den <<< k)) (hfiner : k < m.scale) :
    m.significand = 4503599627370496 ∧ m.scale = k + 1 ∧ roundQuotient num (den <<< k) = 9007199254740992 := by
  have hstep : ∀ i, 0 < den <<< i := fun i => by rw [Nat.shiftLeft_eq]; positivity
  obtain ⟨hlower, hupper, -⟩ := (isNearest_div_iff (hstep _)).mp (isNearest_of_admits hden h)
  have htwice := shiftLeft_mul_le den (show k + 1 ≤ m.scale from hfiner)
  have hnormal := m.normal
  have hs : m.significand = 4503599627370496 := by
    by_contra hne
    have habove : 4503599627370497 * (den <<< m.scale) ≤ m.significand * (den <<< m.scale) :=
      Nat.mul_le_mul_right _ (by omega)
    omega
  have hend := le_of_admits_power h hs (by omega)
  have hscale : m.scale = k + 1 := by
    by_contra hne
    have hfour := shiftLeft_mul_le den (show k + 2 ≤ m.scale by omega)
    omega
  have hnext : den <<< m.scale = 2 * (den <<< k) := by rw [hscale, Nat.shiftLeft_succ]
  refine ⟨hs, hscale, ?_⟩
  rw [roundQuotient_eq_iff (hstep k), isNearest_div_iff (hstep k)]
  exact ⟨by omega, by omega, fun _ => by decide⟩

/-- A value in the interval of a magnitude is rounded to it. The grid that the value is rounded
on is the magnitude's own, or, below a power of two, the one before. -/
theorem nearest_of_admits {m : Magnitude} {num den : ℕ} (hden : 0 < den)
    (h : m.admits (4 * num) den = true) : nearest num den = some m := by
  obtain ⟨hhigh, hlow⟩ := scale_bounds num hden
  obtain ⟨k, hk⟩ : ∃ k, (num / den).log2 - 52 = k := ⟨_, rfl⟩
  rw [hk] at hhigh hlow
  have hstep : ∀ i, 0 < den <<< i := fun i => by rw [Nat.shiftLeft_eq]; positivity
  have hnear := isNearest_of_admits hden h
  rcases Nat.lt_trichotomy k m.scale with hfiner | rfl | hcoarser
  · obtain ⟨hs, hscale, hround⟩ := carries_of_admits hden h hhigh hfiner
    obtain ⟨s, e, hlt, hle, hnormal⟩ := m
    obtain rfl : s = 4503599627370496 := hs
    obtain rfl : e = k + 1 := hscale
    exact nearest_of_carries hk hround hle
  · have hround := (roundQuotient_eq_iff (hstep m.scale)).mpr hnear
    exact nearest_of_fits hk hround m.significand_lt m.scale_le m.normal
  · -- the values of a coarser grid are beyond the interval
    obtain ⟨-, hupper, -⟩ := (isNearest_div_iff (hstep _)).mp hnear
    have hmost : m.significand * (den <<< m.scale) ≤ 9007199254740991 * (den <<< m.scale) :=
      Nat.mul_le_mul_right _ (Nat.le_of_lt_succ m.significand_lt)
    have htwice := shiftLeft_mul_le den (show m.scale + 1 ≤ k from hcoarser)
    have hunit := hstep m.scale
    omega

end Magnitude

end Placeholders.Number

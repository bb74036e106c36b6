/-
Numbers read back from their texts. The search for the shortest digits only ends at a
decimal in the interval of the magnitude (`contains_shortest`). Such a decimal is neither so
great nor so small that reading it takes a short cut (`ofDecimal_of_admits`), and it is
rounded to the magnitude. So a finite number is read from its text as itself, with the
sign of a zero too (`readBinary64?_toText`).
-/
import Placeholders.Proofs.Decimals
import Placeholders.Proofs.Nearest
import Placeholders.Proofs.OutputLimit
import Mathlib.Tactic.Ring

namespace Placeholders.Number

theorem tenTo_eq (power : ℕ) : tenTo power = 10 ^ power := rfl

namespace Magnitude

theorem admits_units (m : Magnitude) {den : ℕ} (hden : 0 < den) : m.admits (4 * (m.units * den)) den = true := by
  have hstep : 0 < 2 ^ m.scale * den := by positivity
  simp only [admits_iff, fourfoldEnds, units, Nat.shiftLeft_eq, mul_assoc, Nat.sub_mul, Nat.add_mul]
  refine ⟨by omega, by omega, fun hends => ?_⟩
  -- the value is away from the ends, but for no units at all
  by_cases hzero : m.significand = 0
  · simp [hzero]
  · have hunits : 2 ^ m.scale * den ≤ m.significand * (2 ^ m.scale * den) :=
      Nat.le_mul_of_pos_left _ (by omega)
    have hbelow : 2 ^ m.scale * den ≤
        (if m.significand = 4503599627370496 ∧ m.scale ≠ 0 then 1 else 2) * (2 ^ m.scale * den) :=
      Nat.le_mul_of_pos_left _ (by split <;> omega)
    omega

/-- The decimal lies in the interval of the magnitude. -/
def Contains (m : Magnitude) (d : Decimal) : Prop :=
  m.admits (4 * (d.digits * tenTo d.exponent.toNat * unitsPerOne)) (tenTo (-d.exponent).toNat) = true

theorem contains_of_onGrid? {m : Magnitude} {exponent : Int} {d : Decimal} (h : m.onGrid? exponent = some d) :
    m.Contains d := by
  have hfits : ∀ {k : ℕ}, m.admits (4 * k * (tenTo exponent.toNat * unitsPerOne)) (tenTo (-exponent).toNat) = true →
      some (⟨k, exponent⟩ : Decimal) = some d → m.Contains d := by
    intro k hk hd
    obtain rfl := Option.some.inj hd
    rwa [mul_assoc, ← mul_assoc k] at hk
  unfold onGrid? at h
  dsimp only at h
  split at h
  · next hdown hup =>
    split at h
    · exact hfits hup h
    · exact hfits hdown h
  · next hdown _ => exact hfits hdown h
  · next _ hup => exact hfits hup h
  · cases h

theorem unitsPerOne_dvd_tenTo : unitsPerOne ∣ tenTo 1074 := by
  have hpower : ∀ k, 1 <<< k ∣ tenTo k := fun k => by
    rw [Nat.one_shiftLeft]
    exact pow_dvd_pow_of_dvd (by decide) k
  exact hpower 1074

theorem contains_exact (m : Magnitude) : m.Contains ⟨m.units * tenTo 1074 / unitsPerOne, -1074⟩ := by
  have hexact : ∀ {places : ℕ}, unitsPerOne ∣ tenTo places →
      m.admits (4 * (m.units * tenTo places / unitsPerOne * tenTo 0 * unitsPerOne)) (tenTo places) = true := by
    intro places hdvd
    rw [show tenTo 0 = 1 from rfl, Nat.mul_one, Nat.div_mul_cancel (hdvd.mul_left _)]
    exact m.admits_units (Nat.pow_pos (by decide))
  exact hexact unitsPerOne_dvd_tenTo

theorem contains_shortest (m : Magnitude) : m.Contains m.shortest := by
  unfold shortest
  dsimp only
  cases hfound : (List.range 18).findSome? fun (n : ℕ) => m.onGrid? (m.decimalOrder - n) with
  | some d =>
    obtain ⟨n, -, hn⟩ := List.exists_of_findSome?_eq_some hfound
    exact contains_of_onGrid? hn
  | none => exact m.contains_exact

theorem two_mul_unitsPerOne_le : 2 * unitsPerOne ≤ 10 ^ 400 := by decide +kernel

/-- What lies in the interval of a magnitude that is not zero is far from being infinite, and
from being zero. -/
theorem bounds_of_admits {m : Magnitude} {digits places : ℕ} (hm : m.significand ≠ 0)
    (h : m.admits (4 * (digits * unitsPerOne)) (tenTo places) = true) :
    digits < 10 ^ (400 + places) ∧ 10 ^ places ≤ digits * 10 ^ 400 := by
  obtain ⟨hlow, hhigh, -⟩ := admits_iff.mp h
  rw [tenTo_eq] at hlow hhigh
  obtain ⟨limit, hgreat, hunits⟩ : ∃ limit, 2 * limit ≤ 10 ^ 400 ∧ m.units < limit * unitsPerOne :=
    ⟨2 ^ 1024, by decide +kernel, m.units_lt (Nat.le_refl 1024)⟩
  have hunit := unitsPerOne_pos
  refine ⟨?_, ?_⟩
  · have hend : m.fourfoldEnds.2 ≤ 8 * m.units := by
      simp only [fourfoldEnds, units, Nat.shiftLeft_eq, ← mul_assoc]
      exact Nat.mul_le_mul_right _ (by omega)
    have hscaled : m.fourfoldEnds.2 * 10 ^ places ≤ 8 * m.units * 10 ^ places := Nat.mul_le_mul_right _ hend
    refine Nat.lt_of_mul_lt_mul_right (a := unitsPerOne) ?_
    calc digits * unitsPerOne ≤ 2 * m.units * 10 ^ places := by rw [mul_assoc] at hscaled ⊢; omega
      _ < 2 * (limit * unitsPerOne) * 10 ^ places := by gcongr
      _ = 2 * limit * 10 ^ places * unitsPerOne := by ring
      _ ≤ 10 ^ 400 * 10 ^ places * unitsPerOne := by gcongr
      _ = 10 ^ (400 + places) * unitsPerOne := by rw [pow_add]
  · have hend : 2 ≤ m.fourfoldEnds.1 := by
      simp only [fourfoldEnds, Nat.shiftLeft_eq]
      refine Nat.le_mul_of_pos_right _ (by positivity) |>.trans' ?_
      split <;> omega
    have hscaled : 2 * 10 ^ places ≤ m.fourfoldEnds.1 * 10 ^ places := Nat.mul_le_mul_right _ hend
    calc 10 ^ places ≤ digits * (2 * unitsPerOne) := by rw [Nat.mul_left_comm]; omega
      _ ≤ digits * 10 ^ 400 := Nat.mul_le_mul_left _ two_mul_unitsPerOne_le

end Magnitude

open Text (digitsValue ofNat)

/-- A number that reaches a power of ten after so many more digits has nearly as many itself. -/
theorem lt_length_ofNat_add {n places k : ℕ} (h : 10 ^ places ≤ n * 10 ^ k) : places < (ofNat n).length + k := by
  have hlt : n < 10 ^ (ofNat n).length :=
    (Nat.length_toDigits_le_iff (by decide) Nat.length_toDigits_pos).mp (Nat.le_refl _)
  refine (Nat.pow_lt_pow_iff_right (by decide : 1 < 10)).mp ?_
  calc 10 ^ places ≤ n * 10 ^ k := h
    _ < 10 ^ (ofNat n).length * 10 ^ k := Nat.mul_lt_mul_of_pos_right hlt (Nat.pow_pos (by decide))
    _ = 10 ^ ((ofNat n).length + k) := (Nat.pow_add _ _ _).symm

theorem ofDecimal_eq_nearest {digits places : ℕ} (negative : Bool) (hdigits : digits ≠ 0)
    (hgreat : digits < 10 ^ (400 + places)) (hsmall : 10 ^ places ≤ digits * 10 ^ 400) :
    ofDecimal negative digits (-(places : Int)) = .nearest negative digits (tenTo places) := by
  have hmost : (ofNat digits).length ≤ 400 + places :=
    (Nat.length_toDigits_le_iff (by decide) (by omega)).mpr hgreat
  have hleast := lt_length_ofNat_add hsmall
  unfold ofDecimal
  dsimp only
  rw [if_neg hdigits, if_neg (by omega), if_neg (by omega)]
  cases places with
  | zero => rw [if_pos (by omega)]; simp [tenTo]
  | succ places => rw [if_neg (by omega), Int.neg_neg, Int.toNat_natCast]

/-- A decimal in the interval of a magnitude is that magnitude. -/
theorem ofDecimal_of_admits {m : Magnitude} {digits places : ℕ} (negative : Bool) (hm : m.significand ≠ 0)
    (h : m.admits (4 * (digits * unitsPerOne)) (tenTo places) = true) :
    ofDecimal negative digits (-(places : Int)) = .finite negative m := by
  obtain ⟨hgreat, hsmall⟩ := Magnitude.bounds_of_admits hm h
  have hdigits : digits ≠ 0 := by
    intro hzero
    rw [hzero, Nat.zero_mul, Nat.le_zero] at hsmall
    exact pow_ne_zero _ (by decide) hsmall
  have hnearest : Magnitude.nearest (digits * unitsPerOne) (tenTo places) = some m :=
    Magnitude.nearest_of_admits (Nat.pow_pos (by decide)) h
  rw [ofDecimal_eq_nearest negative hdigits hgreat hsmall, Binary64.nearest, hnearest, Option.elim_some]

theorem eq_zero_of_significand {m : Magnitude} (hm : m.significand = 0) : m = .zero := by
  obtain ⟨significand, scale, hlt, hle, hnormal⟩ := m
  obtain rfl : significand = 0 := hm
  obtain rfl : scale = 0 := by omega
  rfl

/-- **A finite number is read back from its text.** There is nothing to trim about the text. -/
theorem readBinary64?_toText (negative : Bool) (m : Magnitude) :
    readBinary64? (Binary64.finite negative m).toText.trim = some (.finite negative m) := by
  unfold Binary64.toText
  dsimp only
  by_cases hm : m.significand = 0
  · have htext : signText negative ++ ['0'] = signText negative ++ pointed ['0'] [] := rfl
    have hwhole : Text.isDigits ['0'] = true := by decide
    rw [if_pos hm, htext, trim_signText_append hwhole (by simp), readBinary64?_signText_append hwhole (by simp),
      eq_zero_of_significand hm]
    rfl
  · obtain ⟨whole, fraction, htext, hwhole, hfraction, hvalue, hlength⟩ := m.shortest.exists_toText
    rw [if_neg hm, htext, trim_signText_append hwhole hfraction, readBinary64?_signText_append hwhole hfraction,
      hvalue, hlength, ofDecimal_of_admits negative hm m.contains_shortest]

end Placeholders.Number

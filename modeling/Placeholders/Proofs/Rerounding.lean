/-
A number that is rounded again. What rounding writes with so many places is a decimal, and it
is read as the magnitude nearest to that decimal. The magnitude that was written is one that
could be read, so the one that is read is no farther from the decimal: it is at most half a
step away, and just half a step only where the decimal is even
(`inPlaces_eq_of_abs_sub_le`). So it is written as the same decimal, whether it is the same
magnitude or not (`readBinary64?_toPlaces`, `round_round`).
-/
import Placeholders.Proofs.Builtins
import Placeholders.Proofs.ReadingBack

namespace Placeholders
namespace Number

open Magnitude (greatest)

/-! ## The decimal of a magnitude -/

theorem inPlaces_eq_iff {m : Magnitude} {places k : ℕ} :
    m.inPlaces places = k ↔
      2 * (k * unitsPerOne) ≤ 2 * (m.units * tenTo places) + unitsPerOne ∧
        2 * (m.units * tenTo places) ≤ 2 * (k * unitsPerOne) + unitsPerOne ∧
        (2 * (k * unitsPerOne) = 2 * (m.units * tenTo places) + unitsPerOne ∨
          2 * (m.units * tenTo places) = 2 * (k * unitsPerOne) + unitsPerOne → Even k) := by
  rw [Magnitude.inPlaces, roundQuotient_eq_iff unitsPerOne_pos, isNearest_div_iff unitsPerOne_pos]

theorem inPlaces_of_units_eq_zero {m : Magnitude} (h : m.units = 0) (places : ℕ) : m.inPlaces places = 0 := by
  rw [inPlaces_eq_iff, h, Nat.zero_mul]
  exact ⟨by omega, by omega, fun _ => Even.zero⟩

/-- A magnitude that is no farther than another one from that one's decimal has the same decimal. -/
theorem inPlaces_eq_of_abs_sub_le {m x : Magnitude} {places : ℕ}
    (h : |((m.inPlaces places * unitsPerOne : ℕ) : ℤ) - (x.units * tenTo places : ℕ)| ≤
      |((m.inPlaces places * unitsPerOne : ℕ) : ℤ) - (m.units * tenTo places : ℕ)|) :
    x.inPlaces places = m.inPlaces places := by
  obtain ⟨hlower, hupper, heven⟩ := inPlaces_eq_iff.mp (rfl : m.inPlaces places = m.inPlaces places)
  obtain ⟨hleft, hright⟩ := abs_le.mp h
  rw [inPlaces_eq_iff]
  rcases abs_cases (((m.inPlaces places * unitsPerOne : ℕ) : ℤ) - (m.units * tenTo places : ℕ)) with
    ⟨hdistance, -⟩ | ⟨hdistance, -⟩
  · exact ⟨by omega, by omega, fun hhalf => heven (by omega)⟩
  · exact ⟨by omega, by omega, fun hhalf => heven (by omega)⟩

theorem exists_greatest_units : ∃ whole < 10 ^ 400, greatest.units = whole * unitsPerOne :=
  ⟨greatest.units / unitsPerOne, by decide +kernel, by decide +kernel⟩

theorem inPlaces_le_of_units_le {m : Magnitude} {whole : ℕ} (h : m.units ≤ whole * unitsPerOne) (places : ℕ) :
    m.inPlaces places ≤ whole * tenTo places := by
  refine roundQuotient_le_of_le_mul unitsPerOne_pos ?_
  rw [Nat.mul_right_comm]
  exact Nat.mul_le_mul_right _ h

theorem inPlaces_mul_le (m : Magnitude) (places : ℕ) :
    m.inPlaces places * unitsPerOne ≤ greatest.units * tenTo places := by
  obtain ⟨whole, -, hwhole⟩ := exists_greatest_units
  rw [hwhole, Nat.mul_right_comm]
  exact Nat.mul_le_mul_right _ (inPlaces_le_of_units_le (hwhole ▸ m.units_le_greatest) places)

theorem inPlaces_lt (m : Magnitude) (places : ℕ) : m.inPlaces places < 10 ^ (400 + places) := by
  obtain ⟨whole, hlt, hwhole⟩ := exists_greatest_units
  calc m.inPlaces places ≤ whole * tenTo places := inPlaces_le_of_units_le (hwhole ▸ m.units_le_greatest) places
    _ < 10 ^ 400 * tenTo places := Nat.mul_lt_mul_of_pos_right hlt (Nat.pow_pos (by decide))
    _ = 10 ^ (400 + places) := by rw [tenTo_eq, pow_add]

theorem le_inPlaces_mul {m : Magnitude} {places : ℕ} (h : m.inPlaces places ≠ 0) :
    10 ^ places ≤ m.inPlaces places * 10 ^ 400 := by
  have hunits : m.units ≠ 0 := fun hzero => h (inPlaces_of_units_eq_zero hzero places)
  obtain ⟨-, hupper, -⟩ := inPlaces_eq_iff.mp (rfl : m.inPlaces places = m.inPlaces places)
  have hplaces : 10 ^ places ≤ m.units * tenTo places := Nat.le_mul_of_pos_left _ (Nat.pos_of_ne_zero hunits)
  have hcount : unitsPerOne ≤ m.inPlaces places * unitsPerOne := Nat.le_mul_of_pos_left _ (Nat.pos_of_ne_zero h)
  have hscaled : m.inPlaces places * (2 * unitsPerOne) ≤ m.inPlaces places * 10 ^ 400 :=
    Nat.mul_le_mul_left _ Magnitude.two_mul_unitsPerOne_le
  rw [Nat.mul_left_comm] at hscaled
  omega

/-! ## Reading it back -/

theorem readBinary64?_fixedPoint (negative : Bool) (count places : ℕ) :
    readBinary64? (signText negative ++ fixedPoint count places).trim =
      some (ofDecimal negative count (-(places : Int))) := by
  have hwhole := isDigits_ofNat (count / 10 ^ places)
  have hfraction : ∀ c ∈ lastDigits places count, c.isDigit = true := fun c => isDigit_of_mem_lastDigits
  rw [fixedPoint_eq, trim_signText_append hwhole hfraction, readBinary64?_signText_append hwhole hfraction,
    digitsValue_quotient_append, length_lastDigits]

/-- The decimal of a magnitude is read as a magnitude with the same decimal. -/
theorem exists_ofDecimal_inPlaces (negative : Bool) (m : Magnitude) (places : ℕ) :
    ∃ x, ofDecimal negative (m.inPlaces places) (-(places : Int)) = .finite negative x ∧
      x.inPlaces places = m.inPlaces places := by
  by_cases hzero : m.inPlaces places = 0
  · rw [hzero]
    exact ⟨.zero, rfl, inPlaces_of_units_eq_zero rfl places⟩
  · have hpos : 0 < tenTo places := Nat.pow_pos (by decide)
    obtain ⟨x, hx, hnear⟩ := Magnitude.exists_nearest_abs_sub_le hpos (inPlaces_mul_le m places)
    refine ⟨x, ?_, inPlaces_eq_of_abs_sub_le (hnear m)⟩
    rw [ofDecimal_eq_nearest negative hzero (inPlaces_lt m places) (le_inPlaces_mul hzero), Binary64.nearest, hx,
      Option.elim_some]

theorem readBinary64?_toPlaces (x : Binary64) (places : ℕ) :
    ∃ y, readBinary64? (x.toPlaces places).trim = some y ∧ y.toPlaces places = x.toPlaces places := by
  cases x with
  | nan =>
    have hread : readBinary64? nanText.trim = some .nan := by decide
    exact ⟨.nan, hread, rfl⟩
  | infinite negative =>
    have hread : readBinary64? (infiniteText negative).trim = some (.infinite negative) := by
      cases negative <;> decide
    exact ⟨.infinite negative, hread, rfl⟩
  | finite negative m =>
    obtain ⟨y, hy, hsame⟩ := exists_ofDecimal_inPlaces negative m places
    refine ⟨.finite negative y, ?_, ?_⟩
    · rw [Binary64.toPlaces, readBinary64?_fixedPoint, hy]
    · rw [Binary64.toPlaces, Binary64.toPlaces, hsame]

end Number

namespace Builtin

/-- **Rounding twice is rounding once.** Whatever value comes to a text when it is rounded, a
number in any notation, an infinity or a NaN, that text comes to itself with the same places. -/
theorem round_round {value t : Text} {args : List Argument} (h : round value args = .ok t) :
    round t args = .ok t := by
  obtain ⟨places, x, hplaces, hle, -, rfl⟩ := round_eq_ok.mp h
  obtain ⟨y, hread, hsame⟩ := Number.readBinary64?_toPlaces x places
  exact round_eq_ok.mpr ⟨places, y, hplaces, hle, hread, hsame⟩

/-- An eighth is half way between two decimals of two places, of which neither is a float. -/
theorem round_round_eighth :
    round " 1.25e-1 ".toList [.integer (2 : ℕ)] = .ok "0.12".toList ∧
      round "0.12".toList [.integer (2 : ℕ)] = .ok "0.12".toList := by
  have hround : round " 1.25e-1 ".toList [.integer (2 : ℕ)] = .ok "0.12".toList := by decide +kernel
  exact ⟨hround, round_round hround⟩

end Builtin
end Placeholders

/-
Padding and truncation count characters. Padding puts on its side as many characters as the
value lacks to the width, and these are the fill over and over (`IsCycle`): a text is known
by its characters, so there is one such. It fails for its arguments alone, whatever the
value is (`padTo_eq_ok`), so a value that has the width already is left, and so is one that
has been padded. Truncation keeps a prefix, and of two the shorter one
(`pad_and_truncate`).
-/
import Placeholders.Proofs.OutputLimit

namespace Placeholders

/-- So many characters of a text that is written over and over. -/
structure Text.IsCycle (fill : Text) (count : ℕ) (t : Text) : Prop where
  length_eq : t.length = count
  getElem?_eq : ∀ i < count, t[i]? = fill[i % fill.length]?

namespace Builtin
open Text (IsCycle)

/-! ## Truncation -/

theorem truncate_of_nonneg {n : ℤ} (h : 0 ≤ n) (value : Text) :
    truncate value [.integer n] = .ok (value.take n.toNat) := by
  rw [truncate, fetchCount_of_nonneg h]
  rfl

theorem truncate_of_neg {n : ℤ} (h : n < 0) (value : Text) :
    truncate value [.integer n] = refuse (.invalidArgument 0 .integer) := by
  rw [truncate, fetchCount_of_neg h]
  rfl

theorem truncate_refuses_iff {n : ℤ} {value : Text} :
    (∃ e, truncate value [.integer n] = refuse e) ↔ n < 0 := by
  constructor
  · rintro ⟨e, h⟩
    by_contra hn
    rw [truncate_of_nonneg (Int.not_lt.mp hn)] at h
    cases h
  · exact fun hn => ⟨_, truncate_of_neg hn value⟩

/-- A prefix that is truncated is the value, truncated to the shorter length. -/
theorem truncate_take {m : ℤ} (hm : 0 ≤ m) (n : ℤ) (value : Text) :
    truncate (value.take m.toNat) [.integer n] = truncate value [.integer (min m n)] := by
  rcases Int.lt_or_le n 0 with hn | hn
  · rw [truncate_of_neg hn, truncate_of_neg (by omega)]
  · rw [truncate_of_nonneg hn, truncate_of_nonneg (by omega), List.take_take]
    congr 2
    omega

/-! ## Padding -/

theorem getElem?_flatten_replicate {t : Text} {n i : ℕ} (h : i < n * t.length) :
    (List.replicate n t).flatten[i]? = t[i % t.length]? := by
  induction n generalizing i with
  | zero => omega
  | succ n ih =>
    rw [List.replicate_succ, List.flatten_cons]
    rcases Nat.lt_or_ge i t.length with hfirst | hlater
    · rw [List.getElem?_append_left hfirst, Nat.mod_eq_of_lt hfirst]
    · rw [List.getElem?_append_right hlater, ih (by rw [Nat.add_mul] at h; omega), ← Nat.mod_eq_sub_mod hlater]

theorem isCycle_padding {fill : Text} (h : fill ≠ []) (count : ℕ) : IsCycle fill count (padding fill count) := by
  refine ⟨length_padding h count, fun i hi => ?_⟩
  have hpos : 0 < fill.length := List.length_pos_iff.mpr h
  have hlong : count < fill.length * (count / fill.length + 1) := Nat.lt_mul_div_succ count hpos
  rw [padding, List.getElem?_take_of_lt hi]
  exact getElem?_flatten_replicate (by rw [Nat.mul_comm]; omega)

theorem padding_zero (fill : Text) : padding fill 0 = [] := List.take_zero

/-- The function of padding on a side. -/
def Side.function : Side → Text
  | left => "pad_left".toList
  | right => "pad_right".toList

/-- Padding on a side to a width, with a fill or, when there is none, with blanks. -/
def Side.padTo (side : Side) (width : ℤ) (fill? : Option Text) (value : Text) : Outcome FunctionError Text :=
  match fill? with
  | none => side.pad blankFill value [.integer width]
  | some fill => side.pad givenFill value [.integer width, .string fill]

/-- The characters that padding fills with. -/
def fillText (fill? : Option Text) : Text := fill?.getD [' ']

variable {side : Side} {width : ℤ} {fill? : Option Text} {value t : Text}

theorem padTo_of_nonneg (h : 0 ≤ width) :
    side.padTo width fill? value = (missingTo width.toNat (fillText fill?) value).map (side.join · value) := by
  cases fill? with
  | none => exact side.pad_eq rfl (fetchCount_of_nonneg h _) value
  | some fill => exact side.pad_eq rfl (fetchCount_of_nonneg h _) value

theorem padTo_of_neg (h : width < 0) :
    side.padTo width fill? value = refuse (.invalidArgument 0 .integer) := by
  cases fill? <;> cases side <;>
    simp only [Side.padTo, Side.pad, padLeft, padRight, fetchCount_of_neg h, blankFill, givenFill] <;> rfl

theorem padTo_eq_ok :
    side.padTo width fill? value = .ok t ↔
      (0 ≤ width ∧ width ≤ outputLimit ∧ fillText fill? ≠ []) ∧
        t = side.join (padding (fillText fill?) (width.toNat - value.length)) value := by
  rcases Int.lt_or_le width 0 with hneg | hnonneg
  · rw [padTo_of_neg hneg]
    exact ⟨fun h => (nomatch h), fun h => absurd h.1.1 (Int.not_le.mpr hneg)⟩
  · have hlimit : width.toNat ≤ outputLimit ↔ width ≤ outputLimit := by omega
    rw [padTo_of_nonneg hnonneg, Outcome.map_eq_ok]
    simp only [missingTo_eq_ok, hlimit]
    constructor
    · rintro ⟨_, ⟨hwidth, hfill, rfl⟩, rfl⟩
      exact ⟨⟨hnonneg, hwidth, hfill⟩, rfl⟩
    · rintro ⟨⟨-, hwidth, hfill⟩, rfl⟩
      exact ⟨_, ⟨hwidth, hfill, rfl⟩, rfl⟩

theorem padTo_refuses_iff :
    (∃ e, side.padTo width fill? value = refuse e) ↔
      width < 0 ∨ (outputLimit : ℤ) < width ∨ fillText fill? = [] := by
  constructor
  · rintro ⟨e, h⟩
    by_contra hnone
    simp only [not_or, not_lt] at hnone
    rw [padTo_eq_ok.mpr ⟨hnone, rfl⟩] at h
    cases h
  · intro hsome
    rcases Int.lt_or_le width 0 with hneg | hnonneg
    · exact ⟨_, padTo_of_neg hneg⟩
    · rw [padTo_of_nonneg hnonneg]
      rcases settles_missingTo width.toNat (fillText fill?) value with ⟨added, hadded⟩ | ⟨reason, hreason⟩
      · obtain ⟨hwidth, hfill, -⟩ := missingTo_eq_ok.mp hadded
        rcases hsome with hneg | hlarge | hempty
        · omega
        · omega
        · exact absurd hempty hfill
      · rw [hreason]
        exact ⟨_, rfl⟩

/-- What has been padded has the width, so nothing is missing when it is padded again. -/
theorem padTo_padTo (h : side.padTo width fill? value = .ok t) : side.padTo width fill? t = .ok t := by
  obtain ⟨harguments, rfl⟩ := padTo_eq_ok.mp h
  refine padTo_eq_ok.mpr ⟨harguments, ?_⟩
  have hnone : width.toNat - (side.join (padding (fillText fill?) (width.toNat - value.length)) value).length = 0 := by
    rw [length_join, length_padding harguments.2.2]
    omega
  rw [hnone, padding_zero]
  cases side
  · rfl
  · exact (List.append_nil _).symm

theorem truncate_right (added value : Text) :
    truncate (Side.right.join added value) [.integer value.length] = .ok value := by
  rw [truncate_of_nonneg (Int.natCast_nonneg _), Int.toNat_natCast, Side.join, List.take_left]

theorem resolve_pad (side : Side) :
    standard.resolve ⟨side.function, [.integer]⟩ = some (side.pad blankFill) ∧
      standard.resolve ⟨side.function, [.integer, .string]⟩ = some (side.pad givenFill) := by
  cases side with
  | left =>
    have hblank : standard.resolve ⟨"pad_left".toList, [.integer]⟩ = some (padLeft blankFill) := by cbv
    have hgiven : standard.resolve ⟨"pad_left".toList, [.integer, .string]⟩ = some (padLeft givenFill) := by cbv
    exact ⟨hblank, hgiven⟩
  | right =>
    have hblank : standard.resolve ⟨"pad_right".toList, [.integer]⟩ = some (padRight blankFill) := by cbv
    have hgiven : standard.resolve ⟨"pad_right".toList, [.integer, .string]⟩ = some (padRight givenFill) := by cbv
    exact ⟨hblank, hgiven⟩

theorem resolve_truncate : standard.resolve ⟨"truncate".toList, [.integer]⟩ = some truncate := by cbv

/-- **Padding and truncation count characters.** Padding, on either side and in either form,
adds as many characters as the value lacks to the width, which are the fill over and over; so
the result has the greater of the two lengths, comes to itself when it is padded again, and
after padding on the right is cut back to the value. It fails just for a width that is
negative or above the output limit and for an empty fill, also where nothing is missing.
Truncation keeps the first characters, as many as there are up to the count, and of two
truncations the shorter one; it fails just for a negative count. -/
theorem pad_and_truncate (value : Text) :
    (∀ (side : Side) (width : ℤ) (fill? : Option Text),
      ((∃ e, side.padTo width fill? value = refuse e) ↔
          width < 0 ∨ (outputLimit : ℤ) < width ∨ fillText fill? = []) ∧
        (0 ≤ width → width ≤ outputLimit → fillText fill? ≠ [] →
          ∃ added, IsCycle (fillText fill?) (width.toNat - value.length) added ∧
            side.padTo width fill? value = .ok (side.join added value) ∧
            (side.join added value).length = max width.toNat value.length ∧
            side.padTo width fill? (side.join added value) = .ok (side.join added value) ∧
            (side = .right → truncate (side.join added value) [.integer value.length] = .ok value))) ∧
      (∀ m : ℤ,
        ((∃ e, truncate value [.integer m] = refuse e) ↔ m < 0) ∧
          (0 ≤ m →
            ∃ kept, truncate value [.integer m] = .ok kept ∧ kept <+: value ∧
              kept.length = min m.toNat value.length ∧
              ∀ n : ℤ, truncate kept [.integer n] = truncate value [.integer (min m n)])) ∧
      (∀ side : Side,
        standard.resolve ⟨side.function, [.integer]⟩ = some (side.pad blankFill) ∧
          standard.resolve ⟨side.function, [.integer, .string]⟩ = some (side.pad givenFill)) ∧
      standard.resolve ⟨"truncate".toList, [.integer]⟩ = some truncate := by
  refine ⟨fun side width fill? => ⟨padTo_refuses_iff, fun hnonneg hwidth hfill => ?_⟩,
    fun m => ⟨truncate_refuses_iff, fun hm => ?_⟩, resolve_pad, resolve_truncate⟩
  · have hpad : side.padTo width fill? value =
        .ok (side.join (padding (fillText fill?) (width.toNat - value.length)) value) :=
      padTo_eq_ok.mpr ⟨⟨hnonneg, hwidth, hfill⟩, rfl⟩
    refine ⟨_, isCycle_padding hfill _, hpad, ?_, padTo_padTo hpad, ?_⟩
    · rw [length_join, length_padding hfill]
      omega
    · rintro rfl
      exact truncate_right _ value
  · exact ⟨value.take m.toNat, truncate_of_nonneg hm value, List.take_prefix _ _, List.length_take,
      fun n => truncate_take hm n value⟩

/-- Three characters are missing, and the fill has two. -/
theorem pad_and_truncate_dashes :
    0 ≤ (5 : ℤ) ∧ (5 : ℤ) ≤ outputLimit ∧ fillText (some "-=".toList) ≠ [] ∧
      Side.right.padTo 5 (some "-=".toList) "ab".toList = .ok "ab-=-".toList ∧
      truncate "ab-=-".toList [.integer 2] = .ok "ab".toList ∧
      truncate "ab".toList [.integer 1] = truncate "ab-=-".toList [.integer 1] := by
  have hwidth : (5 : ℤ) ≤ outputLimit := by decide
  have hfill : fillText (some "-=".toList) ≠ [] := by decide
  have hpadded : Side.right.padTo 5 (some "-=".toList) "ab".toList = .ok "ab-=-".toList := by cbv
  obtain ⟨hpads, -⟩ := pad_and_truncate "ab".toList
  obtain ⟨added, -, hpad, -, -, hback⟩ := (hpads .right 5 (some "-=".toList)).2 (by decide) hwidth hfill
  have hjoin : Side.right.join added "ab".toList = "ab-=-".toList := Except.ok.inj (hpad.symm.trans hpadded)
  have hkept := hback rfl
  rw [hjoin] at hkept
  obtain ⟨-, htruncates, -⟩ := pad_and_truncate "ab-=-".toList
  obtain ⟨kept, htruncate, -, -, hagain⟩ := (htruncates 2).2 (by decide)
  have hsame : kept = "ab".toList := Except.ok.inj (htruncate.symm.trans hkept)
  exact ⟨by decide, hwidth, hfill, hpadded, hkept, hsame ▸ hagain 1⟩

end Builtin
end Placeholders

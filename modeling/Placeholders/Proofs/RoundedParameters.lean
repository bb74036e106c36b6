/-
A parameter that is rounded. Its text is read as a number, and the number is written with
so many places. A float is read back as itself, so its exact value is rounded, and once
(`render_round_float`). An integer is read as the nearest number of 53 binary digits, so it
comes out as that one with zeros behind the point, which is the integer itself just when it
has no more digits (`render_round_integer`); the least one that has more is changed
(`render_round_changes`).
-/
import Placeholders.Proofs.BinaryIntegers
import Placeholders.Proofs.Builtins
import Placeholders.Proofs.IntegerTokens

namespace Placeholders
open Number (Binary64 IsNearest Magnitude pointed signText)
open Pattern (enclose scan scan_enclose scan_nil)

namespace Number

/-! ## Places -/

theorem inPlaces_of_whole {m : Magnitude} {whole : ℕ} (h : m.units = whole * unitsPerOne) (places : ℕ) :
    m.inPlaces places = whole * 10 ^ places := by
  rw [Magnitude.inPlaces, h, Nat.mul_right_comm, tenTo_eq]
  exact roundQuotient_mul_self _ unitsPerOne_pos

theorem toPlaces_of_whole {m : Magnitude} {whole : ℕ} (negative : Bool) (h : m.units = whole * unitsPerOne)
    (places : ℕ) :
    (Binary64.finite negative m).toPlaces places =
      signText negative ++ pointed (Text.ofNat whole) (List.replicate places '0') := by
  rw [Binary64.toPlaces, inPlaces_of_whole h, fixedPoint_eq, Nat.mul_div_cancel _ (by positivity), lastDigits_mul]

/-- The value of a magnitude. -/
def Magnitude.toRat (m : Magnitude) : ℚ := m.significand * 2 ^ m.scale / 2 ^ 1074

theorem Magnitude.toRat_eq (m : Magnitude) : m.toRat = m.units / unitsPerOne := by
  have hpower : ∀ k : ℕ, ((1 <<< k : ℕ) : ℚ) = 2 ^ k := fun k => by rw [Nat.one_shiftLeft]; push_cast; rfl
  have hunit : (unitsPerOne : ℚ) = 2 ^ 1074 := hpower 1074
  rw [toRat, units, hunit, Nat.shiftLeft_eq]
  push_cast
  rfl

/-- The count of places of a number is the nearest to its exact value, of two the even one. -/
theorem Magnitude.isNearest_inPlaces (m : Magnitude) (places : ℕ) :
    IsNearest (m.inPlaces places) (m.toRat * 10 ^ places) := by
  have hscaled : m.toRat * 10 ^ places = ((m.units * tenTo places : ℕ) : ℚ) / unitsPerOne := by
    rw [m.toRat_eq, tenTo_eq]
    push_cast
    ring
  rw [hscaled]
  exact isNearest_roundQuotient _ unitsPerOne_pos

end Number

/-! ## A rendering that rounds -/

/-- A placeholder that rounds its key to so many places. -/
def roundPattern (key : Text) (places : ℕ) : Text := enclose (key ++ (" | round ".toList ++ Text.ofNat places))

theorem roundPattern_eq (key : Text) {places : ℕ} (fits : places < 2 ^ 63) :
    roundPattern key places = enclose (oneCall key "round".toList [.number places fits]) := by
  simp [roundPattern, oneCall, callText, Literal.token, List.intercalate_cons_cons]

theorem isName_round : IsName "round".toList := by
  have hall : "round".toList.all (fun c => !Text.isBlank c && !Pattern.isQuote c) = true := by cbv
  exact ⟨by decide, fun c hc => by simpa using List.all_eq_true.mp hall c hc, by decide⟩

theorem Builtin.round_of_read {value : Text} {x : Binary64} {places : ℕ} (hplaces : places ≤ placesLimit)
    (hread : Number.readBinary64? value.trim = some x) :
    round value [.integer places] = .ok (x.toPlaces places) :=
  round_eq_ok.mpr ⟨places, x, rfl, hplaces, hread, rfl⟩

namespace Engine
variable {params : Params} {key : Text} {places : ℕ}

/-- A value whose text is a number is rendered as that number with so many places, in either mode. -/
theorem render_round (mode : Mode) {value : ParamValue} {x : Binary64} (hkey : IsKey key)
    (hget : params.get? key = some value) (hplaces : places ≤ Builtin.placesLimit)
    (hread : Number.readBinary64? value.toText.trim = some x) :
    render ⟨standard.toProvider, mode⟩ params (roundPattern key places) = .ok ⟨x.toPlaces places, []⟩ := by
  have fits : places < 2 ^ 63 := by
    unfold Builtin.placesLimit at hplaces
    omega
  have hresolve : standard.toProvider.resolve ⟨"round".toList, [Literal.number places fits].map Literal.type⟩ =
      some Builtin.round := by cbv
  have hscan : scan (roundPattern key places) =
      [.placeholder (oneCall key "round".toList [.number places fits])] := by
    have hcut := scan_enclose (isBody_oneCall hkey isName_round [.number places fits]) []
    rwa [List.append_nil, scan_nil, ← roundPattern_eq] at hcut
  have hround : Builtin.round value.toText ([Literal.number places fits].map Literal.argument) =
      .ok (x.toPlaces places) := Builtin.round_of_read hplaces hread
  rw [render, hscan, renderSegments_singleton, renderSegment_placeholder,
    evaluate_oneCall hget hkey isName_round hresolve, hround]
  rfl

/-- **A float is rounded once, from its exact value.** The text that it goes through has the
digits that read back as it, so none of the value is lost: the digits that come out are the
multiple of the last place that is nearest to the value, a half to the even one. There are
so many digits behind the point and no point before none of them; a minus sign stands before
a number whose sign is set, a zero too; and there is no exponent. -/
theorem render_round_float (mode : Mode) {negative : Bool} {m : Magnitude} (hkey : IsKey key)
    (hget : params.get? key = some (.float (.finite negative m))) (hplaces : places ≤ 65535) :
    ∃ (count : ℕ) (fraction : Text), IsNearest count (m.toRat * 10 ^ places) ∧
      fraction.length = places ∧ (∀ c ∈ fraction, c.isDigit = true) ∧
      Text.placeValue (Text.ofNat (count / 10 ^ places) ++ fraction) = count ∧
      render ⟨standard.toProvider, mode⟩ params (roundPattern key places) =
        .ok ⟨signText negative ++ pointed (Text.ofNat (count / 10 ^ places)) fraction, []⟩ := by
  refine ⟨m.inPlaces places, Number.lastDigits places (m.inPlaces places), m.isNearest_inPlaces places,
    Number.length_lastDigits _ _, fun c => Number.isDigit_of_mem_lastDigits, ?_, ?_⟩
  · rw [← Text.digitsValue_eq_placeValue, Number.digitsValue_quotient_append]
  · rw [render_round mode hkey hget hplaces (Number.readBinary64?_toText negative m), Binary64.toPlaces,
      Number.fixedPoint_eq]

/-- Two and a half. -/
def twoAndAHalf : Magnitude := ⟨5629499534213120, 1023, by decide, by decide, .inr (by decide)⟩

/-- A key for two and a half under a minus sign. -/
def onlyHalf : Params := Params.ofList [(['k'], .float (.finite true twoAndAHalf))]

theorem isKey_k : IsKey ['k'] := ⟨by decide, by decide⟩

theorem render_round_float_half :
    IsKey ['k'] ∧ onlyHalf.get? ['k'] = some (.float (.finite true twoAndAHalf)) ∧
      render ⟨standard.toProvider, .strict⟩ onlyHalf "${k | round 0}".toList = .ok ⟨"-2".toList, []⟩ := by
  have hget : onlyHalf.get? ['k'] = some (.float (.finite true twoAndAHalf)) := by cbv
  have hplaces : 0 ≤ 65535 := by decide
  obtain ⟨count, fraction, hnear, hlength, -, -, hrender⟩ := render_round_float .strict isKey_k hget hplaces
  have hcount : count = 2 := by
    have heven : twoAndAHalf.inPlaces 0 = 2 := by decide +kernel
    exact (hnear.unique (twoAndAHalf.isNearest_inPlaces 0)).trans heven
  have hfraction : fraction = [] := List.length_eq_zero_iff.mp hlength
  have hpattern : roundPattern ['k'] 0 = "${k | round 0}".toList := by cbv
  have htext : signText true ++ pointed (Text.ofNat (2 / 10 ^ 0)) [] = "-2".toList := by cbv
  rw [hpattern, hcount, hfraction, htext] at hrender
  exact ⟨isKey_k, hget, hrender⟩

/-- **An integer is rounded to a float, and no further.** It comes out as the nearest one of
those that have no more than 53 binary digits before their last zeros, so as itself just when
it is one of them, with a point and so many zeros behind it. -/
theorem render_round_integer (mode : Mode) {i : ℤ} (hkey : IsKey key) (hget : params.get? key = some (.integer i))
    (hfits : Number.minInt64 ≤ i ∧ i ≤ Number.maxInt64) (hplaces : places ≤ 65535) :
    ∃ j : ℤ, Number.IsNearestBinary j i ∧ (j = i ↔ Number.IsBinary i) ∧
      render ⟨standard.toProvider, mode⟩ params (roundPattern key places) =
        .ok ⟨pointed (Text.ofInt j) (List.replicate places '0'), []⟩ := by
  have hsize : i.natAbs < 2 ^ 64 := by
    unfold Number.minInt64 Number.maxInt64 at hfits
    omega
  obtain ⟨m, hread, hunits⟩ := Number.readBinary64?_ofInt hsize
  obtain ⟨habs, hsign⟩ := Number.sign_mul_toBinary i
  have hnearest := Number.isNearestBinary_toBinary i
  refine ⟨i.sign * Number.toBinary i.natAbs, hnearest, hnearest.eq_iff, ?_⟩
  rw [render_round mode hkey hget hplaces hread, Number.toPlaces_of_whole _ hunits, Number.ofInt_eq,
    Number.pointed_append, habs]
  simp only [hsign]

/-- A key for an integer of 54 binary digits, half way between two of 53. -/
def onlyWide : Params := Params.ofList [(['k'], .integer (-9007199254740995))]

theorem render_round_integer_wide :
    IsKey ['k'] ∧ onlyWide.get? ['k'] = some (.integer (-9007199254740995)) ∧
      render ⟨standard.toProvider, .lenient⟩ onlyWide "${k | round 2}".toList =
        .ok ⟨"-9007199254740996.00".toList, []⟩ := by
  have hget : onlyWide.get? ['k'] = some (.integer (-9007199254740995)) := by cbv
  have hplaces : 2 ≤ 65535 := by decide
  obtain ⟨j, ⟨-, -, k, hk, rfl⟩, -, hrender⟩ := render_round_integer .lenient isKey_k hget (by decide) hplaces
  have hlog : (-9007199254740995 : ℤ).natAbs.log2 - 52 = 1 := by decide +kernel
  rw [hlog] at hk hrender
  have hstep : 0 < 2 ^ 1 := by decide
  have heven : k = 4503599627370498 := by
    have hround : Number.roundQuotient 9007199254740995 (2 ^ 1) = 4503599627370498 := by decide +kernel
    rw [← hround]
    refine hk.unique ?_
    have hnear := Number.isNearest_roundQuotient 9007199254740995 hstep
    exact_mod_cast hnear
  have hpattern : roundPattern ['k'] 2 = "${k | round 2}".toList := by cbv
  have htext : pointed (Text.ofInt ((-9007199254740995 : ℤ).sign * ((4503599627370498 : ℕ) * 2 ^ 1)))
      (List.replicate 2 '0') = "-9007199254740996.00".toList := by decide +kernel
  rw [hpattern, heven, htext] at hrender
  exact ⟨isKey_k, hget, hrender⟩

/-- The least integer that a float cannot hold. -/
def leastLost : ℤ := 9007199254740993

/-- A key for it. -/
def onlyLost : Params := Params.ofList [(['k'], .integer leastLost)]

theorem render_round_leastLost :
    render ⟨standard.toProvider, .strict⟩ onlyLost (roundPattern ['k'] 0) = .ok ⟨"9007199254740992".toList, []⟩ := by
  have hget : onlyLost.get? ['k'] = some (.integer leastLost) := by cbv
  have hplaces : 0 ≤ Builtin.placesLimit := by decide
  have hread : Number.readBinary64? (ParamValue.integer leastLost).toText.trim =
      some (.finite false ⟨4503599627370496, 1075, by decide, by decide, .inr (by decide)⟩) := by decide +kernel
  rw [render_round .strict isKey_k hget hplaces hread]
  have htext : (Binary64.finite false ⟨4503599627370496, 1075, by decide, by decide, .inr (by decide)⟩).toPlaces 0 =
      "9007199254740992".toList := by decide +kernel
  rw [htext]

/-- So not every integer that fits 64 bits comes out as it went in. -/
theorem render_round_changes :
    ¬ ∀ (mode : Mode) (params : Params) (key : Text) (i : ℤ) (places : ℕ), IsKey key →
        params.get? key = some (.integer i) → Number.minInt64 ≤ i ∧ i ≤ Number.maxInt64 → places ≤ 65535 →
        render ⟨standard.toProvider, mode⟩ params (roundPattern key places) =
          .ok ⟨pointed (Text.ofInt i) (List.replicate places '0'), []⟩ := by
  intro h
  have hget : onlyLost.get? ['k'] = some (.integer leastLost) := by cbv
  have hkept := h .strict onlyLost ['k'] leastLost 0 isKey_k hget (by decide) (by decide)
  rw [render_round_leastLost] at hkept
  have htext : pointed (Text.ofInt leastLost) (List.replicate 0 '0') = "9007199254740993".toList := by decide +kernel
  rw [htext] at hkept
  exact absurd (congrArg Rendered.text (Except.ok.inj hkept)) (by decide)

end Engine
end Placeholders

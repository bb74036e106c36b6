/-
How large a result can get when an argument asks for a size
(`byteLength_le_outputLimit`). Repetition counts bytes, and rounding writes few
digits beside its places, so both stay below the output limit. Padding checks a
width in characters against the limit in bytes: what it writes has no more
characters than the limit, but as many bytes as its characters take, so with a
wide fill or a wide value it overshoots (`padLeft_overshoots`).
-/
import Placeholders.Proofs.Builtins

namespace Placeholders

/-! ## Sizes of texts -/

namespace Text

theorem byteLength_cons (c : Char) (t : Text) : byteLength (c :: t) = c.utf8Size + t.byteLength := rfl

theorem byteLength_append (s t : Text) : byteLength (s ++ t) = s.byteLength + t.byteLength := by
  induction s with
  | nil => exact (Nat.zero_add _).symm
  | cons c s ih => rw [List.cons_append, byteLength_cons, byteLength_cons, ih, Nat.add_assoc]

theorem byteLength_flatten_replicate (n : Nat) (t : Text) :
    byteLength (List.replicate n t).flatten = t.byteLength * n := by
  induction n with
  | zero => rfl
  | succ n ih => rw [List.replicate_succ, List.flatten_cons, byteLength_append, ih, Nat.mul_succ, Nat.add_comm]

theorem byteLength_replicate (n : Nat) (c : Char) : byteLength (List.replicate n c) = c.utf8Size * n := by
  induction n with
  | zero => rfl
  | succ n ih => rw [List.replicate_succ, byteLength_cons, ih, Nat.mul_succ, Nat.add_comm]

theorem length_le_byteLength (t : Text) : t.length ≤ t.byteLength := by
  induction t with
  | nil => exact Nat.le_refl 0
  | cons c t ih =>
    have hc : 0 < c.utf8Size := c.utf8Size_pos
    rw [List.length_cons, byteLength_cons]
    omega

/-- No character takes more than so many bytes. -/
def Within (k : Nat) (t : Text) : Prop := ∀ c ∈ t, c.utf8Size ≤ k

theorem Within.byteLength_le {k : Nat} {t : Text} (h : Within k t) : byteLength t ≤ k * t.length := by
  induction t with
  | nil => exact Nat.le_refl 0
  | cons c t ih =>
    have hc : c.utf8Size ≤ k := h c List.mem_cons_self
    have ht : byteLength t ≤ k * t.length := ih fun d hd => h d (List.mem_cons_of_mem c hd)
    rw [byteLength_cons, List.length_cons, Nat.mul_succ]
    omega

theorem Within.append {k : Nat} {s t : Text} (hs : Within k s) (ht : Within k t) : Within k (s ++ t) := by
  intro c hc
  rcases List.mem_append.mp hc with hc | hc
  · exact hs c hc
  · exact ht c hc

theorem Within.mono {k : Nat} {s t : Text} (ht : Within k t) (h : s ⊆ t) : Within k s := fun c hc => ht c (h hc)

theorem utf8Size_of_isDigit {c : Char} (h : c.isDigit = true) : c.utf8Size = 1 := by
  have hle : c.val ≤ 57 := by
    simp only [Char.isDigit, Bool.and_eq_true, decide_eq_true_eq] at h
    exact h.2
  have hsmall : c.val ≤ 127 := UInt32.le_trans hle (by decide)
  simp only [Char.utf8Size]
  exact if_pos hsmall

theorem within_ofNat (n : Nat) : Within 1 (ofNat n) := fun c hc =>
  (utf8Size_of_isDigit (Nat.isDigit_of_mem_toDigits (by decide) (by decide) hc)).le

end Text

/-! ## Numbers with decimal places -/

namespace Number
open Text (Within within_ofNat)

theorem within_fixedPoint (count places : Nat) : Within 1 (fixedPoint count places) := by
  have hpadded : Within 1 (List.replicate (places + 1 - (Text.ofNat count).length) '0' ++ Text.ofNat count) := by
    refine Within.append ?_ (within_ofNat count)
    intro c hc
    cases List.eq_of_mem_replicate hc
    decide
  unfold fixedPoint
  dsimp only
  split
  · exact hpadded
  · refine (hpadded.mono (List.take_subset _ _)).append ?_
    intro c hc
    rcases List.mem_cons.mp hc with rfl | hc
    · decide
    · exact hpadded.mono (List.drop_subset _ _) c hc

theorem length_fixedPoint_le (count places : Nat) :
    (fixedPoint count places).length ≤ places + (Text.ofNat count).length + 2 := by
  unfold fixedPoint
  dsimp only
  split
  · simp only [List.length_append, List.length_replicate]
    omega
  · simp only [List.length_append, List.length_cons, List.length_take, List.length_drop, List.length_replicate]
    omega

theorem roundQuotient_le (num den : Nat) : roundQuotient num den ≤ num / den + 1 := by
  unfold roundQuotient
  dsimp only
  split
  · omega
  · split
    · omega
    · split <;> omega

theorem shiftLeft_lt {n b k j : Nat} (hn : n < 2 ^ b) (hk : k ≤ j) : n <<< k < 2 ^ (b + j) := by
  rw [Nat.shiftLeft_eq, Nat.pow_add]
  calc n * 2 ^ k < 2 ^ b * 2 ^ k := Nat.mul_lt_mul_of_pos_right hn (Nat.two_pow_pos k)
    _ ≤ 2 ^ b * 2 ^ j := Nat.mul_le_mul_left _ (Nat.pow_le_pow_right (by decide) hk)

theorem unitsPerOne_pos : 0 < unitsPerOne := by
  rw [unitsPerOne, Nat.one_shiftLeft]
  exact Nat.two_pow_pos 1074

/-- The greatest number is below two to the power 1024. -/
theorem Magnitude.units_lt (m : Magnitude) {e : Nat} (he : 1024 ≤ e) : m.units < 2 ^ e * unitsPerOne := by
  have hscale : m.scale ≤ e + 1021 := Nat.le_trans m.scale_le (Nat.add_le_add_right he 1021)
  have hunits : m.units < 2 ^ (53 + (e + 1021)) := shiftLeft_lt (b := 53) m.significand_lt hscale
  rwa [unitsPerOne, Nat.one_shiftLeft, ← Nat.pow_add 2 e 1074, show e + 1074 = 53 + (e + 1021) by omega]

theorem Magnitude.inPlaces_le (m : Magnitude) {e : Nat} (he : 1024 ≤ e) (places : Nat) :
    m.inPlaces places ≤ 10 ^ (e + places) := by
  have hlt : m.units * 10 ^ places / unitsPerOne < 2 ^ e * 10 ^ places := by
    rw [Nat.div_lt_iff_lt_mul unitsPerOne_pos]
    calc m.units * 10 ^ places < 2 ^ e * unitsPerOne * 10 ^ places :=
          Nat.mul_lt_mul_of_pos_right (m.units_lt he) (Nat.pow_pos (by decide))
      _ = 2 ^ e * 10 ^ places * unitsPerOne := Nat.mul_right_comm _ _ _
  calc m.inPlaces places ≤ m.units * 10 ^ places / unitsPerOne + 1 := roundQuotient_le _ _
    _ ≤ 2 ^ e * 10 ^ places := hlt
    _ ≤ 10 ^ e * 10 ^ places := Nat.mul_le_mul_right _ (Nat.pow_le_pow_left (by decide) e)
    _ = 10 ^ (e + places) := (Nat.pow_add 10 e places).symm

theorem length_ofNat_inPlaces_le (m : Magnitude) (places : Nat) :
    (Text.ofNat (m.inPlaces places)).length ≤ places + 1025 := by
  refine (Nat.length_toDigits_le_iff (by decide) (Nat.succ_pos _)).mpr ?_
  calc m.inPlaces places ≤ 10 ^ (1024 + places) := m.inPlaces_le (Nat.le_refl 1024) places
    _ < 10 ^ (places + 1025) := Nat.pow_lt_pow_right (by decide) (by omega)

/-- Beside twice its places a number has few digits. -/
theorem Binary64.byteLength_toPlaces_le (x : Binary64) (places : Nat) :
    (x.toPlaces places).byteLength ≤ 2 * places + 1028 := by
  cases x with
  | nan =>
    have hnan : nanText.byteLength = 3 := by decide
    show nanText.byteLength ≤ _
    omega
  | infinite negative =>
    have hinf : (infiniteText negative).byteLength ≤ 4 := by cases negative <;> decide
    show (infiniteText negative).byteLength ≤ _
    omega
  | finite negative m =>
    have hsign : (signText negative).byteLength ≤ 1 := by cases negative <;> decide
    have hbytes := (within_fixedPoint (m.inPlaces places) places).byteLength_le
    have hlength := length_fixedPoint_le (m.inPlaces places) places
    have hdigits := length_ofNat_inPlaces_le m places
    show (signText negative ++ fixedPoint (m.inPlaces places) places).byteLength ≤ _
    rw [Text.byteLength_append]
    omega

end Number

/-! ## Sizes of results -/

namespace Builtin
open Text (Within)

theorem byteLength_replicate_le {value t : Text} {args : List Argument} (h : replicate value args = .ok t) :
    t.byteLength ≤ outputLimit := by
  obtain ⟨count, hcount, -⟩ := Outcome.bind_eq_ok.mp h
  rw [replicate_eq hcount] at h
  split at h
  · cases h
  · next hle =>
    cases h
    split
    · exact Nat.zero_le _
    · rw [Text.byteLength_flatten_replicate]
      exact Nat.not_lt.mp hle

theorem byteLength_round_le {value t : Text} {args : List Argument} (h : round value args = .ok t) :
    t.byteLength ≤ outputLimit := by
  obtain ⟨n, x, -, hle, -, rfl⟩ := round_eq_ok.mp h
  calc (x.toPlaces n).byteLength ≤ 2 * n + 1028 := x.byteLength_toPlaces_le n
    _ ≤ 2 * placesLimit + 1028 := by omega
    _ ≤ outputLimit := by decide

theorem length_padding {fill : Text} (h : fill ≠ []) (count : Nat) : (padding fill count).length = count := by
  have hpos : 0 < fill.length := List.length_pos_iff.mpr h
  have hlong : count < fill.length * (count / fill.length + 1) := Nat.lt_mul_div_succ count hpos
  unfold padding
  rw [List.length_take, List.length_flatten, List.map_replicate, List.sum_replicate_nat, Nat.mul_comm]
  exact Nat.min_eq_left hlong.le

theorem padding_subset (fill : Text) (count : Nat) : padding fill count ⊆ fill := by
  intro c hc
  obtain ⟨s, hs, hc⟩ := List.mem_flatten.mp (List.take_subset _ _ hc)
  cases List.eq_of_mem_replicate hs
  exact hc

theorem padding_singleton (c : Char) (count : Nat) : padding [c] count = List.replicate count c := by
  refine List.eq_replicate_iff.mpr ⟨length_padding (List.cons_ne_nil c []) count, fun d hd => ?_⟩
  exact List.mem_singleton.mp (padding_subset [c] count hd)

theorem missingTo_eq_ok {width : Nat} {fill value t : Text} :
    missingTo width fill value = .ok t ↔
      width ≤ outputLimit ∧ fill ≠ [] ∧ t = padding fill (width - value.length) := by
  unfold missingTo
  by_cases hwidth : outputLimit < width
  · rw [if_pos hwidth]
    exact ⟨fun h => (nomatch h), fun h => absurd hwidth (Nat.not_lt.mpr h.1)⟩
  · rw [if_neg hwidth]
    cases fill with
    | nil => exact ⟨fun h => (nomatch h), fun h => absurd rfl h.2.1⟩
    | cons c r =>
      constructor
      · intro h
        cases h
        exact ⟨Nat.not_lt.mp hwidth, List.cons_ne_nil c r, rfl⟩
      · rintro ⟨-, -, rfl⟩
        rfl

/-- The text is the value, filled up on a side to a width within the output limit. -/
def FillsUp (side : Side) (fill value t : Text) : Prop :=
  ∃ width ≤ outputLimit, fill ≠ [] ∧ t = side.join (padding fill (width - value.length)) value

theorem fillsUp_of_pad {side : Side} {fillOf : List Argument → Outcome FunctionError Text} {args : List Argument}
    {fill value t : Text} (hfill : fillOf args = .ok fill) (h : side.pad fillOf value args = .ok t) :
    FillsUp side fill value t := by
  cases hwidth : fetchCount args 0 with
  | error e => cases side <;> simp [Side.pad, padLeft, padRight, hfill, hwidth, bind, Except.bind] at h
  | ok width =>
    rw [side.pad_eq hfill hwidth] at h
    obtain ⟨added, hadded, rfl⟩ := Outcome.map_eq_ok.mp h
    obtain ⟨hle, hne, rfl⟩ := missingTo_eq_ok.mp hadded
    exact ⟨width, hle, hne, rfl⟩

theorem length_join (side : Side) (added value : Text) :
    (side.join added value).length = added.length + value.length := by
  cases side
  · exact List.length_append
  · rw [Side.join, List.length_append, Nat.add_comm]

theorem mem_join {side : Side} {added value : Text} {c : Char} :
    c ∈ side.join added value ↔ c ∈ added ∨ c ∈ value := by
  cases side
  · exact List.mem_append
  · rw [Side.join, List.mem_append, or_comm]

/-- A value within the output limit is filled up to no more characters than the
limit, and to the bytes that so many characters take. -/
theorem FillsUp.bounds {side : Side} {fill value t : Text} (h : FillsUp side fill value t)
    (hvalue : value.byteLength ≤ outputLimit) :
    t.length ≤ outputLimit ∧ ∀ k, Within k (value ++ fill) → t.byteLength ≤ k * outputLimit := by
  obtain ⟨width, hwidth, hfill, rfl⟩ := h
  have hchars : value.length ≤ outputLimit := Nat.le_trans (Text.length_le_byteLength value) hvalue
  have hshort : (side.join (padding fill (width - value.length)) value).length ≤ outputLimit := by
    rw [length_join, length_padding hfill]
    omega
  have hsubset : side.join (padding fill (width - value.length)) value ⊆ value ++ fill := by
    intro c hc
    rcases mem_join.mp hc with hc | hc
    · exact List.mem_append_right value (padding_subset fill _ hc)
    · exact List.mem_append_left fill hc
  exact ⟨hshort, fun k hk => Nat.le_trans (hk.mono hsubset).byteLength_le (Nat.mul_le_mul_left k hshort)⟩

/-- **How large a result can get.** From a value within the output limit, and with
any arguments, repetition and rounding come to no more bytes than the limit.
Padding comes to no more characters than the limit; so the bytes are within it if
those of the value and of the fill take one byte each, and in general as many
times over it as they take bytes. -/
theorem byteLength_le_outputLimit {value : Text} (hvalue : value.byteLength ≤ outputLimit) (args : List Argument)
    (t : Text) :
    (replicate value args = .ok t → t.byteLength ≤ outputLimit) ∧
      (round value args = .ok t → t.byteLength ≤ outputLimit) ∧
      ∀ fillOf fill, fillOf args = .ok fill →
        padLeft fillOf value args = .ok t ∨ padRight fillOf value args = .ok t →
        t.length ≤ outputLimit ∧ ∀ k, Within k (value ++ fill) → t.byteLength ≤ k * outputLimit := by
  refine ⟨byteLength_replicate_le, byteLength_round_le, fun fillOf fill hfill h => ?_⟩
  rcases h with h | h
  · have hleft : FillsUp .left fill value t := fillsUp_of_pad hfill h
    exact hleft.bounds hvalue
  · have hright : FillsUp .right fill value t := fillsUp_of_pad hfill h
    exact hright.bounds hvalue

/-- A width, and a fill of two bytes. -/
def widthAndFill : List Argument := [.integer (3 : Nat), .string ['é']]

theorem byteLength_le_outputLimit_twoBytes :
    Text.byteLength ['a'] ≤ outputLimit ∧ padLeft givenFill ['a'] widthAndFill = .ok "ééa".toList ∧
      Within 2 ['a', 'é'] ∧ Text.byteLength "ééa".toList ≤ 2 * outputLimit := by
  have hvalue : Text.byteLength ['a'] ≤ outputLimit := by decide
  have hpad : padLeft givenFill ['a'] widthAndFill = .ok "ééa".toList := by cbv
  have hwithin : Within 2 ['a', 'é'] := by
    intro c hc
    simp only [List.mem_cons, List.not_mem_nil, or_false] at hc
    rcases hc with rfl | rfl <;> decide
  have hbounds := byteLength_le_outputLimit hvalue widthAndFill "ééa".toList
  exact ⟨hvalue, hpad, hwithin, (hbounds.2.2 givenFill ['é'] (by cbv) (.inl hpad)).2 2 hwithin⟩

/-- An empty value is filled up with one character, whatever bytes that takes. -/
theorem padLeft_nil_singleton {width : Nat} (h : width ≤ outputLimit) (c : Char) :
    padLeft givenFill [] [.integer width, .string [c]] = .ok (List.replicate width c) := by
  have hfill : givenFill [.integer width, .string [c]] = .ok [c] := rfl
  have hwidth : fetchCount [.integer width, .string [c]] 0 = .ok width := rfl
  have hmissing : missingTo width [c] [] = .ok (List.replicate width c) :=
    missingTo_eq_ok.mpr ⟨h, List.cons_ne_nil c [], (padding_singleton c width).symm⟩
  calc padLeft givenFill [] [.integer width, .string [c]]
      = (missingTo width [c] []).map (Side.left.join · []) := Side.left.pad_eq hfill hwidth []
    _ = .ok (List.replicate width c ++ []) := by rw [hmissing]; rfl
    _ = .ok (List.replicate width c) := by rw [List.append_nil]

/-- Four bytes for each of a quarter of the output limit and one more. -/
theorem padLeft_overshoots :
    Text.byteLength [] ≤ outputLimit ∧
      ∃ t, padLeft givenFill [] [.integer (262145 : Nat), .string ['😀']] = .ok t ∧ outputLimit < t.byteLength := by
  refine ⟨Nat.zero_le _, List.replicate 262145 '😀', padLeft_nil_singleton (by decide) '😀', ?_⟩
  rw [Text.byteLength_replicate]
  decide

end Builtin
end Placeholders

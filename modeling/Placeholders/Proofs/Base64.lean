/-
Base64 both ways. Bytes and their written form are related group by group (`IsBase64`): the
bytes of a group and the six bits of its symbols give one number, the bits beyond the bytes
are zero, and the padding fills the group. The written form of bytes is the only text that
stands for them (`isBase64_iff`), and what is read is what stands for some bytes
(`ofBase64_eq_ok_iff`). So the functions on texts are inverse to each other
(`decodeBase64_inverse_encodeBase64`).
-/
import Placeholders.Proofs.Builtins
import Placeholders.Proofs.Utf8

namespace Placeholders
namespace Text

/-- The symbols for six bits, in order. -/
def base64Alphabet : Text := "ABCDEFGHIJKLMNOPQRSTUVWXYZabcdefghijklmnopqrstuvwxyz0123456789+/".toList

/-- The text is the padded written form of the bytes. -/
inductive IsBase64 : List UInt8 → Text → Prop
  | nil : IsBase64 [] []
  | one {x : UInt8} {i j : Nat} {s t : Char} (hs : base64Alphabet[i]? = some s) (ht : base64Alphabet[j]? = some t)
    (hbits : i * 64 + j = x.toNat * 16) : IsBase64 [x] [s, t, '=', '=']
  | two {x y : UInt8} {i j k : Nat} {s t u : Char} (hs : base64Alphabet[i]? = some s)
    (ht : base64Alphabet[j]? = some t) (hu : base64Alphabet[k]? = some u)
    (hbits : (i * 64 + j) * 64 + k = (x.toNat * 256 + y.toNat) * 4) : IsBase64 [x, y] [s, t, u, '=']
  | three {x y z : UInt8} {i j k l : Nat} {s t u v : Char} {bytes : List UInt8} {written : Text}
    (hs : base64Alphabet[i]? = some s) (ht : base64Alphabet[j]? = some t) (hu : base64Alphabet[k]? = some u)
    (hv : base64Alphabet[l]? = some v)
    (hbits : ((i * 64 + j) * 64 + k) * 64 + l = (x.toNat * 256 + y.toNat) * 256 + z.toNat)
    (hrest : IsBase64 bytes written) : IsBase64 (x :: y :: z :: bytes) (s :: t :: u :: v :: written)

/-! ## Symbols -/

theorem getElem?_base64Alphabet : ∀ n < 64, base64Alphabet[n]? = some (base64Symbol n) := by decide

theorem getElem?_base64Alphabet_iff {n : Nat} {c : Char} :
    base64Alphabet[n]? = some c ↔ n < 64 ∧ base64Symbol n = c := by
  have hlength : base64Alphabet.length = 64 := by decide
  constructor
  · intro h
    have hn : n < 64 := hlength ▸ (List.getElem?_eq_some_iff.mp h).1
    rw [getElem?_base64Alphabet n hn] at h
    exact ⟨hn, Option.some.inj h⟩
  · rintro ⟨hn, rfl⟩
    exact getElem?_base64Alphabet n hn

/-- The byte of the symbol for six bits. -/
def symbolByte (n : Nat) : UInt8 := UInt8.ofNat (base64Symbol n).toNat

theorem utf8EncodeChar_base64Symbol : ∀ n < 64, String.utf8EncodeChar (base64Symbol n) = [symbolByte n] := by decide

theorem base64Value?_symbolByte : ∀ n < 64, base64Value? (symbolByte n) = some n := by decide

theorem symbolByte_ne_pad : ∀ n < 64, symbolByte n ≠ base64Pad := by decide

set_option maxRecDepth 2000 in
theorem symbolByte_of_mem_base64Value? :
    ∀ m < 256, ∀ n ∈ base64Value? (UInt8.ofNat m), n < 64 ∧ symbolByte n = UInt8.ofNat m := by decide

theorem base64Value?_eq_some_iff {b : UInt8} {n : Nat} : base64Value? b = some n ↔ n < 64 ∧ symbolByte n = b := by
  constructor
  · intro h
    have hb := symbolByte_of_mem_base64Value? b.toNat b.toNat_lt n
    rw [UInt8.ofNat_toNat] at hb
    exact hb h
  · rintro ⟨hn, rfl⟩
    exact base64Value?_symbolByte n hn

/-! ## Writing -/

theorem exists_toBase64From (written : Text) (bytes : List UInt8) :
    ∃ t, toBase64From written bytes = written.reverse ++ t ∧ IsBase64 bytes t := by
  fun_induction toBase64From written bytes with
  | case1 written => exact ⟨[], by simp, .nil⟩
  | case2 written x n =>
    have hx := x.toNat_lt
    exact ⟨_, rfl, .one (getElem?_base64Alphabet (n / 64) (by omega)) (getElem?_base64Alphabet (n % 64) (by omega))
      (by omega)⟩
  | case3 written x y n =>
    have hx := x.toNat_lt
    have hy := y.toNat_lt
    exact ⟨_, rfl, .two (getElem?_base64Alphabet (n / 4096) (by omega))
      (getElem?_base64Alphabet (n / 64 % 64) (by omega)) (getElem?_base64Alphabet (n % 64) (by omega)) (by omega)⟩
  | case4 written x y z r n ih =>
    have hx := x.toNat_lt
    have hy := y.toNat_lt
    have hz := z.toNat_lt
    obtain ⟨t, heq, ht⟩ := ih
    refine ⟨_, ?_, .three (getElem?_base64Alphabet (n / 262144) (by omega))
      (getElem?_base64Alphabet (n / 4096 % 64) (by omega)) (getElem?_base64Alphabet (n / 64 % 64) (by omega))
      (getElem?_base64Alphabet (n % 64) (by omega)) (by omega) ht⟩
    simpa using heq

theorem isBase64_toBase64 (bytes : List UInt8) : IsBase64 bytes (toBase64 bytes) := by
  obtain ⟨t, heq, ht⟩ := exists_toBase64From [] bytes
  rwa [toBase64, heq]

/-- Bytes have one written form. -/
theorem IsBase64.eq {bytes : List UInt8} {t t' : Text} (h : IsBase64 bytes t) (h' : IsBase64 bytes t') : t = t' := by
  induction h generalizing t' with
  | nil =>
    cases h'
    rfl
  -- the number of a group has one way to be cut into six bits each
  | one hs ht hbits =>
    cases h' with | one hs' ht' hbits' =>
    simp only [getElem?_base64Alphabet_iff] at hs ht hs' ht'
    rw [← hs.2, ← ht.2, ← hs'.2, ← ht'.2]
    congr 3 <;> omega
  | two hs ht hu hbits =>
    cases h' with | two hs' ht' hu' hbits' =>
    simp only [getElem?_base64Alphabet_iff] at hs ht hu hs' ht' hu'
    rw [← hs.2, ← ht.2, ← hu.2, ← hs'.2, ← ht'.2, ← hu'.2]
    congr 4 <;> omega
  | three hs ht hu hv hbits hrest ih =>
    cases h' with | three hs' ht' hu' hv' hbits' hrest' =>
    simp only [getElem?_base64Alphabet_iff] at hs ht hu hv hs' ht' hu' hv'
    rw [← hs.2, ← ht.2, ← hu.2, ← hv.2, ← hs'.2, ← ht'.2, ← hu'.2, ← hv'.2, ih hrest']
    congr 5 <;> omega

theorem isBase64_iff {bytes : List UInt8} {t : Text} : IsBase64 bytes t ↔ toBase64 bytes = t :=
  ⟨fun h => (isBase64_toBase64 bytes).eq h, fun h => h ▸ isBase64_toBase64 bytes⟩

/-! ## Reading -/

theorem utf8_map_base64Symbol {values : List Nat} (h : ∀ n ∈ values, n < 64) :
    utf8 (values.map base64Symbol) = values.map symbolByte := by
  induction values with
  | nil => rfl
  | cons n values ih =>
    obtain ⟨hn, hvalues⟩ := List.forall_mem_cons.mp h
    rw [List.map_cons, utf8_cons, utf8EncodeChar_base64Symbol n hn, ih hvalues]
    rfl

theorem base64Values_eq_ok {offset : Nat} {before values : List Nat} {bytes : List UInt8} :
    base64Values offset before bytes = .ok values ↔
      ∃ read, (∀ n ∈ read, n < 64) ∧ read.map symbolByte = bytes ∧ values = before.reverse ++ read := by
  induction bytes generalizing offset before with
  | nil => simp [base64Values, eq_comm]
  | cons b r ih =>
    rw [base64Values]
    constructor
    · intro h
      split at h
      · next n hn =>
        obtain ⟨hlt, rfl⟩ := base64Value?_eq_some_iff.mp hn
        obtain ⟨read, hread, rfl, rfl⟩ := ih.mp h
        exact ⟨n :: read, List.forall_mem_cons.mpr ⟨hlt, hread⟩, rfl, by simp⟩
      · cases h
    · rintro ⟨read, hread, hbytes, rfl⟩
      obtain ⟨n, read, rfl, rfl, rfl⟩ := List.map_eq_cons_iff.mp hbytes
      obtain ⟨hn, hread⟩ := List.forall_mem_cons.mp hread
      rw [base64Value?_symbolByte n hn]
      exact ih.mpr ⟨read, hread, rfl, by simp⟩

theorem base64Bytes_eq : ∀ (before : List UInt8) (values : List Nat),
    base64Bytes before values = before.reverse ++ base64Bytes [] values
  | before, i :: j :: k :: l :: r => by
    rw [base64Bytes, base64Bytes, base64Bytes_eq (_ :: _ :: _ :: before) r, base64Bytes_eq [_, _, _] r]
    simp
  | _, [] | _, [_] | _, [_, _] | _, [_, _, _] => by simp [base64Bytes]

theorem base64Bytes_group (i j k l : Nat) (r : List Nat) :
    base64Bytes [] (i :: j :: k :: l :: r) =
      UInt8.ofNat ((((i * 64 + j) * 64 + k) * 64 + l) / 65536) ::
      UInt8.ofNat ((((i * 64 + j) * 64 + k) * 64 + l) / 256 % 256) ::
      UInt8.ofNat ((((i * 64 + j) * 64 + k) * 64 + l) % 256) :: base64Bytes [] r := by
  rw [base64Bytes, base64Bytes_eq]
  rfl

theorem isBase64_append : ∀ {values : List Nat}, (∀ n ∈ values, n < 64) → 4 ∣ values.length →
    ∀ {bytes : List UInt8} {t : Text}, IsBase64 bytes t →
    IsBase64 (base64Bytes [] values ++ bytes) (values.map base64Symbol ++ t)
  | [], _, _, _, _, h => h
  | i :: j :: k :: l :: r, hvalues, hwhole, _, _, h => by
    simp only [List.forall_mem_cons, List.length_cons] at hvalues hwhole
    obtain ⟨hi, hj, hk, hl, hr⟩ := hvalues
    rw [base64Bytes_group]
    refine .three (getElem?_base64Alphabet _ hi) (getElem?_base64Alphabet _ hj)
      (getElem?_base64Alphabet _ hk) (getElem?_base64Alphabet _ hl) ?_
      (isBase64_append hr (by omega) h)
    simp only [UInt8.toNat_ofNat']
    omega
  | [_], _, hwhole, _, _, _ | [_, _], _, hwhole, _, _, _ | [_, _, _], _, hwhole, _, _, _ => by
    simp at hwhole

/-- A last group is symbols and then padding, which starts in the last two places. -/
theorem lastSymbols_eq_ok {offset padding : Nat} {group symbols : List UInt8} :
    lastSymbols offset group = .ok (symbols, padding) ↔
      group = symbols ++ List.replicate padding base64Pad ∧
      (∃ values : List Nat, (∀ n ∈ values, n < 64) ∧ values.map symbolByte = symbols) ∧
      (padding = 0 ∨ 2 ≤ symbols.length) := by
  constructor
  · intro h
    have hsplit := List.takeWhile_append_dropWhile (p := (· != base64Pad)) (l := group)
    unfold lastSymbols at h
    dsimp only at h
    generalize group.takeWhile (· != base64Pad) = first, group.dropWhile (· != base64Pad) = rest at h hsplit
    split at h
    · cases h
    · next hvalues =>
      obtain ⟨values, hsmall, hfirst, -⟩ := base64Values_eq_ok.mp hvalues
      split at h
      · next hempty =>
        cases h
        rw [List.isEmpty_iff] at hempty
        exact ⟨by rw [← hsplit, hempty]; rfl, ⟨values, hsmall, hfirst⟩, .inl rfl⟩
      split at h
      · cases h
      next htwo =>
      split at h
      · next hpads =>
        cases h
        have hrest : rest = List.replicate rest.length base64Pad := by
          simpa [List.eq_replicate_iff] using hpads
        exact ⟨by rw [← hsplit, ← hrest], ⟨values, hsmall, hfirst⟩, .inr (by omega)⟩
      · cases h
  · rintro ⟨rfl, ⟨values, hsmall, rfl⟩, hpadding⟩
    have hsymbols : ∀ b ∈ values.map symbolByte, (b != base64Pad) = true := by
      simp only [List.mem_map, bne_iff_ne, ne_eq]
      rintro _ ⟨n, hn, rfl⟩
      exact symbolByte_ne_pad n (hsmall n hn)
    unfold lastSymbols
    rw [List.takeWhile_append_of_pos hsymbols, List.dropWhile_append_of_pos hsymbols]
    simp only [List.takeWhile_replicate, List.dropWhile_replicate, bne_self_eq_false, Bool.false_eq_true, if_false,
      List.append_nil, base64Values_eq_ok.mpr ⟨values, hsmall, rfl, rfl⟩]
    rcases hpadding with rfl | htwo
    · rfl
    · cases padding with
      | zero => rfl
      | succ padding => simp [List.replicate_succ, Nat.not_lt.mpr (List.length_map symbolByte ▸ htwo)]

theorem lastGroup_eq_ok {offset : Nat} {group bytes : List UInt8} :
    lastGroup offset group = .ok bytes ↔ ∃ symbols padding, lastSymbols offset group = .ok (symbols, padding) ∧
      2 ≤ symbols.length ∧ (symbols.length + padding) % 4 = 0 ∧ lastBytes offset symbols = .ok bytes := by
  unfold lastGroup
  rcases lastSymbols offset group with e | ⟨symbols, padding⟩
  · simp [bind, Except.bind]
  · simp only [bind, Except.bind, Except.ok.injEq, Prod.mk.injEq, throw, throwThe, MonadExceptOf.throw]
    constructor
    · intro h
      split at h
      · next hfew => cases h
      split at h
      · next hopen => cases h
      exact ⟨symbols, padding, ⟨rfl, rfl⟩, by omega, by omega, h⟩
    · rintro ⟨_, _, ⟨rfl, rfl⟩, htwo, hfull, h⟩
      rw [if_neg (by omega), if_neg (by omega)]
      exact h

/-- Values that a last group has symbols for. -/
structure IsLastGroup (values : List Nat) : Prop where
  lt : ∀ n ∈ values, n < 64
  two_le : 2 ≤ values.length
  le_four : values.length ≤ 4

/-- The symbols for the values, padded to a group. -/
def paddedGroup (values : List Nat) : Text := values.map base64Symbol ++ List.replicate (4 - values.length) '='

theorem IsLastGroup.utf8_paddedGroup {values : List Nat} (h : IsLastGroup values) :
    utf8 (paddedGroup values) = values.map symbolByte ++ List.replicate (4 - values.length) base64Pad := by
  have hpads : ∀ n, utf8 (List.replicate n '=') = List.replicate n base64Pad := by
    intro n
    induction n with
    | zero => rfl
    | succ n ih =>
      rw [List.replicate_succ, utf8_cons, ih]
      rfl
  rw [paddedGroup, utf8, List.flatMap_append, ← utf8, ← utf8, utf8_map_base64Symbol h.lt, hpads]

theorem IsLastGroup.length_utf8 {values : List Nat} (h : IsLastGroup values) :
    (utf8 (paddedGroup values)).length = 4 := by
  have hle := h.le_four
  rw [h.utf8_paddedGroup, List.length_append, List.length_map, List.length_replicate]
  omega

theorem lastBytes_two {offset i j : Nat} {bytes : List UInt8} (hi : i < 64) (hj : j < 64) :
    lastBytes offset [symbolByte i, symbolByte j] = .ok bytes ↔
      (i * 64 + j) % 16 = 0 ∧ bytes = [UInt8.ofNat ((i * 64 + j) / 16)] := by
  simp only [lastBytes, base64Value?_symbolByte i hi, base64Value?_symbolByte j hj, Option.getD_some]
  split <;> simp_all [eq_comm]

theorem lastBytes_three {offset i j k : Nat} {bytes : List UInt8} (hi : i < 64) (hj : j < 64) (hk : k < 64) :
    lastBytes offset [symbolByte i, symbolByte j, symbolByte k] = .ok bytes ↔
      ((i * 64 + j) * 64 + k) % 4 = 0 ∧
      bytes = [UInt8.ofNat (((i * 64 + j) * 64 + k) / 1024), UInt8.ofNat (((i * 64 + j) * 64 + k) / 4 % 256)] := by
  simp only [lastBytes, base64Value?_symbolByte i hi, base64Value?_symbolByte j hj, base64Value?_symbolByte k hk,
    Option.getD_some]
  split <;> simp_all [eq_comm]

theorem lastBytes_four {offset i j k l : Nat} {bytes : List UInt8} (hi : i < 64) (hj : j < 64) (hk : k < 64)
    (hl : l < 64) :
    lastBytes offset [symbolByte i, symbolByte j, symbolByte k, symbolByte l] = .ok bytes ↔
      bytes = base64Bytes [] [i, j, k, l] := by
  simp [lastBytes, base64Value?_symbolByte i hi, base64Value?_symbolByte j hj, base64Value?_symbolByte k hk,
    base64Value?_symbolByte l hl, eq_comm]

theorem IsLastGroup.isBase64 {offset : Nat} {values : List Nat} {bytes : List UInt8} (h : IsLastGroup values)
    (hbytes : lastBytes offset (values.map symbolByte) = .ok bytes) : IsBase64 bytes (paddedGroup values) := by
  obtain ⟨hlt, htwo, hfour⟩ := h
  match values with
  | [i, j] =>
    obtain ⟨hi, hj, -⟩ : i < 64 ∧ j < 64 ∧ True := by simpa using hlt
    obtain ⟨hbits, rfl⟩ := (lastBytes_two hi hj).mp hbytes
    refine .one (getElem?_base64Alphabet _ hi) (getElem?_base64Alphabet _ hj) ?_
    rw [UInt8.toNat_ofNat']
    omega
  | [i, j, k] =>
    obtain ⟨hi, hj, hk, -⟩ : i < 64 ∧ j < 64 ∧ k < 64 ∧ True := by simpa using hlt
    obtain ⟨hbits, rfl⟩ := (lastBytes_three hi hj hk).mp hbytes
    refine .two (getElem?_base64Alphabet _ hi) (getElem?_base64Alphabet _ hj)
      (getElem?_base64Alphabet _ hk) ?_
    simp only [UInt8.toNat_ofNat']
    omega
  | [i, j, k, l] =>
    obtain ⟨hi, hj, hk, hl, -⟩ : i < 64 ∧ j < 64 ∧ k < 64 ∧ l < 64 ∧ True := by simpa using hlt
    obtain rfl := (lastBytes_four hi hj hk hl).mp hbytes
    simpa [paddedGroup] using isBase64_append hlt (by simp) .nil

theorem lastGroup_eq_ok_iff {offset : Nat} {group bytes : List UInt8} (hlength : group.length ≤ 4) :
    lastGroup offset group = .ok bytes ↔ ∃ values, IsLastGroup values ∧ utf8 (paddedGroup values) = group ∧
      lastBytes offset (values.map symbolByte) = .ok bytes := by
  rw [lastGroup_eq_ok]
  simp only [lastSymbols_eq_ok]
  constructor
  · rintro ⟨_, padding, ⟨rfl, ⟨values, hlt, rfl⟩, -⟩, htwo, hfull, h⟩
    simp only [List.length_append, List.length_replicate, List.length_map] at hlength htwo hfull
    have hvalues : IsLastGroup values := ⟨hlt, htwo, by omega⟩
    refine ⟨values, hvalues, ?_, h⟩
    rw [hvalues.utf8_paddedGroup, show 4 - values.length = padding by omega]
  · rintro ⟨values, hvalues, rfl, h⟩
    have htwo := hvalues.two_le
    have hfour := hvalues.le_four
    refine ⟨values.map symbolByte, 4 - values.length, ⟨hvalues.utf8_paddedGroup, ⟨values, hvalues.lt, rfl⟩, ?_⟩, ?_, ?_,
      h⟩
    all_goals
      rw [List.length_map]
      omega

/-- A written form is whole groups and a last one. -/
theorem IsBase64.exists_lastGroup {bytes : List UInt8} {t : Text} (h : IsBase64 bytes t) (hne : t ≠ []) :
    ∃ whole values last, (∀ n ∈ whole, n < 64) ∧ 4 ∣ whole.length ∧ IsLastGroup values ∧
      t = whole.map base64Symbol ++ paddedGroup values ∧ bytes = base64Bytes [] whole ++ last ∧
      ∀ offset, lastBytes offset (values.map symbolByte) = .ok last := by
  induction h with
  | nil => exact absurd rfl hne
  | @one x i j _ _ hs ht hbits =>
    obtain ⟨hi, rfl⟩ := getElem?_base64Alphabet_iff.mp hs
    obtain ⟨hj, rfl⟩ := getElem?_base64Alphabet_iff.mp ht
    refine ⟨[], [i, j], [x], by simp, by simp, ⟨by simp [hi, hj], by simp, by simp⟩, rfl, rfl, fun offset => ?_⟩
    refine (lastBytes_two hi hj).mpr ⟨by omega, ?_⟩
    rw [byte_eq (a := x) (by omega)]
  | @two x y i j k _ _ _ hs ht hu hbits =>
    obtain ⟨hi, rfl⟩ := getElem?_base64Alphabet_iff.mp hs
    obtain ⟨hj, rfl⟩ := getElem?_base64Alphabet_iff.mp ht
    obtain ⟨hk, rfl⟩ := getElem?_base64Alphabet_iff.mp hu
    have hy := y.toNat_lt
    refine ⟨[], [i, j, k], [x, y], by simp, by simp, ⟨by simp [hi, hj, hk], by simp, by simp⟩, rfl, rfl,
      fun offset => ?_⟩
    refine (lastBytes_three hi hj hk).mpr ⟨by omega, ?_⟩
    rw [byte_eq (a := x) (by omega), byte_eq (a := y) (by omega)]
  | @three x y z i j k l _ _ _ _ bytes written hs ht hu hv hbits hrest ih =>
    obtain ⟨hi, rfl⟩ := getElem?_base64Alphabet_iff.mp hs
    obtain ⟨hj, rfl⟩ := getElem?_base64Alphabet_iff.mp ht
    obtain ⟨hk, rfl⟩ := getElem?_base64Alphabet_iff.mp hu
    obtain ⟨hl, rfl⟩ := getElem?_base64Alphabet_iff.mp hv
    have hgroup (r : List Nat) : base64Bytes [] (i :: j :: k :: l :: r) = x :: y :: z :: base64Bytes [] r := by
      have hy := y.toNat_lt
      have hz := z.toNat_lt
      rw [base64Bytes_group, byte_eq (a := x) (by omega), byte_eq (a := y) (by omega), byte_eq (a := z) (by omega)]
    by_cases hend : written = []
    · subst hend
      cases hrest
      refine ⟨[], [i, j, k, l], [x, y, z], by simp, by simp, ⟨by simp [hi, hj, hk, hl], by simp, by simp⟩, rfl, rfl,
        fun offset => ?_⟩
      exact (lastBytes_four hi hj hk hl).mpr (hgroup []).symm
    · obtain ⟨whole, values, last, hwhole, hfour, hvalues, rfl, rfl, hlast⟩ := ih hend
      refine ⟨i :: j :: k :: l :: whole, values, last, ?_, by simp [hfour], hvalues, rfl, by rw [hgroup]; rfl, hlast⟩
      simpa [hi, hj, hk, hl] using hwhole

theorem exists_isBase64_of_ofBase64 {bytes read : List UInt8} (h : ofBase64 bytes = .ok read) :
    ∃ t, IsBase64 read t ∧ utf8 t = bytes := by
  unfold ofBase64 at h
  split at h
  · cases h
  split at h
  · next hempty =>
    cases h
    exact ⟨[], .nil, (List.isEmpty_iff.mp hempty).symm⟩
  next hempty =>
  rw [List.isEmpty_iff, ← List.length_eq_zero_iff] at hempty
  simp only [bind, Except.bind, pure, Except.pure] at h
  split at h
  · cases h
  next whole hwhole =>
  split at h
  · cases h
  next last hlast =>
  cases h
  obtain ⟨whole, hlt, hfront, rfl⟩ := base64Values_eq_ok.mp hwhole
  -- what is left for the last group is never more than four bytes, and it is not empty
  obtain ⟨values, hvalues, hgroup, hbytes⟩ := (lastGroup_eq_ok_iff (by rw [List.length_drop]; omega)).mp hlast
  have hfour : 4 ∣ whole.length := by
    have hlength := congrArg List.length hfront
    rw [List.length_map, List.length_take] at hlength
    omega
  refine ⟨_, isBase64_append hlt hfour (hvalues.isBase64 hbytes), ?_⟩
  rw [utf8_append, utf8_map_base64Symbol hlt, hfront, hgroup, List.take_append_drop]

theorem strayLast?_eq_none {bytes : List UInt8} (h : bytes.length % 4 = 0) : strayLast? bytes = none :=
  if_neg (by omega)

/-- Whole groups are read, and then the last one. -/
theorem ofBase64_append {whole values : List Nat} {last : List UInt8} (hlt : ∀ n ∈ whole, n < 64)
    (hfour : 4 ∣ whole.length) (hvalues : IsLastGroup values)
    (hlast : ∀ offset, lastBytes offset (values.map symbolByte) = .ok last) :
    ofBase64 (whole.map symbolByte ++ utf8 (paddedGroup values)) = .ok (base64Bytes [] whole ++ last) := by
  have hgroup := hvalues.length_utf8
  have hfront : (whole.map symbolByte).length = whole.length := List.length_map _
  have hlength : (whole.map symbolByte ++ utf8 (paddedGroup values)).length = whole.length + 4 := by
    rw [List.length_append, hfront, hgroup]
  have hwhole : (whole.length + 4 - 1) / 4 * 4 = whole.length := by omega
  have hnonempty : ¬ (whole.map symbolByte ++ utf8 (paddedGroup values)).isEmpty := by
    rw [List.isEmpty_iff, ← List.length_eq_zero_iff]
    omega
  unfold ofBase64
  rw [strayLast?_eq_none (by omega)]
  dsimp only
  rw [if_neg hnonempty, hlength, hwhole, List.take_left' hfront, List.drop_left' hfront,
    base64Values_eq_ok.mpr ⟨whole, hlt, rfl, rfl⟩,
    (lastGroup_eq_ok_iff hgroup.le).mpr ⟨values, hvalues, rfl, hlast _⟩]
  rfl

/-- What is read are the bytes that the written form stands for. -/
theorem ofBase64_eq_ok_iff {bytes read : List UInt8} :
    ofBase64 bytes = .ok read ↔ ∃ t, IsBase64 read t ∧ utf8 t = bytes := by
  constructor
  · exact exists_isBase64_of_ofBase64
  · rintro ⟨t, ht, rfl⟩
    by_cases hne : t = []
    · subst hne
      cases ht
      rfl
    · obtain ⟨whole, values, last, hlt, hfour, hvalues, rfl, rfl, hlast⟩ := ht.exists_lastGroup hne
      rw [utf8_append, utf8_map_base64Symbol hlt]
      exact ofBase64_append hlt hfour hvalues hlast

end Text

namespace Builtin
open Text (IsBase64)

/-- A value is decoded to the text whose bytes it is the written form of. -/
theorem decodeBase64_eq_ok_iff {w v : Text} {args : List Argument} :
    decodeBase64 w args = .ok v ↔ IsBase64 v.utf8 w := by
  unfold decodeBase64
  constructor
  · intro h
    split at h
    · cases h
    next bytes hbytes =>
    split at h
    · cases h
    next hv =>
    cases h
    obtain ⟨t, ht, hw⟩ := Text.ofBase64_eq_ok_iff.mp hbytes
    rw [Text.ofUtf8_eq_ok_iff.mp hv, ← Text.utf8_injective hw]
    exact ht
  · intro h
    rw [Text.ofBase64_eq_ok_iff.mpr ⟨w, h, rfl⟩]
    dsimp only
    rw [Text.ofUtf8_eq_ok_iff.mpr rfl]

theorem decodeBase64_eq_ok {w v : Text} {args : List Argument} :
    decodeBase64 w args = .ok v ↔ encodeBase64 v = w := by
  rw [decodeBase64_eq_ok_iff, Text.isBase64_iff, encodeBase64]

theorem exists_decodeBase64_eq_fail {w : Text} {args : List Argument} (h : ∀ v, decodeBase64 w args ≠ .ok v) :
    ∃ message, decodeBase64 w args = fail message := by
  unfold decodeBase64 at h ⊢
  split
  · exact ⟨_, rfl⟩
  next bytes hbytes =>
  rw [hbytes] at h
  dsimp only at h
  split
  · exact ⟨_, rfl⟩
  next v hv =>
  rw [hv] at h
  exact absurd rfl (h v)

theorem resolve_encodeBase64 :
    standard.resolve ⟨"base64_encode".toList, []⟩ = some fun value _ => .ok (encodeBase64 value) := rfl

theorem resolve_decodeBase64 : standard.resolve ⟨"base64_decode".toList, []⟩ = some decodeBase64 := rfl

/-- **The Base64 functions are inverse to each other.** What is encoded is decoded to the
value; what is decoded is encoded to what was decoded, which is the padded form of the bytes
of a text with no bits left over. So no two values are decoded to one, and a value that is
not encoded from a text is refused with a message. -/
theorem decodeBase64_inverse_encodeBase64 (args : List Argument) :
    (∀ v, decodeBase64 (encodeBase64 v) args = .ok v) ∧
      (∀ w v, decodeBase64 w args = .ok v → encodeBase64 v = w) ∧
      (∀ w v, decodeBase64 w args = .ok v ↔ IsBase64 v.utf8 w) ∧
      (∀ w w' v, decodeBase64 w args = .ok v → decodeBase64 w' args = .ok v → w = w') ∧
      (∀ w, (∀ v, encodeBase64 v ≠ w) → ∃ message, decodeBase64 w args = fail message) ∧
      standard.resolve ⟨"base64_encode".toList, []⟩ = some (fun value _ => .ok (encodeBase64 value)) ∧
      standard.resolve ⟨"base64_decode".toList, []⟩ = some decodeBase64 :=
  ⟨fun _ => decodeBase64_eq_ok.mpr rfl, fun _ _ => decodeBase64_eq_ok.mp, fun _ _ => decodeBase64_eq_ok_iff,
    fun _ _ _ h h' => (decodeBase64_eq_ok.mp h).symm.trans (decodeBase64_eq_ok.mp h'),
    fun _ h => exists_decodeBase64_eq_fail fun v hv => h v (decodeBase64_eq_ok.mp hv), resolve_encodeBase64,
    resolve_decodeBase64⟩

/-- Two bytes of one character are three symbols; with bits left over they are no written form. -/
theorem decodeBase64_inverse_encodeBase64_padded :
    decodeBase64 "w6k=".toList [] = .ok "é".toList ∧ encodeBase64 "é".toList = "w6k=".toList ∧
      ¬ IsBase64 (Text.utf8 "é".toList) "w6l=".toList := by
  obtain ⟨-, hencode, hcanonical, -⟩ := decodeBase64_inverse_encodeBase64 []
  have hdecoded : decodeBase64 "w6k=".toList [] = .ok "é".toList := by decide +kernel
  have hstray : decodeBase64 "w6l=".toList [] ≠ .ok "é".toList := by decide
  exact ⟨hdecoded, hencode _ _ hdecoded, fun h => hstray ((hcanonical _ _).mpr h)⟩

end Builtin
end Placeholders

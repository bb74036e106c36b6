/-
UTF-8 both ways. A code point and its bytes are related by the ranges of the bytes
(`IsSequence`), which leave out what is too long, the surrogates and what is beyond the last
code point. The first character that is read is the one whose sequence the bytes start with
(`firstChar?_eq_ok_iff`), and the sequence of a character is what is written for it
(`isSequence_iff`). So bytes are read as a text just when they are what is written for it
(`ofUtf8_eq_ok_iff`).
-/
import Placeholders.Text.Utf8
import Mathlib.Order.Basic

namespace Placeholders.Text

/-- The bytes are the sequence of a code point. -/
inductive IsSequence : Nat → List UInt8 → Prop
  | one {a : UInt8} (ha : a.toNat < 0x80) : IsSequence a.toNat [a]
  | two {a b : UInt8} (ha : 0xc2 ≤ a.toNat ∧ a.toNat < 0xe0) (hb : 0x80 ≤ b.toNat ∧ b.toNat ≤ 0xbf) :
    IsSequence ((a.toNat - 0xc0) * 64 + (b.toNat - 0x80)) [a, b]
  | three {a b c : UInt8} (ha : 0xe0 ≤ a.toNat ∧ a.toNat < 0xf0)
    (hb : (if a.toNat = 0xe0 then 0xa0 else 0x80) ≤ b.toNat ∧ b.toNat ≤ if a.toNat = 0xed then 0x9f else 0xbf)
    (hc : 0x80 ≤ c.toNat ∧ c.toNat ≤ 0xbf) :
    IsSequence (((a.toNat - 0xe0) * 64 + (b.toNat - 0x80)) * 64 + (c.toNat - 0x80)) [a, b, c]
  | four {a b c d : UInt8} (ha : 0xf0 ≤ a.toNat ∧ a.toNat < 0xf5)
    (hb : (if a.toNat = 0xf0 then 0x90 else 0x80) ≤ b.toNat ∧ b.toNat ≤ if a.toNat = 0xf4 then 0x8f else 0xbf)
    (hc : 0x80 ≤ c.toNat ∧ c.toNat ≤ 0xbf) (hd : 0x80 ≤ d.toNat ∧ d.toNat ≤ 0xbf) :
    IsSequence ((((a.toNat - 0xf0) * 64 + (b.toNat - 0x80)) * 64 + (c.toNat - 0x80)) * 64 + (d.toNat - 0x80))
      [a, b, c, d]

/-! ## Reading one character -/

namespace Utf8Lead
variable {b : Nat}

theorem of?_one (h : b < 0x80) : of? b = some ⟨0, b, 0x80, 0xbf⟩ := if_pos h

theorem of?_two (h : 0xc2 ≤ b ∧ b < 0xe0) : of? b = some ⟨1, b - 0xc0, 0x80, 0xbf⟩ := by
  unfold of?
  rw [if_neg (by omega), if_neg (by omega), if_pos h.2]

theorem of?_three (h : 0xe0 ≤ b ∧ b < 0xf0) :
    of? b = some ⟨2, b - 0xe0, if b = 0xe0 then 0xa0 else 0x80, if b = 0xed then 0x9f else 0xbf⟩ := by
  unfold of?
  rw [if_neg (by omega), if_neg (by omega), if_neg (by omega)]
  by_cases hfirst : b = 0xe0
  · subst hfirst
    rfl
  · by_cases hsurrogates : b = 0xed
    · subst hsurrogates
      rfl
    · simp only [if_neg hfirst, if_neg hsurrogates, if_pos h.2]

theorem of?_four (h : 0xf0 ≤ b ∧ b < 0xf5) :
    of? b = some ⟨3, b - 0xf0, if b = 0xf0 then 0x90 else 0x80, if b = 0xf4 then 0x8f else 0xbf⟩ := by
  unfold of?
  rw [if_neg (by omega), if_neg (by omega), if_neg (by omega), if_neg (by omega), if_neg (by omega),
    if_neg (by omega)]
  by_cases hfirst : b = 0xf0
  · subst hfirst
    rfl
  · by_cases hlast : b = 0xf4
    · subst hlast
      rfl
    · simp only [if_neg hfirst, if_neg hlast, if_pos (show b < 0xf4 by omega)]

theorem of?_none (h : 0x80 ≤ b ∧ b < 0xc2 ∨ 0xf5 ≤ b) : of? b = none := by
  unfold of?
  rw [if_neg (by omega)]
  rcases h with h | h
  · rw [if_pos h.2]
  · rw [if_neg (by omega), if_neg (by omega), if_neg (by omega), if_neg (by omega), if_neg (by omega),
      if_neg (by omega), if_neg (by omega), if_neg (by omega)]

end Utf8Lead

theorem followingBytes_zero_eq_ok {bits low high seen n : Nat} {bytes rest : List UInt8} :
    followingBytes 0 bits low high seen bytes = .ok (n, rest) ↔ bits = n ∧ bytes = rest := by
  simp [followingBytes]

theorem followingBytes_succ_eq_ok {k bits low high seen n : Nat} {bytes rest : List UInt8} :
    followingBytes (k + 1) bits low high seen bytes = .ok (n, rest) ↔
      ∃ b r, bytes = b :: r ∧ (low ≤ b.toNat ∧ b.toNat ≤ high) ∧
        followingBytes k (bits * 64 + (b.toNat - 0x80)) 0x80 0xbf (seen + 1) r = .ok (n, rest) := by
  cases bytes with
  | nil => simp [followingBytes]
  | cons b r =>
    rw [followingBytes]
    constructor
    · intro h
      split at h
      · next hb => exact ⟨b, r, rfl, hb, h⟩
      · cases h
    · rintro ⟨b, r, heq, hb, h⟩
      obtain ⟨rfl, rfl⟩ := List.cons.inj heq
      rwa [if_pos hb]

theorem firstChar?_eq_ok {b : UInt8} {r rest : List UInt8} {c : Char} {lead : Utf8Lead}
    (hlead : Utf8Lead.of? b.toNat = some lead) :
    firstChar? b r = .ok (c, rest) ↔
      ∃ n, followingBytes lead.following lead.bits lead.low lead.high 1 r = .ok (n, rest) ∧ Char.ofNat n = c := by
  unfold firstChar?
  rw [hlead]
  dsimp only
  rcases followingBytes lead.following lead.bits lead.low lead.high 1 r with e | ⟨n, rest'⟩
  · exact ⟨fun h => (nomatch h), fun ⟨_, h, _⟩ => (nomatch h)⟩
  · constructor
    · intro h
      cases h
      exact ⟨n, rfl, rfl⟩
    · rintro ⟨_, h, rfl⟩
      cases h
      rfl

theorem exists_isSequence_of_firstChar? {b : UInt8} {r rest : List UInt8} {c : Char}
    (h : firstChar? b r = .ok (c, rest)) : ∃ n s, IsSequence n s ∧ b :: r = s ++ rest ∧ Char.ofNat n = c := by
  rcases (by omega : b.toNat < 0x80 ∨ (0xc2 ≤ b.toNat ∧ b.toNat < 0xe0) ∨ (0xe0 ≤ b.toNat ∧ b.toNat < 0xf0) ∨
    (0xf0 ≤ b.toNat ∧ b.toNat < 0xf5) ∨ (0x80 ≤ b.toNat ∧ b.toNat < 0xc2 ∨ 0xf5 ≤ b.toNat)) with
    hb | hb | hb | hb | hb
  · rw [firstChar?_eq_ok (Utf8Lead.of?_one hb)] at h
    simp only [followingBytes_zero_eq_ok] at h
    obtain ⟨_, ⟨rfl, rfl⟩, rfl⟩ := h
    exact ⟨_, _, .one hb, rfl, rfl⟩
  · rw [firstChar?_eq_ok (Utf8Lead.of?_two hb)] at h
    simp only [followingBytes_succ_eq_ok, followingBytes_zero_eq_ok] at h
    obtain ⟨_, ⟨_, _, rfl, h₁, rfl, rfl⟩, rfl⟩ := h
    exact ⟨_, _, .two hb h₁, rfl, rfl⟩
  · rw [firstChar?_eq_ok (Utf8Lead.of?_three hb)] at h
    simp only [followingBytes_succ_eq_ok, followingBytes_zero_eq_ok] at h
    obtain ⟨_, ⟨_, _, rfl, h₁, _, _, rfl, h₂, rfl, rfl⟩, rfl⟩ := h
    exact ⟨_, _, .three hb h₁ h₂, rfl, rfl⟩
  · rw [firstChar?_eq_ok (Utf8Lead.of?_four hb)] at h
    simp only [followingBytes_succ_eq_ok, followingBytes_zero_eq_ok] at h
    obtain ⟨_, ⟨_, _, rfl, h₁, _, _, rfl, h₂, _, _, rfl, h₃, rfl, rfl⟩, rfl⟩ := h
    exact ⟨_, _, .four hb h₁ h₂ h₃, rfl, rfl⟩
  · rw [firstChar?, Utf8Lead.of?_none hb] at h
    cases h

theorem firstChar?_of_isSequence {n : Nat} {b : UInt8} {s r rest : List UInt8} (hs : IsSequence n s)
    (h : b :: r = s ++ rest) : firstChar? b r = .ok (Char.ofNat n, rest) := by
  cases hs with
  | one ha =>
    obtain ⟨rfl, rfl⟩ := List.cons.inj h
    exact (firstChar?_eq_ok (Utf8Lead.of?_one ha)).mpr ⟨_, followingBytes_zero_eq_ok.mpr ⟨rfl, rfl⟩, rfl⟩
  | two ha hb =>
    obtain ⟨rfl, rfl⟩ := List.cons.inj h
    refine (firstChar?_eq_ok (Utf8Lead.of?_two ha)).mpr ⟨_, ?_, rfl⟩
    exact followingBytes_succ_eq_ok.mpr ⟨_, _, rfl, hb, followingBytes_zero_eq_ok.mpr ⟨rfl, rfl⟩⟩
  | three ha hb hc =>
    obtain ⟨rfl, rfl⟩ := List.cons.inj h
    refine (firstChar?_eq_ok (Utf8Lead.of?_three ha)).mpr ⟨_, ?_, rfl⟩
    refine followingBytes_succ_eq_ok.mpr ⟨_, _, rfl, hb, ?_⟩
    exact followingBytes_succ_eq_ok.mpr ⟨_, _, rfl, hc, followingBytes_zero_eq_ok.mpr ⟨rfl, rfl⟩⟩
  | four ha hb hc hd =>
    obtain ⟨rfl, rfl⟩ := List.cons.inj h
    refine (firstChar?_eq_ok (Utf8Lead.of?_four ha)).mpr ⟨_, ?_, rfl⟩
    refine followingBytes_succ_eq_ok.mpr ⟨_, _, rfl, hb, ?_⟩
    refine followingBytes_succ_eq_ok.mpr ⟨_, _, rfl, hc, ?_⟩
    exact followingBytes_succ_eq_ok.mpr ⟨_, _, rfl, hd, followingBytes_zero_eq_ok.mpr ⟨rfl, rfl⟩⟩

/-! ## Writing one character -/

/-- The numbers of sequences are those of characters. -/
theorem IsSequence.isValidChar {n : Nat} {s : List UInt8} (h : IsSequence n s) : n.isValidChar := by
  unfold Nat.isValidChar
  cases h with
  | one ha => omega
  | two ha hb => omega
  | three ha hb hc =>
    obtain ⟨hlow, hhigh⟩ := hb
    split at hlow <;> split at hhigh <;> omega
  | four ha hb hc hd =>
    obtain ⟨hlow, hhigh⟩ := hb
    split at hlow <;> split at hhigh <;> omega

theorem byte_eq {n : Nat} {a : UInt8} (h : n = a.toNat) : UInt8.ofNat n = a := by
  rw [h, UInt8.ofNat_toNat]

/-- A sequence is what is written for its character. -/
theorem utf8EncodeChar_of_isSequence {c : Char} {s : List UInt8} (h : IsSequence c.toNat s) :
    String.utf8EncodeChar c = s := by
  obtain ⟨n, hn⟩ : ∃ n, c.toNat = n := ⟨_, rfl⟩
  have hval : c.val.toNat = n := hn
  rw [hn] at h
  unfold String.utf8EncodeChar
  rw [hval]
  dsimp only
  cases h with
  | one ha => rw [if_pos (by omega), byte_eq rfl]
  | @two a b ha hb =>
    rw [if_neg (by omega), if_pos (by omega), byte_eq (a := a) (by omega), byte_eq (a := b) (by omega)]
  | @three a b d ha hb hd =>
    obtain ⟨hlow, hhigh⟩ := hb
    have hlow' : 0x80 ≤ b.toNat ∧ (a.toNat = 0xe0 → 0xa0 ≤ b.toNat) := by split at hlow <;> omega
    have hhigh' : b.toNat ≤ 0xbf := by split at hhigh <;> omega
    rw [if_neg (by omega), if_neg (by omega), if_pos (by omega), byte_eq (a := a) (by omega),
      byte_eq (a := b) (by omega), byte_eq (a := d) (by omega)]
  | @four a b d e ha hb hd he =>
    obtain ⟨hlow, hhigh⟩ := hb
    have hlow' : 0x80 ≤ b.toNat ∧ (a.toNat = 0xf0 → 0x90 ≤ b.toNat) := by split at hlow <;> omega
    have hhigh' : b.toNat ≤ 0xbf := by split at hhigh <;> omega
    rw [if_neg (by omega), if_neg (by omega), if_neg (by omega), byte_eq (a := a) (by omega),
      byte_eq (a := b) (by omega), byte_eq (a := d) (by omega), byte_eq (a := e) (by omega)]

theorem exists_byte {n : Nat} (h : n < 256) : ∃ a : UInt8, a.toNat = n ∧ UInt8.ofNat n = a :=
  ⟨_, UInt8.toNat_ofNat_of_lt' h, rfl⟩

/-- What is written for a character is its sequence. -/
theorem isSequence_utf8EncodeChar (c : Char) : IsSequence c.toNat (String.utf8EncodeChar c) := by
  have hvalid : c.toNat < 0xd800 ∨ 0xdfff < c.toNat ∧ c.toNat < 0x110000 := c.valid
  obtain ⟨n, hn⟩ : ∃ n, c.toNat = n := ⟨_, rfl⟩
  have hval : c.val.toNat = n := hn
  rw [hn] at hvalid ⊢
  unfold String.utf8EncodeChar
  rw [hval]
  dsimp only
  split
  · next h₁ =>
    obtain ⟨a, ha, heq⟩ := exists_byte (n := n) (by omega)
    rw [heq, ← ha]
    exact .one (by omega)
  split
  · next h₁ h₂ =>
    obtain ⟨a, ha, heqa⟩ := exists_byte (n := n / 64 % 32 + 192) (by omega)
    obtain ⟨b, hb, heqb⟩ := exists_byte (n := n % 64 + 128) (by omega)
    rw [heqa, heqb, show n = (a.toNat - 0xc0) * 64 + (b.toNat - 0x80) by omega]
    exact .two (by omega) (by omega)
  split
  · next h₁ h₂ h₃ =>
    obtain ⟨a, ha, heqa⟩ := exists_byte (n := n / 4096 % 16 + 224) (by omega)
    obtain ⟨b, hb, heqb⟩ := exists_byte (n := n / 64 % 64 + 128) (by omega)
    obtain ⟨d, hd, heqd⟩ := exists_byte (n := n % 64 + 128) (by omega)
    rw [heqa, heqb, heqd, show n = ((a.toNat - 0xe0) * 64 + (b.toNat - 0x80)) * 64 + (d.toNat - 0x80) by omega]
    refine .three (by omega) ⟨?_, ?_⟩ (by omega)
    · split <;> omega
    · split <;> omega
  · next h₁ h₂ h₃ =>
    obtain ⟨a, ha, heqa⟩ := exists_byte (n := n / 262144 % 8 + 240) (by omega)
    obtain ⟨b, hb, heqb⟩ := exists_byte (n := n / 4096 % 64 + 128) (by omega)
    obtain ⟨d, hd, heqd⟩ := exists_byte (n := n / 64 % 64 + 128) (by omega)
    obtain ⟨e, he, heqe⟩ := exists_byte (n := n % 64 + 128) (by omega)
    rw [heqa, heqb, heqd, heqe, show n = (((a.toNat - 0xf0) * 64 + (b.toNat - 0x80)) * 64 + (d.toNat - 0x80)) * 64 +
      (e.toNat - 0x80) by omega]
    refine .four (by omega) ⟨?_, ?_⟩ (by omega) (by omega)
    · split <;> omega
    · split <;> omega

/-- The sequence of a character is what is written for it. -/
theorem isSequence_iff {c : Char} {s : List UInt8} : IsSequence c.toNat s ↔ String.utf8EncodeChar c = s :=
  ⟨utf8EncodeChar_of_isSequence, fun h => h ▸ isSequence_utf8EncodeChar c⟩

/-- The character that is read is the one whose bytes come first. -/
theorem firstChar?_eq_ok_iff {b : UInt8} {r rest : List UInt8} {c : Char} :
    firstChar? b r = .ok (c, rest) ↔ b :: r = String.utf8EncodeChar c ++ rest := by
  constructor
  · intro h
    obtain ⟨n, s, hs, heq, rfl⟩ := exists_isSequence_of_firstChar? h
    have hn : (Char.ofNat n).toNat = n := by
      rw [Char.ofNat, dif_pos hs.isValidChar]
      rfl
    rw [← hn, isSequence_iff] at hs
    rw [heq, hs]
  · intro h
    have hread := firstChar?_of_isSequence (isSequence_utf8EncodeChar c) h
    rwa [Char.ofNat_toNat] at hread

/-! ## Texts -/

@[simp]
theorem utf8_nil : utf8 [] = [] := rfl

@[simp]
theorem utf8_cons (c : Char) (t : Text) : utf8 (c :: t) = String.utf8EncodeChar c ++ utf8 t := List.flatMap_cons

theorem utf8_append (t t' : Text) : utf8 (t ++ t') = utf8 t ++ utf8 t' := List.flatMap_append

theorem ofUtf8From_cons {offset : Nat} {before : Text} {b : UInt8} {r : List UInt8} :
    ofUtf8From offset before (b :: r) = match firstChar? b r with
      | .ok (c, rest) => ofUtf8From (offset + c.utf8Size) (c :: before) rest
      | .error length => .error ⟨offset, length⟩ := by
  rw [ofUtf8From]
  split <;> simp_all

theorem exists_of_ofUtf8From {offset : Nat} {before t : Text} {bytes : List UInt8}
    (h : ofUtf8From offset before bytes = .ok t) : ∃ t', t = before.reverse ++ t' ∧ utf8 t' = bytes := by
  fun_induction ofUtf8From offset before bytes with
  | case1 offset before =>
    cases h
    exact ⟨[], by simp, rfl⟩
  | case2 offset before b r c rest hfirst ih =>
    obtain ⟨t', rfl, rfl⟩ := ih h
    exact ⟨c :: t', by simp, (firstChar?_eq_ok_iff.mp hfirst).symm⟩
  | case3 offset before b r length hfirst => cases h

theorem ofUtf8From_utf8 (offset : Nat) (before t : Text) :
    ofUtf8From offset before (utf8 t) = .ok (before.reverse ++ t) := by
  induction t generalizing offset before with
  | nil => simp [ofUtf8From]
  | cons c t ih =>
    obtain ⟨b, r, hbytes⟩ := List.exists_cons_of_ne_nil
      (show utf8 (c :: t) ≠ [] by simp [String.utf8EncodeChar_ne_nil])
    rw [hbytes, ofUtf8From_cons, firstChar?_eq_ok_iff.mpr hbytes.symm]
    change ofUtf8From (offset + c.utf8Size) (c :: before) (utf8 t) = _
    rw [ih, List.reverse_cons, List.append_assoc, List.singleton_append]

/-- Bytes are read as a text just when they are what is written for it. -/
theorem ofUtf8_eq_ok_iff {bytes : List UInt8} {t : Text} : ofUtf8 bytes = .ok t ↔ utf8 t = bytes := by
  constructor
  · intro h
    obtain ⟨t', rfl, ht'⟩ := exists_of_ofUtf8From h
    exact ht'
  · rintro rfl
    exact ofUtf8From_utf8 0 [] t

/-- Texts with the same bytes are the same. -/
theorem utf8_injective : Function.Injective utf8 := by
  intro t t' h
  have hread := ofUtf8_eq_ok_iff.mpr h
  rw [ofUtf8_eq_ok_iff.mpr rfl] at hread
  exact (Except.ok.inj hread).symm

end Placeholders.Text

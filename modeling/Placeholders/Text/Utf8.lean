/-
UTF-8: the bytes of a text, and reading bytes as text. Overlong forms, surrogates
and values beyond the last code point are refused through the range of the second
byte, so every text has one byte form. An error says where the wrong sequence
starts and how many of its bytes belong to it.
-/
import Placeholders.Text.Basic

namespace Placeholders.Text

/-- The bytes of a text. -/
def utf8 (t : Text) : List UInt8 := t.flatMap String.utf8EncodeChar

/-- Where bytes stop being a text. Without a length, the bytes end inside a character. -/
structure InvalidUtf8 where
  offset : Nat
  length : Option Nat
deriving DecidableEq, Repr

/-- What a first byte announces: how many bytes follow, the bits it holds itself,
and the range that the second byte has to be in. -/
structure Utf8Lead where
  following : Nat
  bits : Nat
  low : Nat
  high : Nat

/-- The announcement of a first byte; a byte that starts no character has none. -/
def Utf8Lead.of? (b : Nat) : Option Utf8Lead :=
  if b < 0x80 then some ⟨0, b, 0x80, 0xbf⟩
  else if b < 0xc2 then none
  else if b < 0xe0 then some ⟨1, b - 0xc0, 0x80, 0xbf⟩
  else if b = 0xe0 then some ⟨2, 0, 0xa0, 0xbf⟩
  else if b = 0xed then some ⟨2, 0xd, 0x80, 0x9f⟩
  else if b < 0xf0 then some ⟨2, b - 0xe0, 0x80, 0xbf⟩
  else if b = 0xf0 then some ⟨3, 0, 0x90, 0xbf⟩
  else if b < 0xf4 then some ⟨3, b - 0xf0, 0x80, 0xbf⟩
  else if b = 0xf4 then some ⟨3, 4, 0x80, 0x8f⟩
  else none

/-- Reads the bytes that follow, of which `seen` bytes stand before; the error is
the length of the wrong sequence. -/
def followingBytes (following bits low high seen : Nat) (bytes : List UInt8) :
    Except (Option Nat) (Nat × List UInt8) :=
  match following, bytes with
  | 0, bytes => .ok (bits, bytes)
  | _ + 1, [] => .error none
  | k + 1, b :: r =>
    if low ≤ b.toNat ∧ b.toNat ≤ high then
      followingBytes k (bits * 64 + (b.toNat - 0x80)) 0x80 0xbf (seen + 1) r
    else .error (some seen)

theorem length_followingBytes_le {following bits low high seen : Nat} {bytes rest : List UInt8}
    {n : Nat} (h : followingBytes following bits low high seen bytes = .ok (n, rest)) :
    rest.length ≤ bytes.length := by
  fun_induction followingBytes following bits low high seen bytes with
  | case1 => simp_all
  | case2 => simp at h
  | case3 _ _ _ _ k b r _ ih => exact Nat.le_succ_of_le (ih h)
  | case4 => simp at h

/-- The first character of the bytes and what follows it. -/
def firstChar? (b : UInt8) (r : List UInt8) : Except (Option Nat) (Char × List UInt8) :=
  match Utf8Lead.of? b.toNat with
  | none => .error (some 1)
  | some lead =>
    match followingBytes lead.following lead.bits lead.low lead.high 1 r with
    | .ok (n, rest) => .ok (Char.ofNat n, rest)
    | .error length => .error length

theorem length_firstChar?_le {b : UInt8} {r rest : List UInt8} {c : Char}
    (h : firstChar? b r = .ok (c, rest)) : rest.length ≤ r.length := by
  unfold firstChar? at h
  split at h
  · simp at h
  · split at h
    · rename_i heq
      simp only [Except.ok.injEq, Prod.mk.injEq] at h
      obtain ⟨-, rfl⟩ := h
      exact length_followingBytes_le heq
    · simp at h

/-- Reads on after `offset` bytes, which gave the text `before` in reverse. -/
def ofUtf8From (offset : Nat) (before : Text) (bytes : List UInt8) : Except InvalidUtf8 Text :=
  match bytes with
  | [] => .ok before.reverse
  | b :: r =>
    match _ : firstChar? b r with
    | .ok (c, rest) => ofUtf8From (offset + c.utf8Size) (c :: before) rest
    | .error length => .error ⟨offset, length⟩
termination_by bytes.length
decreasing_by
  rename_i h
  exact Nat.lt_succ_of_le (length_firstChar?_le h)

/-- The text that the bytes encode. -/
def ofUtf8 (bytes : List UInt8) : Except InvalidUtf8 Text := ofUtf8From 0 [] bytes

/-- The words for bytes that are no text. -/
def InvalidUtf8.message (e : InvalidUtf8) : Text :=
  match e.length with
  | some k =>
    "invalid utf-8 sequence of ".toList ++ ofNat k ++ " bytes from index ".toList ++ ofNat e.offset
  | none => "incomplete utf-8 byte sequence from index ".toList ++ ofNat e.offset

end Placeholders.Text

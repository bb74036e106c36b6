/-
Base64 with the standard alphabet. Three bytes become four symbols; padding
fills the last group of four and is required, and bits of the last symbol that
belong to no byte have to be zero. So a sequence of bytes has one written form,
and nothing else is read.
-/
import Placeholders.Text.Utf8

namespace Placeholders.Text

/-- The symbol for six bits. -/
def base64Symbol (n : Nat) : Char :=
  if n < 26 then Char.ofNat ('A'.toNat + n)
  else if n < 52 then Char.ofNat ('a'.toNat + (n - 26))
  else if n < 62 then Char.ofNat ('0'.toNat + (n - 52))
  else if n = 62 then '+' else '/'

/-- The six bits that a byte stands for as a symbol. -/
def base64Value? (b : UInt8) : Option Nat :=
  let n := b.toNat
  if 'A'.toNat ≤ n ∧ n ≤ 'Z'.toNat then some (n - 'A'.toNat)
  else if 'a'.toNat ≤ n ∧ n ≤ 'z'.toNat then some (n - 'a'.toNat + 26)
  else if '0'.toNat ≤ n ∧ n ≤ '9'.toNat then some (n - '0'.toNat + 52)
  else if n = '+'.toNat then some 62
  else if n = '/'.toNat then some 63
  else none

/-- The padding byte. -/
def base64Pad : UInt8 := 61

/-- Writes the groups of three bytes after `written`, which is held in reverse. -/
def toBase64From (written : Text) : List UInt8 → Text
  | [] => written.reverse
  | [a] =>
    let n := a.toNat * 16
    written.reverse ++ [base64Symbol (n / 64), base64Symbol (n % 64), '=', '=']
  | [a, b] =>
    let n := (a.toNat * 256 + b.toNat) * 4
    written.reverse
      ++ [base64Symbol (n / 4096), base64Symbol (n / 64 % 64), base64Symbol (n % 64), '=']
  | a :: b :: c :: r =>
    let n := (a.toNat * 256 + b.toNat) * 256 + c.toNat
    toBase64From
      (base64Symbol (n % 64) :: base64Symbol (n / 64 % 64) :: base64Symbol (n / 4096 % 64)
        :: base64Symbol (n / 262144) :: written) r

/-- The Base64 form of the bytes. -/
def toBase64 (bytes : List UInt8) : Text := toBase64From [] bytes

/-- Why bytes are not a Base64 form. Offsets count bytes. -/
inductive Base64Error
  | invalidSymbol (byte : UInt8) (offset : Nat)
  | invalidLastSymbol (byte : UInt8) (offset : Nat)
  | invalidPadding
  | invalidLength (length : Nat)
deriving DecidableEq, Repr

/-- The words for bytes that are not a Base64 form. -/
def Base64Error.message : Base64Error → Text
  | invalidSymbol byte offset =>
    "Invalid symbol ".toList ++ ofNat byte.toNat ++ ", offset ".toList ++ ofNat offset ++ ['.']
  | invalidLastSymbol byte offset =>
    "Invalid last symbol ".toList ++ ofNat byte.toNat ++ ", offset ".toList ++ ofNat offset ++ ['.']
  | invalidPadding => "Invalid padding".toList
  | invalidLength length => "Invalid input length: ".toList ++ ofNat length

/-- Reads symbols from an offset on, with the values before them in reverse. -/
def base64Values (offset : Nat) (before : List Nat) : List UInt8 → Except Base64Error (List Nat)
  | [] => .ok before.reverse
  | b :: r =>
    match base64Value? b with
    | some n => base64Values (offset + 1) (n :: before) r
    | none => .error (.invalidSymbol b offset)

/-- The bytes of whole groups of four values after `before`, which is held in reverse. -/
def base64Bytes (before : List UInt8) : List Nat → List UInt8
  | a :: b :: c :: d :: r =>
    let n := ((a * 64 + b) * 64 + c) * 64 + d
    base64Bytes
      (UInt8.ofNat (n % 256) :: UInt8.ofNat (n / 256 % 256) :: UInt8.ofNat (n / 65536) :: before) r
  | _ => before.reverse

/-- The symbols of the last group and the padding after them. A padding byte in the
first two places, or one before a symbol, is no symbol. -/
def lastSymbols (offset : Nat) (group : List UInt8) : Except Base64Error (List UInt8 × Nat) :=
  let symbols := group.takeWhile (· != base64Pad)
  let rest := group.dropWhile (· != base64Pad)
  let first := offset + symbols.length
  match base64Values offset [] symbols with
  | .error e => .error e
  | .ok _ =>
    if rest.isEmpty then .ok (symbols, 0)
    else if symbols.length < 2 then .error (.invalidSymbol base64Pad first)
    else if rest.all (· == base64Pad) then .ok (symbols, rest.length)
    else .error (.invalidSymbol base64Pad first)

/-- The bytes of the last group, which has two to four symbols. -/
def lastBytes (offset : Nat) (symbols : List UInt8) : Except Base64Error (List UInt8) :=
  match symbols with
  | [a, b] =>
    let n := (base64Value? a).getD 0 * 64 + (base64Value? b).getD 0
    if n % 16 = 0 then .ok [UInt8.ofNat (n / 16)] else .error (.invalidLastSymbol b (offset + 1))
  | [a, b, c] =>
    let n := ((base64Value? a).getD 0 * 64 + (base64Value? b).getD 0) * 64
      + (base64Value? c).getD 0
    if n % 4 = 0 then .ok [UInt8.ofNat (n / 1024), UInt8.ofNat (n / 4 % 256)]
    else .error (.invalidLastSymbol c (offset + 2))
  | symbols => .ok (base64Bytes [] (symbols.map fun s => (base64Value? s).getD 0))

/-- Reads the last group, which may be padded. -/
def lastGroup (offset : Nat) (group : List UInt8) : Except Base64Error (List UInt8) := do
  let (symbols, padding) ← lastSymbols offset group
  if symbols.length < 2 then throw (.invalidLength (offset + symbols.length))
  if (symbols.length + padding) % 4 ≠ 0 then throw .invalidPadding
  lastBytes offset symbols

/-- A last byte that is neither a symbol nor padding and has no group of its own. -/
def strayLast? (bytes : List UInt8) : Option UInt8 :=
  if bytes.length % 4 = 1 then
    bytes.getLast?.filter fun b => b != base64Pad && (base64Value? b).isNone
  else none

/-- The bytes that a Base64 form stands for. A stray last byte is reported before
anything else, then the groups are read in order. -/
def ofBase64 (bytes : List UInt8) : Except Base64Error (List UInt8) :=
  match strayLast? bytes with
  | some b => .error (.invalidSymbol b (bytes.length - 1))
  | none =>
    if bytes.isEmpty then .ok []
    else do
      let whole := (bytes.length - 1) / 4 * 4
      let values ← base64Values 0 [] (bytes.take whole)
      let last ← lastGroup whole (bytes.drop whole)
      return base64Bytes [] values ++ last

end Placeholders.Text

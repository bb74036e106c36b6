/-
The built-in functions, one definition each. A function whose result grows with
an argument refuses a count that is too large for the output limit. Counts of
characters and counts of bytes are different things: padding and truncation
count characters, repetition counts bytes.
-/
import Placeholders.Function.Basic
import Placeholders.Number.Places
import Placeholders.Number.Reading
import Placeholders.Text.Base64
import Placeholders.Text.Blank
import Placeholders.Text.Casing

namespace Placeholders.Builtin

/-- The greatest size in bytes that an argument may ask for. -/
def outputLimit : Nat := 1048576

/-- The greatest number of decimal places that can be written; a process that is
asked for more ends. -/
def placesLimit : Nat := 65535

/-- Fails with a reason. -/
def fail {α : Type} (reason : Text) : Outcome FunctionError α := refuse (.failed reason)

/-- Fails because a function would write too much. -/
def failTooLarge {α : Type} (function : Text) (count : Nat) : Outcome FunctionError α :=
  fail (function ++ ' ' :: Text.ofNat count ++ " would exceed the ".toList ++ Text.ofNat outputLimit
    ++ " byte output limit".toList)

/-- Puts a text before the value. -/
def putBefore : PipeFunction := fun value args => do
  return (← fetchText args 0) ++ value

/-- Puts a text after the value. -/
def putAfter : PipeFunction := fun value args => do
  return value ++ (← fetchText args 0)

/-- Stands in for an empty value. -/
def whenEmpty : PipeFunction := fun value args =>
  if value.isEmpty then fetchText args 0 else .ok value

/-- Writes `new` for every occurrence of `old` from the left; the text written so
far is held in reverse. -/
def replaceFrom (old new : Text) (written : Text) (value : Text) : Text :=
  match value with
  | [] => written.reverse
  | c :: r =>
    if old.isPrefixOf (c :: r) then
      replaceFrom old new (new.reverse ++ written) (r.drop (old.length - 1))
    else replaceFrom old new (c :: written) r
termination_by value.length
decreasing_by
  · simp only [List.length_drop, List.length_cons]
    omega
  · simp

/-- Replaces every occurrence of a text that is not empty. -/
def replace : PipeFunction := fun value args => do
  let old ← fetchText args 0
  if old.isEmpty then fail "replace pattern must not be empty".toList
  let new ← fetchText args 1
  return replaceFrom old new [] value

/-- Keeps so many characters from the start. -/
def truncate : PipeFunction := fun value args => do
  return value.take (← fetchCount args 0)

/-- Writes the value so many times. An empty value stays empty however often it is written. -/
def replicate : PipeFunction := fun value args => do
  let count ← fetchCount args 0
  if outputLimit < value.byteLength * count then failTooLarge "repeat".toList count
  return if value.isEmpty then [] else (List.replicate count value).flatten

/-- So many characters of the fill, repeated for as long as it takes. -/
def padding (fill : Text) (count : Nat) : Text :=
  (List.replicate (count / fill.length + 1) fill).flatten.take count

/-- The characters that a value lacks to a width. -/
def missingTo (width : Nat) (fill value : Text) : Outcome FunctionError Text :=
  if outputLimit < width then failTooLarge "pad".toList width
  else if fill.isEmpty then fail "pad fill must not be empty".toList
  else .ok (padding fill (width - value.length))

/-- Fills up to a width on the left. -/
def padLeft (fill : List Argument → Outcome FunctionError Text) : PipeFunction :=
  fun value args => do
    let fill ← fill args
    let width ← fetchCount args 0
    return (← missingTo width fill value) ++ value

/-- Fills up to a width on the right. -/
def padRight (fill : List Argument → Outcome FunctionError Text) : PipeFunction :=
  fun value args => do
    let fill ← fill args
    let width ← fetchCount args 0
    return value ++ (← missingTo width fill value)

/-- The fill when no argument gives one. -/
def blankFill : List Argument → Outcome FunctionError Text := fun _ => .ok [' ']

/-- The fill given as second argument. -/
def givenFill : List Argument → Outcome FunctionError Text := fun args => fetchText args 1

/-- Rounds a number to so many decimal places. -/
def round : PipeFunction := fun value args => do
  let places ← fetchInt args 0
  if places < 0 then fail "decimal places must not be negative".toList
  if outputLimit < places.toNat then failTooLarge "round".toList places.toNat
  match Number.readBinary64? value.trim with
  | none => fail ('\x27' :: value ++ "' is not a number".toList)
  | some x => if placesLimit < places.toNat then abort else return x.toPlaces places.toNat

/-- The Base64 form of the value. -/
def encodeBase64 (value : Text) : Text := Text.toBase64 value.utf8

/-- The text whose Base64 form the value is. -/
def decodeBase64 : PipeFunction := fun value _ =>
  match Text.ofBase64 value.utf8 with
  | .error e => fail ("Base64 decode error: ".toList ++ e.message)
  | .ok bytes =>
    match Text.ofUtf8 bytes with
    | .error e => fail ("UTF-8 decode error: ".toList ++ e.message)
    | .ok t => .ok t

end Placeholders.Builtin

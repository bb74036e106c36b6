/-
The choice of an engine written in JSON: an object with a provider and a
strictness, or a list with the two in this order. What is left out has its default,
and fields of other names are passed over.
-/
import Placeholders.Json.Reader
import Placeholders.Render

namespace Placeholders

/-- The one field of a name, read as given, or the default if there is none. A field
that is given twice is an error. -/
def Json.field? {α : Type} (fields : List (Text × Json)) (name : Text) (read : Json → Option α)
    (default : α) : Option α :=
  match fields.filter fun f => f.1 == name with
  | [] => some default
  | [(_, v)] => read v
  | _ => none

/-- The text of a JSON string. -/
def Json.text? : Json → Option Text
  | .string t => some t
  | _ => none

/-- The truth value of a JSON boolean. -/
def Json.bool? : Json → Option Bool
  | .bool b => some b
  | _ => none

/-- The options of a JSON value. -/
def EngineOptions.ofJson? : Json → Option EngineOptions
  | .object fields => do
    let provider ← Json.field? fields "provider".toList Json.text? "minimal".toList
    let strict ← Json.field? fields "strict_mode".toList Json.bool? false
    return ⟨provider, strict⟩
  | .array [] => some {}
  | .array [.string provider] => some ⟨provider, false⟩
  | .array [.string provider, .bool strict] => some ⟨provider, strict⟩
  | _ => none

/-- The options that a JSON text writes. -/
def EngineOptions.readJson? (t : Text) : Option EngineOptions :=
  (Json.read? t).bind EngineOptions.ofJson?

end Placeholders

/-
The two built-in registries. `minimal` trims and adds at either end; `standard`
has all of that and the general text functions.
-/
import Placeholders.Function.Builtin
import Placeholders.Function.Registry

namespace Placeholders

/-- The functions that trim and add at either end. -/
def minimal : Registry :=
  (Registry.empty "minimal".toList)
    |>.registerUnary "trim".toList Text.trim
    |>.register "prefix".toList [.string] Builtin.putBefore
    |>.register "suffix".toList [.string] Builtin.putAfter

/-- Everything in `minimal`, and the general text functions. -/
def standard : Registry :=
  (Registry.empty "standard".toList)
    |>.merge minimal
    |>.registerUnary "trim_start".toList Text.trimStart
    |>.registerUnary "trim_end".toList Text.trimEnd
    |>.registerUnary "upper".toList Text.upper
    |>.registerUnary "lower".toList Text.lower
    |>.registerUnary "capitalize".toList Text.capitalize
    |>.register "default".toList [.string] Builtin.whenEmpty
    |>.register "replace".toList [.string, .string] Builtin.replace
    |>.register "truncate".toList [.integer] Builtin.truncate
    |>.register "repeat".toList [.integer] Builtin.replicate
    |>.register "pad_left".toList [.integer] (Builtin.padLeft Builtin.blankFill)
    |>.register "pad_left".toList [.integer, .string] (Builtin.padLeft Builtin.givenFill)
    |>.register "pad_right".toList [.integer] (Builtin.padRight Builtin.blankFill)
    |>.register "pad_right".toList [.integer, .string] (Builtin.padRight Builtin.givenFill)
    |>.register "round".toList [.integer] Builtin.round
    |>.registerUnary "base64_encode".toList Builtin.encodeBase64
    |>.register "base64_decode".toList [] Builtin.decodeBase64

/-- The built-in registries in the order in which they are offered. -/
def builtins : List Registry := [minimal, standard]

/-- The built-in registry of a name. -/
def builtin? (name : Text) : Option Registry := builtins.find? fun r => r.name == name

end Placeholders

/-
Parameters written in JSON: an object of scalars. A whole number beyond 64 bits is
a float; null, lists and objects are no parameter values.
-/
import Placeholders.Json.Reader
import Placeholders.Params.Basic

namespace Placeholders

/-- The parameter value of a JSON scalar. -/
def ParamValue.ofJson? : Json → Option ParamValue
  | .bool b => some (.bool b)
  | .integer n => some (.ofWhole n)
  | .float x => some (.float x)
  | .string t => some (.string t)
  | _ => none

/-- The parameters of a JSON object; the last value for a key counts. -/
def Params.ofJson? : Json → Option Params
  | .object fields =>
    (fields.mapM fun (f : Text × Json) => (ParamValue.ofJson? f.2).map (f.1, ·)).map Params.ofList
  | _ => none

/-- The parameters that a JSON text writes. -/
def Params.readJson? (t : Text) : Option Params := (Json.read? t).bind Params.ofJson?

end Placeholders

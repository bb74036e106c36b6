/-
Parameters written in YAML: a mapping from texts to scalars. A key is taken as
text however it is written; null, sequences and mappings are no parameter values.
-/
import Placeholders.Params.Basic
import Placeholders.Yaml.Schema

namespace Placeholders

/-- The parameter value of a YAML scalar. -/
def ParamValue.ofYaml? : Yaml.Value → Option ParamValue
  | .null => none
  | .bool b => some (.bool b)
  | .integer n => some (.ofWhole n)
  | .float x => some (.float x)
  | .string t => some (.string t)

/-- The parameters of a YAML mapping; the last value for a key counts. -/
def Params.ofYaml? (d : Yaml.Document) (n : Yaml.Node) : Option Params := do
  let entries ← (← d.fields? n).mapM fun (f : Text × Yaml.Node) =>
    ((d.value? f.2).bind ParamValue.ofYaml?).map (f.1, ·)
  return .ofList entries

/-- The parameters that a YAML text writes. -/
def Params.readYaml? (t : Text) : Option Params := do
  let d ← Yaml.Document.ofText? t
  Params.ofYaml? d d.root

end Placeholders

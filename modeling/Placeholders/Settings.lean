/-
The settings of the program. They come from a configuration file or from the
defaults; variables of the environment override single settings, and the command
line overrides the choice of an engine once more.
-/
import Placeholders.Params.OfYaml
import Placeholders.Render
import Placeholders.Text.Blank

namespace Placeholders

/-- How the program logs. -/
structure Logging where
  level : Text := "info".toList
  format : Text := "pretty".toList
deriving DecidableEq, Repr

/-- What can be configured. -/
structure Settings where
  strict : Bool := false
  provider : Text := "minimal".toList
  params : Params := ∅
  logging : Logging := {}

namespace Settings

/-- The logging settings of a mapping with both fields. -/
def loggingOfYaml? (d : Yaml.Document) (n : Yaml.Node) : Option Logging := do
  let fields ← d.fields? n
  let level ← Yaml.Document.field? fields "level".toList d.text? none
  let format ← Yaml.Document.field? fields "format".toList d.text? none
  return { level, format }

/-- The settings that a YAML text writes. A field may be left out, but not be given
twice; fields of other names are passed over. -/
def readYaml? (t : Text) : Option Settings := do
  let d ← Yaml.Document.ofText? t
  let fields ← d.fields? d.root
  let strict ← Yaml.Document.field? fields "strict_mode".toList d.bool? (some false)
  let provider ← Yaml.Document.field? fields "provider".toList d.text? (some "minimal".toList)
  let params ← Yaml.Document.field? fields "params".toList (Params.ofYaml? d) (some ∅)
  let logging ← Yaml.Document.field? fields "logging".toList (loggingOfYaml? d) (some {})
  return { strict, provider, params, logging }

/-- The truth value of a word, in any case and with blanks around it. -/
def boolWord? (t : Text) : Option Bool :=
  let word := t.trim.asciiLower
  if ["true".toList, "1".toList, "yes".toList, "on".toList].contains word then some true
  else if ["false".toList, "0".toList, "no".toList, "off".toList].contains word then some false
  else none

/-- The variables that override settings. -/
structure Overrides where
  strict : Option Text := none
  provider : Option Text := none
  level : Option Text := none
  format : Option Text := none
deriving DecidableEq, Repr

/-- The overrides among the variables of an environment. -/
def Overrides.ofLookup (lookup : Text → Option Text) : Overrides where
  strict := lookup "SUBSTITUTOR_STRICT".toList
  provider := lookup "SUBSTITUTOR_PROVIDER".toList
  level := lookup "SUBSTITUTOR_LOG_LEVEL".toList
  format := lookup "SUBSTITUTOR_LOG_FORMAT".toList

/-- Overrides settings in place, one after another. A strictness that is no truth value
is an error, which is the text itself. -/
def merge (o : Overrides) : ExceptT Text (StateM Settings) Unit := do
  if let some word := o.strict then
    match boolWord? word with
    | some strict => modify fun s => { s with strict }
    | none => throw word
  if let some provider := o.provider then
    modify fun s => { s with provider }
  if let some level := o.level then
    modify fun s => { s with logging := { s.logging with level } }
  if let some format := o.format then
    modify fun s => { s with logging := { s.logging with format } }

/-- What merging comes to, and the settings that it leaves behind. -/
def merged (s : Settings) (o : Overrides) : Except Text Unit × Settings :=
  StateT.run (ExceptT.run (merge o)) s

/-- The settings with overrides, unless one of them is an error. -/
def override (s : Settings) (o : Overrides) : Except Text Settings :=
  match s.merged o with
  | (.ok (), after) => .ok after
  | (.error word, _) => .error word

/-- The choice of an engine, with what the command line says about it. -/
def engineOptions (s : Settings) (provider : Option Text) (strict : Bool) : EngineOptions :=
  ⟨provider.getD s.provider, strict || s.strict⟩

end Settings
end Placeholders

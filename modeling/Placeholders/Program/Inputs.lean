/-
What a command works on: settings, parameters and a pattern. Parameters of the
settings give way to those of a file, and those to the variables of the command
line; the last variable for a key counts.
-/
import Placeholders.Program.Failure
import Placeholders.CommandLine.Parse
import Placeholders.Params.OfJson
import Placeholders.Settings

namespace Placeholders
open CommandLine (PatternSource)

/-- The parameters of variables written as key, equals sign and value. The first one
without an equals sign is the error. -/
def Params.ofVariables (words : List Text) : Except Text Params :=
  (words.mapM fun (word : Text) =>
    match word.cutAt '=' with
    | some (key, value) => Except.ok (key, ParamValue.string value)
    | none => .error word).map Params.ofList

/-- The format of a parameter file, told by the extension of its name. -/
def ParamsFormat.ofPath (path : Text) : ParamsFormat :=
  if (Path.extension? path).any fun e => e.asciiLower == "json".toList then .json else .yaml

/-- The parameters that a text writes in a format. -/
def Params.read? : ParamsFormat → Text → Option Params
  | .json => Params.readJson?
  | .yaml => Params.readYaml?

/-- The parameters of a file with some content. -/
def Params.ofContent (path content : Text) : Except Failure Params :=
  let format := ParamsFormat.ofPath path
  match Params.read? format content with
  | some params => .ok params
  | none => .error (.invalidParams path format)

/-- The parameters of the settings, of a file and of variables, the later ones winning. -/
def mergeParams (settings : Settings) (file : Option Params) (vars : Params) : Params :=
  (settings.params.extend (file.getD ∅)).extend vars

/-- Where settings are looked for in the working directory, in order. -/
def settingsNames : List Text :=
  ["substitutor.yaml".toList, "substitutor.yml".toList, ".substitutor.yaml".toList,
   ".substitutor.yml".toList]

/-- The place of the settings below the home directory. -/
def homeSettings (home : Text) : Text :=
  Path.below (Path.below home ".substitutor".toList) "config.yaml".toList

/-- The settings of a file with some content. -/
def Settings.ofContent (path content : Text) : Except Failure Settings :=
  match Settings.readYaml? content with
  | some settings => .ok settings
  | none => .error (.invalidSettings path)

variable {m : Type → Type} [Monad m]

namespace Host

/-- The parameters of a file. -/
def loadParams (host : Host m) (path : Text) : Action m Params := do
  let content ← Action.ofExcept (.unreadableParams path) (← Action.ofHost (host.readText path))
  Action.ofExcept id (Params.ofContent path content)

/-- The pattern from the command line, from a file or from the standard input. -/
def loadPattern (host : Host m) (source : PatternSource) : Action m Text :=
  match source.pattern, source.file with
  | some pattern, _ => pure pattern
  | none, some path => do
    Action.ofExcept (.unreadablePattern path) (← Action.ofHost (host.readText path))
  | none, none => do
    Action.ofExcept .unreadableInput (textOfBytes (← Action.ofHost host.input))

/-- The parameters of the settings, of a file if there is one, and of variables. -/
def collectParams (host : Host m) (settings : Settings) (path : Option Text) (vars : List Text) :
    Action m Params := do
  let file ← path.mapM host.loadParams
  let vars ← Action.ofExcept .malformedVariable (Params.ofVariables vars)
  return mergeParams settings file vars

/-- The first of some paths that leads somewhere. -/
def findPath (host : Host m) : List Text → m (Option Text)
  | [] => pure none
  | path :: paths => do
    if ← host.pathExists path then return some path else host.findPath paths

/-- The settings file: the given one, or the first of those that are looked for,
of which the one in the home directory comes first. -/
def settingsPath (host : Host m) (given : Option Text) : m (Option Text) := do
  match given with
  | some path => host.findPath [path]
  | none =>
    let home ← host.home
    host.findPath ((home.map homeSettings).toList ++ settingsNames)

/-- The variables of the environment that override settings. -/
def overrides (host : Host m) : m Settings.Overrides := do
  return {
    strict := ← host.environmentVariable "SUBSTITUTOR_STRICT".toList
    provider := ← host.environmentVariable "SUBSTITUTOR_PROVIDER".toList
    level := ← host.environmentVariable "SUBSTITUTOR_LOG_LEVEL".toList
    format := ← host.environmentVariable "SUBSTITUTOR_LOG_FORMAT".toList }

/-- The settings: those of the file, if there is one, with the overrides of the environment. -/
def loadSettings (host : Host m) (given : Option Text) : Action m Settings := do
  let base : Settings ← match ← Action.ofHost (host.settingsPath given) with
    | none => pure {}
    | some path => do
      let content ← Action.ofExcept .unreadableSettings (← Action.ofHost (host.readText path))
      Action.ofExcept id (Settings.ofContent path content)
  Action.ofExcept .invalidStrictness (base.override (← Action.ofHost host.overrides))

end Host
end Placeholders

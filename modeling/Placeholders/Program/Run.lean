/-
The three commands and the program. A command that fails has written nothing: it
writes when all that can fail has been done, apart from the writing itself.
-/
import Placeholders.Program.Inputs
import Placeholders.Inspect

namespace Placeholders
open CommandLine (Command Invocation PatternSource Refusal RenderRequest)

/-- Renders for the render command: makes the engine, then renders. -/
def RenderRequest.renderWith (options : EngineOptions) (params : Params) (pattern : Text) :
    Outcome Failure Rendered :=
  match options.engine with
  | .error e => refuse (.noEngine e)
  | .ok engine => (engine.render params pattern).mapError .substitution

/-- The text of the functions command. -/
def Registry.overview (r : Registry) : Text :=
  "Functions in provider '".toList ++ r.name ++ "':\n".toList
    ++ r.signatures.flatMap fun s => "  ".toList ++ s.toText ++ ['\n']

/-- The text of the inspect command. -/
def inspection (json : Bool) (pattern : Text) : Text :=
  let segments := inspect pattern
  if json then (Json.array (segments.map SegmentView.toJson)).pretty ++ ['\n'] else listing segments

variable {m : Type → Type} [Monad m]

namespace Host

/-- The render command: the text goes to the output file if one is named, and else
to the standard output; tolerated problems are reported on request. -/
def render (host : Host m) (settings : Settings) (request : RenderRequest) : Action m Unit := do
  let pattern ← host.loadPattern request.source
  let params ← host.collectParams settings request.params request.vars
  let options := settings.engineOptions request.provider request.strict
  let rendered ← Action.ofOutcome (RenderRequest.renderWith options params pattern)
  if request.report then
    Action.ofHost (host.report (rendered.diagnostics.flatMap fun d => d.message ++ ['\n']))
  match request.output with
  | some path =>
    Action.ofExcept (.unwritableOutput path) (← Action.ofHost (host.writeFile path rendered.text))
  | none => Action.ofHost (host.print rendered.text)

/-- The functions command. -/
def listFunctions (host : Host m) (settings : Settings) (provider : Option Text) :
    Action m Unit := do
  let name := provider.getD settings.provider
  match builtin? name with
  | some registry => Action.ofHost (host.print registry.overview)
  | none => Action.ofOutcome (refuse (.unknownProvider name (builtins.map Registry.name)))

/-- The inspect command. -/
def inspectPattern (host : Host m) (source : PatternSource) (json : Bool) : Action m Unit := do
  Action.ofHost (host.print (inspection json (← host.loadPattern source)))

/-- A command of the command line. -/
def runCommand (host : Host m) (settings : Settings) : Command → Action m Unit
  | .render request => host.render settings request
  | .functions provider => host.listFunctions settings provider
  | .inspect source json => host.inspectPattern source json

/-- Loads the settings and runs the command. -/
def runInvocation (host : Host m) (i : Invocation) : Action m Unit := do
  let settings ← host.loadSettings i.config
  host.runCommand settings i.command

end Host

/-- How the process ends. -/
inductive Exit
  | success
  | failure
  | usage
  | aborted
deriving DecidableEq, Repr

/-- The code that a process ends with. -/
def Exit.code : Exit → Nat
  | success => 0
  | failure => 1
  | usage => 2
  | aborted => 101

/-- The name and version of the program. -/
def versionText : Text := "substitutor 0.1.0\n".toList

/-- The program on its arguments. Usage texts are given by the caller. -/
def Host.main (host : Host m) (usage : Refusal → Text) (arguments : List Text) : m Exit := do
  match CommandLine.parse arguments with
  | .error .version =>
    host.print versionText
    return .success
  | .error (.help command) =>
    host.print (usage (.help command))
    return .success
  | .error refusal =>
    host.report (usage refusal)
    return .usage
  | .ok invocation =>
    match ← (host.runInvocation invocation).run with
    | .ok _ => return .success
    | .error (.error e) =>
      host.report ("Error: ".toList ++ e.message ++ ['\n'])
      return .failure
    | .error .abort => return .aborted

end Placeholders

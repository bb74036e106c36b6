/-
Rendering a pattern. Each placeholder is replaced by the text of its parameter,
run through the pipeline; literal text is copied, and inserted text is not
scanned again. What cannot be done is an issue: a strict engine ends with the
first one, a lenient engine notes it and goes on, with the placeholder left as it
stands if its key is unknown, and with the running value if a stage fails.
-/
import Placeholders.Argument.Coercion
import Placeholders.Diagnostic
import Placeholders.Function.Library
import Placeholders.Params.Basic
import Placeholders.Pattern.Expression
import Placeholders.Pattern.Segment
import Placeholders.Text.Quoted

namespace Placeholders
open Pattern (Call Expression Segment enclose scan)

/-- A rendered pattern and the problems that were tolerated. -/
structure Rendered where
  text : Text
  diagnostics : List Diagnostic
deriving DecidableEq, Repr

namespace Rendered

/-- Was nothing tolerated? -/
def isClean (r : Rendered) : Bool := r.diagnostics.isEmpty

/-- One rendering after another. -/
def append (a b : Rendered) : Rendered := ⟨a.text ++ b.text, a.diagnostics ++ b.diagnostics⟩

end Rendered

/-- What calls are resolved against, and what happens to issues. -/
structure Engine where
  provider : Provider
  mode : Mode

namespace Engine

/-- The type of an argument token; an unsupported token is noted and passed on as raw text. -/
def typeOf (mode : Mode) (token : Text) : Noting ArgType :=
  match ArgType.ofToken? token with
  | some type => pure type
  | none => do
    note mode .warning (.unsupportedArgumentType token)
    return .any

/-- Calls a function at known argument types. -/
def invoke (provider : Provider) (value : Text) (call : Call) (types : List ArgType) :
    Outcome SubstitutionError Text :=
  match Argument.ofTokens call.function call.args types with
  | .error e => .error e
  | .ok args =>
    match provider.resolve ⟨call.function, types⟩ with
    | none => refuse (.functionNotFound call.function types provider.name)
    | some f => (f value args).mapError (.invocationFailed call.function provider.name)

/-- Runs the value through one stage of the pipeline of a key. -/
def runStage (engine : Engine) (key value : Text) : Option Call → Noting Text
  | none => Noting.ofStage engine.mode value (refuse (.emptyStage key))
  | some call => do
    let types ← call.args.mapM (typeOf engine.mode)
    Noting.ofStage engine.mode value (invoke engine.provider value call types)

/-- The text that replaces a placeholder. -/
def evaluate (engine : Engine) (params : Params) (body : Text) : Noting Text :=
  let expression := Expression.parse body
  match params.get? expression.key with
  | none => do
    note engine.mode .warning (.missingKey expression.key)
    return enclose body
  | some value => expression.calls.foldlM (engine.runStage expression.key) value.toText

/-- Renders one segment. -/
def renderSegment (engine : Engine) (params : Params) :
    Segment → Outcome SubstitutionError Rendered
  | .literal t => .ok ⟨t, []⟩
  | .placeholder body =>
    (engine.evaluate params body).run.map fun (t, issues) =>
      ⟨t, issues.map (Diagnostic.mk (enclose body))⟩

/-- Renders segments in order, up to the first that fails. -/
def renderSegments (engine : Engine) (params : Params) (segments : List Segment) :
    Outcome SubstitutionError Rendered :=
  (segments.mapM (engine.renderSegment params)).map fun parts =>
    ⟨parts.flatMap Rendered.text, parts.flatMap Rendered.diagnostics⟩

/-- Renders a pattern. -/
def render (engine : Engine) (params : Params) (pattern : Text) :
    Outcome SubstitutionError Rendered :=
  engine.renderSegments params (scan pattern)

/-- The text alone of a rendered pattern. -/
def substitute (engine : Engine) (params : Params) (pattern : Text) :
    Outcome SubstitutionError Text :=
  (engine.render params pattern).map Rendered.text

/-- A lenient engine. -/
def lenient (provider : Provider) : Engine := ⟨provider, .lenient⟩

/-- Does the engine end at the first issue? -/
def isStrict (engine : Engine) : Bool := engine.mode == .strict

/-- The engine in words, for logs. -/
def toText (engine : Engine) : Text :=
  "Substitutor \x7b provider: ".toList ++ engine.provider.name.quoted ++ ", strict_mode: ".toList
    ++ Text.ofBool engine.isStrict ++ " \x7d".toList

end Engine

/-- The choices that an engine is made from. -/
structure EngineOptions where
  provider : Text := "minimal".toList
  strict : Bool := false
deriving DecidableEq, Repr

/-- The mode that a strictness flag stands for. -/
def Mode.ofStrict (strict : Bool) : Mode := if strict then .strict else .lenient

/-- The engine for a choice of options. A name that no built-in registry has is an
error for a strict engine; a lenient one then resolves nothing under that name. -/
def EngineOptions.engine (options : EngineOptions) : Except SubstitutionError Engine :=
  match builtin? options.provider with
  | some registry => .ok ⟨registry.toProvider, .ofStrict options.strict⟩
  | none =>
    if options.strict then .error (.unknownProvider options.provider)
    else .ok ⟨(Registry.empty options.provider).toProvider, .lenient⟩

/-- The registry in words, for logs. -/
def Registry.toText (r : Registry) : Text :=
  "FunctionRegistry \x7b name: ".toList ++ r.name.quoted ++ ", count: ".toList
    ++ Text.ofNat r.size ++ " \x7d".toList

end Placeholders

/-
The body of a placeholder: a key, then the stages of a pipeline, separated by
bars. Bars at the end of a body separate nothing. A stage is a call, that is a
function name and argument tokens, or it is blank.
-/
import Placeholders.Pattern.Token

namespace Placeholders.Pattern

/-- A function name and the argument tokens after it. -/
structure Call where
  function : Text
  args : List Text
deriving DecidableEq, Repr

/-- The call that a stage writes; a blank stage writes none. -/
def Call.parse? (stage : Text) : Option Call :=
  match tokenize stage with
  | [] => none
  | function :: args => some ⟨function, args⟩

/-- A parsed body; key and stages are trimmed. -/
structure Expression where
  key : Text
  stages : List Text
deriving DecidableEq, Repr

namespace Expression

/-- The body without the bars at its end. -/
def dropFinalBars (body : Text) : Text := (body.reverse.dropWhile (· == '|')).reverse

/-- Splits a body at its bars. -/
def parse (body : Text) : Expression :=
  match ((dropFinalBars body).splitOn '|').map Text.trim with
  | [] => ⟨[], []⟩
  | key :: stages => ⟨key, stages⟩

/-- The calls of the stages in order; a blank stage has none. -/
def calls (e : Expression) : List (Option Call) := e.stages.map Call.parse?

end Expression
end Placeholders.Pattern

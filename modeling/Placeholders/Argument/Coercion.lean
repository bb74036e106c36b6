/-
From tokens to arguments: the type that a token's shape stands for, and the
value of a token at a type. The two agree on every token, so a token is never
cut in the wrong place when its own type is used.
-/
import Placeholders.Number.Reading
import Placeholders.Pattern.Token
import Placeholders.Problem

namespace Placeholders
open Pattern (TokenKind)

/-- The type that a kind of token stands for. -/
def ArgType.ofKind : TokenKind → ArgType
  | .stringLiteral => .string
  | .integer => .integer
  | .float => .float
  | .opaqueText => .any

/-- The type of an argument token; there is none for an opaque token, nor for an
integer that does not fit 64 bits. -/
def ArgType.ofToken? (token : Text) : Option ArgType :=
  match TokenKind.of token with
  | .opaqueText => none
  | .integer => if (Number.readInt64? token).isSome then some .integer else none
  | kind => some (.ofKind kind)

/-- The text between the first and the last character, which have to be ASCII. -/
def unquote? : Text → Option Text
  | [] => none
  | first :: r =>
    match r.getLast? with
    | some last => if first.utf8Size = 1 ∧ last.utf8Size = 1 then some r.dropLast else none
    | none => none

/-- The value of a token at a type. A string loses its quotes, and there is no
value when it has none to lose; a number that cannot be read is raw text. -/
def Argument.ofToken? (token : Text) : ArgType → Option Argument
  | .string => (unquote? token).map .string
  | .integer => some ((Number.readInt64? token).elim (.raw token) .integer)
  | .float => some ((Number.readBinary64? token).elim (.raw token) .float)
  | .any => some (.raw token)

/-- The values of the tokens of a call, each at its type. A token without a value
at its type is a mistake of the caller and ends the process. -/
def Argument.ofTokens (function : Text) (tokens : List Text) (types : List ArgType) :
    Outcome SubstitutionError (List Argument) :=
  if tokens.length = types.length then
    match (tokens.zip types).mapM fun (token, type) => Argument.ofToken? token type with
    | some args => .ok args
    | none => abort
  else refuse (.argumentCount function tokens.length types.length)

end Placeholders

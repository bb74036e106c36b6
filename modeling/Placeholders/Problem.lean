/-
What can go wrong while a pattern is rendered: the error of a function, the
error of a substitution, and the words for each. A computation ends in a value,
in an error, or in an abort of the whole process, which no error describes.
-/
import Placeholders.Argument.Basic

namespace Placeholders

/-- Why there is no value: an error, or the process aborts. -/
inductive Fault (ε : Type)
  | error (e : ε)
  | abort
deriving DecidableEq, Repr

/-- A value, an error or an abort. -/
abbrev Outcome (ε α : Type) := Except (Fault ε) α

/-- Ends with an error. -/
def refuse {ε α : Type} (e : ε) : Outcome ε α := .error (.error e)

/-- Ends the process. -/
def abort {ε α : Type} : Outcome ε α := .error .abort

/-- The same outcome with the error restated. -/
def Outcome.mapError {ε δ α : Type} (f : ε → δ) : Outcome ε α → Outcome δ α
  | .ok a => .ok a
  | .error (.error e) => refuse (f e)
  | .error .abort => abort

/-- Why a function has no result. Positions count from zero. -/
inductive FunctionError
  | missingArgument (position : Nat)
  | invalidArgument (position : Nat) (expected : ArgType)
  | failed (reason : Text)
deriving DecidableEq, Repr

/-- The words for a function's error. -/
def FunctionError.message : FunctionError → Text
  | missingArgument position => "missing argument at position ".toList ++ Text.ofNat position
  | invalidArgument position expected =>
    "argument at position ".toList ++ Text.ofNat position ++ " must be ".toList ++ expected.label
  | failed reason => reason

/-- Why a placeholder, a stage or an argument cannot be used as written. -/
inductive SubstitutionError
  | missingKey (key : Text)
  | functionNotFound (function : Text) (types : List ArgType) (provider : Text)
  | invocationFailed (function : Text) (provider : Text) (reason : FunctionError)
  | unsupportedArgumentType (token : Text)
  | argumentCount (function : Text) (tokens : Nat) (types : Nat)
  | emptyStage (key : Text)
  | unknownProvider (name : Text)
deriving DecidableEq, Repr

namespace SubstitutionError

/-- The words for a substitution error. -/
def message : SubstitutionError → Text
  | missingKey key => "param map does not contain key: ".toList ++ key
  | functionNotFound function types provider =>
    "cannot find function '".toList ++ function ++ "(".toList ++ signatureText types
      ++ ")' in provider '".toList ++ provider ++ "'".toList
  | invocationFailed function provider reason =>
    "function '".toList ++ function ++ "' in provider '".toList ++ provider
      ++ "' failed: ".toList ++ reason.message
  | unsupportedArgumentType token =>
    "type of argument ".toList ++ token ++ " is not supported".toList
  | argumentCount function tokens types =>
    "argument count ".toList ++ Text.ofNat tokens ++ " does not match type count ".toList
      ++ Text.ofNat types ++ " for '".toList ++ function ++ "'".toList
  | emptyStage key => "empty pipeline stage after key '".toList ++ key ++ "'".toList
  | unknownProvider name => "unknown function provider: ".toList ++ name

/-- Did the error come from looking up or calling a function? -/
def isDispatch : SubstitutionError → Bool
  | functionNotFound .. | invocationFailed .. => true
  | _ => false

end SubstitutionError
end Placeholders

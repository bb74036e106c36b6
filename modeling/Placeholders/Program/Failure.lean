/-
Why a command ends without its result, and the words for it. The words of an
error in a file name the file and not the place in it.
-/
import Placeholders.Host.Basic
import Placeholders.Problem

namespace Placeholders

/-- How parameters are written in a file. -/
inductive ParamsFormat
  | json
  | yaml
deriving DecidableEq, Repr

/-- The name of a format. -/
def ParamsFormat.label : ParamsFormat → Text
  | json => "JSON".toList
  | yaml => "YAML".toList

/-- Why a command fails. -/
inductive Failure
  | unreadableInput (e : FileError)
  | unreadablePattern (path : Text) (e : FileError)
  | unreadableParams (path : Text) (e : FileError)
  | unreadableSettings (e : FileError)
  | invalidParams (path : Text) (format : ParamsFormat)
  | invalidSettings (path : Text)
  | invalidStrictness (word : Text)
  | malformedVariable (word : Text)
  | unknownProvider (name : Text) (available : List Text)
  | noEngine (e : SubstitutionError)
  | substitution (e : SubstitutionError)
  | unwritableOutput (path : Text) (e : FileError)
deriving DecidableEq, Repr

/-- The words for a failure. -/
def Failure.message : Failure → Text
  | unreadableInput e => e.message
  | unreadablePattern path e =>
    "Failed to read pattern file '".toList ++ path ++ "': ".toList ++ e.message
  | unreadableParams path e =>
    "Failed to read params file '".toList ++ path ++ "': ".toList ++ e.message
  | unreadableSettings e => e.message
  | invalidParams path format =>
    "Invalid ".toList ++ format.label ++ " params in '".toList ++ path ++ "'".toList
  | invalidSettings path => "Invalid config file '".toList ++ path ++ "'".toList
  | invalidStrictness word =>
    "SUBSTITUTOR_STRICT must be a boolean, got '".toList ++ word ++ "'".toList
  | malformedVariable word =>
    "Invalid variable format '".toList ++ word ++ "'. Expected 'key=value'".toList
  | unknownProvider name available =>
    "Unknown function provider '".toList ++ name ++ "'. Available providers: ".toList
      ++ List.intercalate ", ".toList available
  | noEngine e => "Failed to create substitutor: ".toList ++ e.message
  | substitution e => "Substitution failed: ".toList ++ e.message
  | unwritableOutput path e =>
    "Failed to write output file '".toList ++ path ++ "': ".toList ++ e.message

/-- An action of a command: it acts on a host, and may fail. -/
abbrev Action (m : Type → Type) (α : Type) := ExceptT (Fault Failure) m α

namespace Action

/-- Goes on with an outcome. -/
def ofOutcome {m : Type → Type} [Monad m] {α : Type} (x : Outcome Failure α) : Action m α :=
  ExceptT.mk (pure x)

/-- Goes on with a value, or fails with an error restated. -/
def ofExcept {m : Type → Type} [Monad m] {ε α : Type} (f : ε → Failure) (x : Except ε α) :
    Action m α :=
  ofOutcome (x.mapError fun e => .error (f e))

/-- An action of the host that does not fail. -/
def ofHost {m : Type → Type} [Monad m] {α : Type} (x : m α) : Action m α := ExceptT.lift x

end Action
end Placeholders

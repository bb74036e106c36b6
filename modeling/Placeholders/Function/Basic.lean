/-
Pipeline functions. A function takes the running value and the arguments of its
call, and fetches its arguments by position; what is missing or of another type
is an error that names the position.
-/
import Placeholders.Problem

namespace Placeholders
open Number (Binary64)

/-- A pipeline function: the running value and the arguments give the next value. -/
abbrev PipeFunction := Text → List Argument → Outcome FunctionError Text

/-- Fetches an argument by position and reads it at a type. -/
def fetch {α : Type} (expected : ArgType) (read : Argument → Option α) (args : List Argument)
    (position : Nat) : Outcome FunctionError α :=
  match args[position]? with
  | none => refuse (.missingArgument position)
  | some arg =>
    match read arg with
    | none => refuse (.invalidArgument position expected)
    | some a => .ok a

/-- A text argument. -/
def fetchText : List Argument → Nat → Outcome FunctionError Text := fetch .string Argument.text?

/-- An integer argument. -/
def fetchInt : List Argument → Nat → Outcome FunctionError Int := fetch .integer Argument.integer?

/-- An integer argument that counts something, so it is not negative. -/
def fetchCount : List Argument → Nat → Outcome FunctionError Nat :=
  fetch .integer fun arg => arg.integer?.bind Int.toNat?

/-- A float argument; an integer is widened. -/
def fetchFloat : List Argument → Nat → Outcome FunctionError Binary64 :=
  fetch .float Argument.float?

end Placeholders

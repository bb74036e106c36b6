/-
The arguments of a pipeline call and their types. A value without a type of its
own is raw text, and its type is `any`.
-/
import Placeholders.Number.Binary64
import Placeholders.Text.Basic

namespace Placeholders
open Number (Binary64)

/-- The declared type of an argument. -/
inductive ArgType
  | string
  | integer
  | float
  | any
deriving DecidableEq, Repr

namespace ArgType

/-- The word for a type in signatures and messages. -/
def label : ArgType → Text
  | string => "string".toList
  | integer => "int".toList
  | float => "float".toList
  | any => "any".toList

/-- The place of a type in the order of signatures. -/
def rank : ArgType → Nat
  | string => 0
  | integer => 1
  | float => 2
  | any => 3

theorem rank_injective {a b : ArgType} (h : a.rank = b.rank) : a = b := by
  cases a <;> cases b <;> simp_all [rank]

instance : Ord ArgType := ⟨compareOn rank⟩

instance : Std.TransOrd ArgType := inferInstanceAs (Std.TransCmp (compareOn rank))

instance : Std.LawfulEqOrd ArgType where
  eq_of_compare h := rank_injective (Std.LawfulEqOrd.eq_of_compare (α := Nat) h)

end ArgType

/-- The value of an argument. -/
inductive Argument
  | string (text : Text)
  | integer (value : Int)
  | float (value : Binary64)
  | raw (text : Text)
deriving DecidableEq, Repr

namespace Argument

/-- The type of a value. -/
def type : Argument → ArgType
  | string _ => .string
  | integer _ => .integer
  | float _ => .float
  | raw _ => .any

/-- The text of a string or of raw text. -/
def text? : Argument → Option Text
  | string t | raw t => some t
  | _ => none

/-- The value of an integer. -/
def integer? : Argument → Option Int
  | integer n => some n
  | _ => none

/-- The value of a float; an integer is widened to the nearest one. -/
def float? : Argument → Option Binary64
  | float x => some x
  | integer n => some (.ofInt n)
  | _ => none

end Argument

/-- The parameter list of a function with these argument types. The piped value
is a string and comes first. -/
def signatureText (types : List ArgType) : Text :=
  List.intercalate ", ".toList ("string".toList :: types.map ArgType.label)

end Placeholders

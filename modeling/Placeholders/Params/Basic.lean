/-
Parameters: scalar values by name, listed in the order of their names. A
pipeline sees only the text of a value.
-/
import Placeholders.Number.Integer
import Placeholders.Number.Shortest
import Std.Data.TreeMap.Lemmas

namespace Placeholders
open Number (Binary64)

/-- The value of a parameter. -/
inductive ParamValue
  | bool (b : Bool)
  | integer (n : Int)
  | float (x : Binary64)
  | string (t : Text)
deriving DecidableEq, Repr

/-- The text that a pipeline starts from. -/
def ParamValue.toText : ParamValue → Text
  | bool b => Text.ofBool b
  | integer n => Text.ofInt n
  | float x => x.toText
  | string t => t

/-- A whole number as a parameter value; one that does not fit 64 bits is a float. -/
def ParamValue.ofWhole (n : Int) : ParamValue :=
  if Number.minInt64 ≤ n ∧ n ≤ Number.maxInt64 then .integer n else .float (.ofInt n)

/-- Values by name; names differ by case too. -/
structure Params where
  entries : Std.TreeMap Text ParamValue

namespace Params

/-- No parameters. -/
def empty : Params := ⟨∅⟩

instance : EmptyCollection Params := ⟨empty⟩

/-- Sets a parameter; a value it had is replaced. -/
def insert (p : Params) (key : Text) (value : ParamValue) : Params :=
  ⟨p.entries.insert key value⟩

/-- The value of a parameter. -/
def get? (p : Params) (key : Text) : Option ParamValue := p.entries[key]?

/-- Is there such a parameter? -/
def contains (p : Params) (key : Text) : Bool := p.entries.contains key

/-- Adds all of `other`, whose values win. -/
def extend (p other : Params) : Params := ⟨p.entries ∪ other.entries⟩

/-- Sets the entries of a list in order, so the last one for a key wins. -/
def ofList (entries : List (Text × ParamValue)) : Params :=
  entries.foldl (fun p (key, value) => p.insert key value) empty

/-- The entries, by key in ascending order. -/
def toList (p : Params) : List (Text × ParamValue) := p.entries.toList

/-- The number of parameters. -/
def size (p : Params) : Nat := p.entries.size

@[simp] theorem get?_empty (key : Text) : (∅ : Params).get? key = none :=
  Std.TreeMap.getElem?_emptyc

theorem get?_insert (p : Params) (key : Text) (value : ParamValue) (k : Text) :
    (p.insert key value).get? k = if key = k then some value else p.get? k := by
  simp [get?, insert, Std.TreeMap.getElem?_insert]

theorem get?_extend (p other : Params) (k : Text) :
    (p.extend other).get? k = (other.get? k).or (p.get? k) := by
  simp [get?, extend, Std.TreeMap.getElem?_union]

theorem contains_eq (p : Params) (k : Text) : p.contains k = (p.get? k).isSome := by
  simp [get?, contains, Std.TreeMap.isSome_getElem?_eq_contains]

theorem contains_eq_false {p : Params} {k : Text} : p.contains k = false ↔ p.get? k = none := by
  rw [contains_eq, Option.isSome_eq_false_iff, Option.isNone_iff_eq_none]

end Params
end Placeholders

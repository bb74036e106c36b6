/-
Functions kept by name and argument types. A registry holds at most one function
for a signature, a later registration replaces an earlier one, and signatures
are listed in ascending order: by name, then by argument types.
-/
import Placeholders.Function.Basic
import Std.Data.TreeMap.Lemmas

namespace Placeholders

/-- What a function is looked up by. -/
structure Signature where
  name : Text
  types : List ArgType
deriving DecidableEq, Repr

namespace Signature

instance : Ord Signature := ⟨compareLex (compareOn name) (compareOn types)⟩

instance : Std.TransOrd Signature :=
  inferInstanceAs (Std.TransCmp (compareLex (compareOn name) (compareOn types)))

instance : Std.LawfulEqOrd Signature where
  eq_of_compare {a b} h := by
    obtain ⟨h1, h2⟩ := Ordering.then_eq_eq.1 h
    have hn : a.name = b.name := Std.LawfulEqOrd.eq_of_compare (α := Text) h1
    have ht : a.types = b.types := Std.LawfulEqOrd.eq_of_compare (α := List ArgType) h2
    cases a; cases b; simp_all

/-- The name, and the parameter list in parentheses. -/
def toText (s : Signature) : Text :=
  s.name ++ '(' :: (signatureText s.types ++ [')'])

end Signature

/-- A named set of functions that calls are resolved against. -/
structure Provider where
  name : Text
  resolve : Signature → Option PipeFunction

/-- A provider that is filled by registration. -/
structure Registry where
  name : Text
  functions : Std.TreeMap Signature PipeFunction

namespace Registry

/-- A registry without functions. -/
def empty (name : Text) : Registry := ⟨name, ∅⟩

/-- The function registered under exactly this signature. -/
def resolve (r : Registry) (s : Signature) : Option PipeFunction := r.functions[s]?

/-- Adds a function; the one it had under the signature is replaced. -/
def register (r : Registry) (name : Text) (types : List ArgType) (f : PipeFunction) : Registry :=
  { r with functions := r.functions.insert ⟨name, types⟩ f }

/-- Adds a function that takes no arguments and always has a result. -/
def registerUnary (r : Registry) (name : Text) (f : Text → Text) : Registry :=
  r.register name [] fun value _ => .ok (f value)

/-- Adds every function of another registry. -/
def merge (r other : Registry) : Registry :=
  { r with functions := r.functions ∪ other.functions }

/-- The number of functions. -/
def size (r : Registry) : Nat := r.functions.size

/-- The registered signatures in ascending order. -/
def signatures (r : Registry) : List Signature := r.functions.keys

theorem resolve_empty (name : Text) (s : Signature) : (empty name).resolve s = none :=
  Std.TreeMap.getElem?_emptyc

theorem resolve_register (r : Registry) (name : Text) (types : List ArgType) (f : PipeFunction)
    (s : Signature) :
    (r.register name types f).resolve s = if ⟨name, types⟩ = s then some f else r.resolve s := by
  simp [resolve, register, Std.TreeMap.getElem?_insert]

theorem resolve_merge (r other : Registry) (s : Signature) :
    (r.merge other).resolve s = (other.resolve s).or (r.resolve s) := by
  simp [resolve, merge, Std.TreeMap.getElem?_union]

/-- The registry as a provider. -/
def toProvider (r : Registry) : Provider := ⟨r.name, r.resolve⟩

end Registry
end Placeholders

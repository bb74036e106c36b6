/-
Sets of code points. A set is given by the ascending list of the code points at
which membership changes, so a code point is in it when an odd number of changes
lie at or below it.
-/
namespace Placeholders.Text

/-- Is the code point in the set with these changes? -/
def inCodePoints (changes : List Nat) (n : Nat) : Bool :=
  (changes.takeWhile (· ≤ n)).length % 2 == 1

end Placeholders.Text

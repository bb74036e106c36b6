/-
Rounding a quotient of natural numbers to the nearest whole number, a half to
the even neighbour. Every rounding in the library is this one.
-/
namespace Placeholders.Number

/-- The whole number nearest to `num / den`; of two, the even one. -/
def roundQuotient (num den : Nat) : Nat :=
  let down := num / den
  let twice := 2 * (num % den)
  if twice < den then down
  else if den < twice then down + 1
  else if down % 2 = 0 then down else down + 1

theorem roundQuotient_one (n : Nat) : roundQuotient n 1 = n := by
  simp [roundQuotient, Nat.mod_one]

end Placeholders.Number

/-!
Rounding a quotient of natural numbers to a whole number.
-/

namespace Gazetteer.Number

/-- The whole number nearest to `num / den`; a tie goes to the even one. -/
def roundHalfEven (num den : Nat) : Nat :=
  let quotient := num / den
  let twice := 2 * (num % den)
  if twice < den then quotient else if den < twice then quotient + 1 else quotient + quotient % 2

/-- The whole number nearest to `num / den`; a tie goes to the larger one. -/
def roundHalfUp (num den : Nat) : Nat := (2 * num + den) / (2 * den)

end Gazetteer.Number

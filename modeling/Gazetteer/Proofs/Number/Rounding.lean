import Gazetteer.Number.Rounding
import Mathlib.Algebra.Order.Field.Rat
import Mathlib.Algebra.Ring.Parity
import Mathlib.Tactic.FieldSimp
import Mathlib.Tactic.Linarith
import Mathlib.Tactic.Positivity

/-!
Rounding to whole numbers: the nearest one, and of two that are equally near the even one.
-/

namespace Gazetteer.Number

variable {num den : Nat}

theorem roundHalfUp_le (positive : 0 < den) : roundHalfUp num den ≤ num := by
  have small : num ≤ den * num := Nat.le_mul_of_pos_left num positive
  have below : 2 * num + den < 2 * den * (num + 1) := by
    rw [Nat.mul_assoc, Nat.mul_succ]
    omega
  exact Nat.le_of_lt_succ (Nat.div_lt_of_lt_mul below)

theorem roundHalfUp_mul (positive : 0 < den) (n : Nat) : roundHalfUp (n * den) den = n := by
  have inside : 2 * (n * den) + den = den + 2 * den * n := by
    rw [Nat.mul_assoc, Nat.mul_comm den n, Nat.add_comm]
  rw [roundHalfUp, inside, Nat.add_mul_div_left _ _ (by omega), Nat.div_eq_of_lt (by omega), Nat.zero_add]

theorem roundHalfEven_le (large : 2 ≤ den) : roundHalfEven num den ≤ num := by
  have parts := Nat.div_add_mod num den
  have twice : 2 * (num / den) ≤ den * (num / den) := Nat.mul_le_mul_right _ large
  have even := Nat.mod_le (num / den) 2
  rw [roundHalfEven]
  split
  · omega
  · split <;> omega

/-- The whole number that a number is rounded to, a tie to the even one. -/
def IsNearestEven (q : ℚ) (n : ℤ) : Prop := |q - n| ≤ 1 / 2 ∧ (|q - n| = 1 / 2 → Even n)

theorem isNearestEven_self (n : ℤ) : IsNearestEven n n := by
  constructor <;> norm_num

theorem IsNearestEven.neg {q : ℚ} {n : ℤ} (nearest : IsNearestEven q n) : IsNearestEven (-q) (-n) := by
  have distance : |-q - ((-n : ℤ) : ℚ)| = |q - n| := by rw [Int.cast_neg, neg_sub_neg, abs_sub_comm]
  rw [IsNearestEven, distance]
  exact ⟨nearest.1, fun tie => (nearest.2 tie).neg⟩

theorem isNearestEven_of_lt {q : ℚ} {n : ℤ} (near : |q - n| < 1 / 2) : IsNearestEven q n :=
  ⟨near.le, fun tie => absurd tie near.ne⟩

theorem isNearestEven_of_tie {q : ℚ} {n : ℤ} (tie : |q - n| = 1 / 2) (even : Even n) : IsNearestEven q n :=
  ⟨tie.le, fun _ => even⟩

theorem isNearestEven_roundHalfEven (positive : 0 < den) : IsNearestEven (num / den) (roundHalfEven num den) := by
  have unit : (0 : ℚ) < den := Nat.cast_pos.mpr positive
  have parts : (num : ℚ) / den = (num / den : ℕ) + (num % den : ℕ) / den := by
    rw [eq_comm, ← mul_right_inj' unit.ne', mul_add, mul_div_cancel₀ _ unit.ne', mul_div_cancel₀ _ unit.ne']
    exact_mod_cast Nat.div_add_mod num den
  have small : ((num % den : ℕ) : ℚ) / den < 1 := (div_lt_one unit).mpr (Nat.cast_lt.mpr (Nat.mod_lt _ positive))
  have rest : (0 : ℚ) ≤ (num % den : ℕ) / den := by positivity
  rw [roundHalfEven, parts]
  generalize num / den = a at *
  generalize num % den = b at *
  split
  next below =>
    have half : (b : ℚ) / den < 1 / 2 := by
      rw [div_lt_div_iff₀ unit two_pos]
      exact_mod_cast (by omega : b * 2 < 1 * den)
    refine isNearestEven_of_lt (abs_lt.mpr ?_)
    push_cast
    constructor <;> linarith
  next not_below =>
  split
  next above =>
    have half : 1 / 2 < (b : ℚ) / den := by
      rw [div_lt_div_iff₀ two_pos unit]
      exact_mod_cast (by omega : 1 * den < b * 2)
    refine isNearestEven_of_lt (abs_lt.mpr ?_)
    push_cast
    constructor <;> linarith
  next not_above =>
    have half : (b : ℚ) / den = 1 / 2 := by
      rw [div_eq_div_iff unit.ne' two_ne_zero]
      exact_mod_cast (by omega : b * 2 = 1 * den)
    have even : Even (a + a % 2) := Nat.even_iff.mpr (by omega)
    refine isNearestEven_of_tie ?_ ((Int.even_coe_nat _).mpr even)
    rcases Nat.mod_two_eq_zero_or_one a with parity | parity <;>
      · rw [half, parity]
        push_cast
        norm_num

end Gazetteer.Number

import Gazetteer.Json.Reader
import Mathlib.Algebra.Ring.Int.Defs
import Mathlib.Algebra.Ring.Nat

/-!
Whole numbers.  Digits that make a number of 64 bits are read as that number; of more of them a double is made.
-/

namespace Gazetteer.Json

/-- The number that digits make of one read before them. -/
def digitsFrom (n : Nat) (digits : List Nat) : Nat := digits.foldl (fun n digit => 10 * n + digit) n

theorem le_digitsFrom (n : Nat) (digits : List Nat) : n ≤ digitsFrom n digits := by
  induction digits generalizing n with
  | nil => exact Nat.le_refl n
  | cons digit digits ih => exact Nat.le_trans (by omega) (ih (10 * n + digit))

namespace Significand

theorem excess_foldl_take {s : Significand} (full : s.excess ≠ 0) (digits : List Nat) :
    (digits.foldl take s).excess ≠ 0 := by
  induction digits generalizing s with
  | nil => exact full
  | cons digit digits ih =>
    refine ih ?_
    rw [take, decide_eq_false full, Bool.false_and, if_neg Bool.false_ne_true]
    exact Nat.succ_ne_zero _

theorem foldl_take_of_le {n : Nat} {digits : List Nat} (room : digitsFrom n digits ≤ greatestNatural) :
    digits.foldl take ⟨n, 0⟩ = ⟨digitsFrom n digits, 0⟩ := by
  induction digits generalizing n with
  | nil => rfl
  | cons digit digits ih =>
    have next : 10 * n + digit ≤ greatestNatural := Nat.le_trans (le_digitsFrom _ digits) room
    have taken : take ⟨n, 0⟩ digit = ⟨10 * n + digit, 0⟩ := by simp [take, next]
    rw [List.foldl_cons, taken]
    exact ih room

theorem foldl_take_of_gt {n : Nat} {digits : List Nat} (small : n ≤ greatestNatural)
    (beyond : greatestNatural < digitsFrom n digits) : (digits.foldl take ⟨n, 0⟩).excess ≠ 0 := by
  induction digits generalizing n with
  | nil => exact absurd small (Nat.not_le_of_lt beyond)
  | cons digit digits ih =>
    rw [List.foldl_cons]
    by_cases next : 10 * n + digit ≤ greatestNatural
    · have taken : take ⟨n, 0⟩ digit = ⟨10 * n + digit, 0⟩ := by simp [take, next]
      rw [taken]
      exact ih next beyond
    · refine excess_foldl_take ?_ digits
      simp [take, next]

end Significand

/-- A natural number of 64 bits is read where digits alone spell it. -/
theorem Spelling.number?_eq_natural_iff {s : Spelling} {n : Nat} :
    s.number? = some (.integer n) ↔ ∃ digits, s = ⟨false, digits, none, none⟩ ∧ digitsFrom 0 digits = n ∧ n ≤ greatestNatural := by
  obtain ⟨negative, digits, fraction, exponent⟩ := s
  have no_double {size : Option Number.Binary64} {negative : Bool} : size.map (Number.double negative) ≠ some (.integer n) := by
    cases size <;> simp
  constructor
  · intro read
    unfold number? at read
    dsimp only at read
    split at read
    · exact absurd read no_double
    next plain =>
      simp only [Bool.or_eq_true, decide_eq_true_eq, not_or, Option.not_isSome_iff_eq_none, Decidable.not_not] at plain
      obtain ⟨⟨rfl, rfl⟩, no_excess⟩ := plain
      have room : digitsFrom 0 digits ≤ greatestNatural := Nat.le_of_not_lt fun beyond =>
        Significand.foldl_take_of_gt (Nat.zero_le _) beyond no_excess
      have value : Significand.ofDigits 0 digits = ⟨digitsFrom 0 digits, 0⟩ := Significand.foldl_take_of_le room
      rw [value] at read
      dsimp only at read
      split at read
      next plus =>
        rw [Bool.not_eq_true'] at plus
        obtain rfl : digitsFrom 0 digits = n := by simpa using read
        exact ⟨digits, by rw [plus], rfl, room⟩
      split at read
      · exact absurd read no_double
      next some_digit =>
        -- a minus leaves no natural number but zero, and zero is a double then
        rw [Bool.or_eq_true, decide_eq_true_eq, not_or] at some_digit
        have negated : -(digitsFrom 0 digits : Int) = n := by simpa using read
        exact absurd negated (by omega)
  · rintro ⟨digits', same, rfl, room⟩
    obtain ⟨rfl, rfl, rfl, rfl⟩ := Spelling.mk.inj same
    have value : Significand.ofDigits 0 digits = ⟨digitsFrom 0 digits, 0⟩ := Significand.foldl_take_of_le room
    rw [number?]
    simp [value]

end Gazetteer.Json

import Gazetteer.Proofs.Number.Exact

/-!
Writing decimals.  A decimal is written with the decimals that its scale says; rounding takes it to the nearest number with
fewer, and padding gives it as many as it has room for.
-/

namespace Gazetteer.Number

open Text

/-- A number in figures with so many decimals: with a minus if it is negative, with no more digits before the point than it
needs, and with a point if a decimal follows. -/
def Written (decimals : Nat) (q : ℚ) (cs : List Char) : Prop :=
  ∃ whole behind, AllDigits whole ∧ AllDigits behind ∧ whole ≠ [] ∧
    (1 < whole.length → whole.head? ≠ some '0') ∧ behind.length = decimals ∧
    |q| * 10 ^ decimals = digitsValue (whole ++ behind) ∧
    cs = (if q < 0 then ['-'] else []) ++ whole ++ (if decimals = 0 then [] else '.' :: behind)

namespace Decimal

variable {d : Decimal}

theorem abs_value_mul (d : Decimal) : |d.value| * 10 ^ d.scale = d.mantissa := by
  rw [abs_value]
  field_simp

theorem value_neg_iff : d.value < 0 ↔ (d.negative && d.mantissa ≠ 0) = true := by
  have size : 0 ≤ (d.mantissa : ℚ) / 10 ^ d.scale := by positivity
  have zero : (d.mantissa : ℚ) / 10 ^ d.scale = 0 ↔ d.mantissa = 0 := by
    rw [div_eq_zero_iff, or_iff_left (by positivity), Nat.cast_eq_zero]
  rw [Bool.and_eq_true, decide_eq_true_eq, ne_eq, ← zero, value]
  cases d.negative with
  | false => simp [size]
  | true => simp [lt_iff_le_and_ne, size, eq_comm]

/-- A decimal is written as its value. -/
theorem chars_written (d : Decimal) : Written d.scale d.value d.chars := by
  have digits := allDigits_padded (d.scale + 1) d.mantissa
  have long : d.scale + 1 ≤ (padded (d.scale + 1) d.mantissa).length := by
    rw [length_padded]
    exact Nat.le_max_left _ _
  have needed : d.scale + 1 < (padded (d.scale + 1) d.mantissa).length →
      (padded (d.scale + 1) d.mantissa).head? ≠ some '0' := head_padded (Nat.succ_pos _)
  have number := digitsValue_padded (d.scale + 1) d.mantissa
  have sign : (if d.value < 0 then ['-'] else []) = if (d.negative && d.mantissa ≠ 0) = true then ['-'] else [] :=
    if_congr value_neg_iff rfl rfl
  rw [chars, ← sign]
  generalize padded (d.scale + 1) d.mantissa = ds at *
  have whole : (ds.take (ds.length - d.scale)).length = ds.length - d.scale := List.length_take_of_le (Nat.sub_le _ _)
  refine ⟨ds.take (ds.length - d.scale), ds.drop (ds.length - d.scale), digits.take _, digits.drop _, ?_, fun several => ?_,
    ?_, ?_, rfl⟩
  · rw [← List.length_pos_iff, whole]
    omega
  · rw [whole] at several
    rw [List.head?_take, if_neg (by omega)]
    exact needed (by omega)
  · rw [List.length_drop]
    omega
  · rw [List.take_append_drop, number, abs_value_mul]

/-! ### Padding -/

/-- Padding keeps the value, and stops short of so many places only where there is no room for one more. -/
theorem pad_spec (places : Nat) (d : Decimal) (room : d.mantissa ≤ greatestMantissa) :
    (pad places d).value = d.value ∧ (pad places d).mantissa ≤ greatestMantissa ∧
      (pad places d).scale ≤ d.scale + places ∧
      ((pad places d).scale < d.scale + places → greatestMantissa < 10 * (pad places d).mantissa) := by
  induction places generalizing d with
  | zero => exact ⟨rfl, room, Nat.le_refl _, fun short => absurd short (Nat.lt_irrefl _)⟩
  | succ places ih =>
    rw [pad]
    split
    next fits =>
      obtain ⟨value, room, scale, last⟩ := ih { d with mantissa := 10 * d.mantissa, scale := d.scale + 1 } fits
      have longer : ({ d with mantissa := 10 * d.mantissa, scale := d.scale + 1 } : Decimal).value = d.value * 1 := by
        refine value_eq_mul rfl ?_
        rw [mul_one, div_eq_div_iff_mul, pow_succ]
        ring
      have total : d.scale + 1 + places = d.scale + (places + 1) := by omega
      rw [total] at scale last
      exact ⟨value.trans (longer.trans (mul_one _)), room, scale, last⟩
    next full => exact ⟨rfl, room, Nat.le_add_right _ _, fun _ => Nat.lt_of_not_le full⟩

/-! ### Rounding -/

theorem nearest_of_size {r : Decimal} {n : Nat} {x : ℚ} (sign : r.negative = d.negative)
    (nearest : IsNearestEven (d.mantissa / 10 ^ d.scale * x) n) (size : (r.mantissa : ℚ) / 10 ^ r.scale = n / x) :
    ∃ n : ℤ, IsNearestEven (d.value * x) n ∧ r.value = n / x := by
  rw [value, value, sign, size]
  split
  · refine ⟨-n, neg_mul _ x ▸ nearest.neg, ?_⟩
    rw [Int.cast_neg, neg_div, Int.cast_natCast]
  · exact ⟨n, nearest, by rw [Int.cast_natCast]⟩

/-- Rounding takes a decimal to the nearest multiple of the last place, a tie to the even one. -/
theorem roundTo_spec (places : Nat) (d : Decimal) (room : d.mantissa ≤ greatestMantissa) :
    (d.roundTo places).mantissa ≤ greatestMantissa ∧ (d.roundTo places).scale ≤ places ∧
      ∃ n : ℤ, IsNearestEven (d.value * 10 ^ places) n ∧ (d.roundTo places).value = n / 10 ^ places := by
  unfold roundTo
  split
  next few =>
    have exact : (d.mantissa : ℚ) / 10 ^ d.scale = (d.mantissa * 10 ^ (places - d.scale) : ℕ) / 10 ^ places := by
      rw [div_eq_div_iff_mul, Nat.mul_assoc, ← Nat.pow_add, Nat.sub_add_cancel few]
    refine ⟨room, few, nearest_of_size rfl ?_ exact⟩
    rw [exact, div_mul_cancel₀ _ (by positivity)]
    exact isNearestEven_self _
  next many =>
    have large : 2 ≤ 10 ^ (d.scale - places) := by
      have one : 10 ^ 1 ≤ 10 ^ (d.scale - places) := Nat.pow_le_pow_right (by decide) (by omega)
      omega
    have unit : (d.mantissa : ℚ) / 10 ^ d.scale * 10 ^ places = d.mantissa / (10 ^ (d.scale - places) : ℕ) := by
      have split : d.scale = d.scale - places + places := (Nat.sub_add_cancel (Nat.le_of_not_le many)).symm
      nth_rewrite 1 [split]
      rw [pow_add]
      push_cast
      field_simp
    refine ⟨Nat.le_trans (roundHalfEven_le large) room, Nat.le_refl _, nearest_of_size rfl ?_ rfl⟩
    rw [unit]
    exact isNearestEven_roundHalfEven (by positivity)

end Decimal

end Gazetteer.Number

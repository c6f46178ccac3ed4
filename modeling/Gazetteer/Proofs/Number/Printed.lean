import Gazetteer.Proofs.Number.Written

/-!
Reading what is written.  The text of a decimal that fits is a plain numeral whose digits all find room, so it is read with
the mantissa and the scale it was written from.  Only the sign of a zero is not there to be read.
-/

namespace Gazetteer.Number

open Text

namespace Decimal

variable {whole behind ds cs : List Char} {d : Decimal}

/-! ### Digits that find room -/

namespace Prefix

/-- Digits in front of the point. -/
theorem run?_whole {m : Nat} {begun : Bool} (digits : AllDigits ds) (room : digitsOnto m ds ≤ greatestMantissa) :
    run? ⟨m, 0, false, begun, false⟩ (ds ++ cs) = run? ⟨digitsOnto m ds, 0, false, begun || !ds.isEmpty, false⟩ cs := by
  induction ds generalizing m begun with
  | nil => simp [digitsOnto]
  | cons d ds ih =>
    obtain ⟨digit, digits⟩ := List.forall_mem_cons.mp digits
    rw [digitsOnto_cons] at room
    have step : step? ⟨m, 0, false, begun, false⟩ d = some ⟨10 * m + digitValue d, 0, false, true, false⟩ :=
      (step?_digit digit).trans (digit?_of_room rfl (absurd · Bool.false_ne_true) (Nat.le_trans (le_digitsOnto _ _) room))
    rw [List.cons_append, run?, step, Option.bind_some, ih digits room]
    simp [digitsOnto_cons]

/-- Digits behind the point. -/
theorem run?_behind {m s : Nat} (digits : AllDigits ds) (places : s + ds.length ≤ greatestScale)
    (room : digitsOnto m ds ≤ greatestMantissa) :
    run? ⟨m, s, true, true, false⟩ ds = some ⟨digitsOnto m ds, s + ds.length, true, true, false⟩ := by
  induction ds generalizing m s with
  | nil => rfl
  | cons d ds ih =>
    obtain ⟨digit, digits⟩ := List.forall_mem_cons.mp digits
    rw [digitsOnto_cons] at room
    have shifted : s + (d :: ds).length = s + 1 + ds.length := by rw [List.length_cons, Nat.add_assoc, Nat.add_comm 1]
    rw [shifted] at places ⊢
    have place : s < greatestScale := Nat.lt_of_lt_of_le (Nat.lt_succ_self s) (Nat.le_trans (Nat.le_add_right _ _) places)
    have step : step? ⟨m, s, true, true, false⟩ d = some ⟨10 * m + digitValue d, s + 1, true, true, false⟩ :=
      (step?_digit digit).trans (digit?_of_room rfl (fun _ => place) (Nat.le_trans (le_digitsOnto _ _) room))
    rw [run?, step, Option.bind_some, ih digits places room, digitsOnto_cons]

end Prefix

/-! ### Numerals -/

def figures (whole behind : List Char) : List Char := whole ++ if behind.length = 0 then [] else '.' :: behind

theorem unsigned?_figures (digits : AllDigits whole) (also : AllDigits behind) (nonempty : whole ≠ [])
    (fits : Fits (digitsValue (whole ++ behind)) behind.length) (negative : Bool) :
    unsigned? negative (figures whole behind) = some ⟨negative, digitsValue (whole ++ behind), behind.length⟩ := by
  have parts : digitsOnto (digitsValue whole) behind = digitsValue (whole ++ behind) := List.foldl_append.symm
  have front : digitsOnto 0 whole ≤ greatestMantissa := Nat.le_trans (le_digitsOnto _ behind) (parts.trans_le fits.1)
  have begun : (false || !whole.isEmpty) = true := by simp [nonempty]
  have run : Prefix.run? {} (figures whole behind) =
      some ⟨digitsValue (whole ++ behind), behind.length, !behind.isEmpty, true, false⟩ := by
    rw [figures, Prefix.run?_whole digits front, begun]
    cases behind with
    | nil => rw [List.append_nil]; rfl
    | cons c cs =>
      have places : 0 + (c :: cs).length ≤ greatestScale := (Nat.zero_add _).trans_le fits.2
      have rest := Prefix.run?_behind also places (parts.trans_le fits.1)
      have decimals : (c :: cs).length ≠ 0 := Nat.succ_ne_zero _
      rw [parts, Nat.zero_add] at rest
      rw [if_neg decimals, Prefix.run?, Prefix.step?_point rfl, Option.bind_some]
      exact rest
  rw [unsigned?, run, Option.bind_some, if_pos rfl]

/-- A numeral that starts with a digit has no sign. -/
theorem plain?_figures (digits : AllDigits whole) (nonempty : whole ≠ []) :
    plain? (figures whole behind) = unsigned? false (figures whole behind) := by
  cases whole with
  | nil => exact absurd rfl nonempty
  | cons c cs =>
    have digit := (List.forall_mem_cons.mp digits).1
    rw [figures, List.cons_append]
    unfold plain?
    split
    next same =>
      obtain rfl := (List.cons.inj same).1
      exact absurd digit (by decide)
    next same =>
      obtain rfl := (List.cons.inj same).1
      exact absurd digit (by decide)
    next => rfl

/-! ### Decimals -/

def unsignedZero (d : Decimal) : Decimal := { d with negative := d.negative && d.mantissa ≠ 0 }

theorem chars_unsignedZero (d : Decimal) : d.unsignedZero.chars = d.chars := by
  simp [chars, unsignedZero]

/-- The figures of a decimal, behind a minus if it is negative and no zero. -/
theorem exists_figures (d : Decimal) : ∃ whole behind, AllDigits whole ∧ AllDigits behind ∧ whole ≠ [] ∧
    behind.length = d.scale ∧ digitsValue (whole ++ behind) = d.mantissa ∧
    d.chars = (if d.unsignedZero.negative then ['-'] else []) ++ figures whole behind := by
  obtain ⟨whole, behind, digits, also, nonempty, -, scale, number, text⟩ := chars_written d
  have sign : (if d.value < 0 then ['-'] else []) = if d.unsignedZero.negative then ['-'] else [] :=
    if_congr value_neg_iff rfl rfl
  rw [abs_value_mul] at number
  rw [sign, ← scale, List.append_assoc] at text
  exact ⟨whole, behind, digits, also, nonempty, scale, (Nat.cast_injective number).symm, text⟩

/-- A decimal that fits is read back from its text, a zero without its sign. -/
theorem read?_chars (fits : Fits d.mantissa d.scale) : read? d.chars = some d.unsignedZero := by
  obtain ⟨whole, behind, digits, also, nonempty, scale, number, text⟩ := exists_figures d
  rw [← number, ← scale] at fits
  have unsigned := unsigned?_figures digits also nonempty fits d.unsignedZero.negative
  have plain : plain? d.chars = some d.unsignedZero := by
    rw [number, scale] at unsigned
    rw [text]
    cases sign : d.unsignedZero.negative with
    | false =>
      rw [sign] at unsigned
      exact (plain?_figures digits nonempty).trans (unsigned.trans (by rw [← sign]; rfl))
    | true =>
      rw [sign] at unsigned
      exact unsigned.trans (by rw [← sign]; rfl)
  rw [read?, plain, Option.some_or]

theorem mem_chars {c : Char} (member : c ∈ d.chars) : c = '-' ∨ c = '.' ∨ c.isDigit = true := by
  obtain ⟨whole, behind, digits, also, -, -, -, text⟩ := exists_figures d
  rw [text, figures, List.mem_append, List.mem_append] at member
  rcases member with sign | first | rest
  · split at sign
    · exact .inl (List.mem_singleton.mp sign)
    · cases sign
  · exact .inr (.inr (digits c first))
  · split at rest
    · cases rest
    · rcases List.mem_cons.mp rest with point | decimal
      · exact .inr (.inl point)
      · exact .inr (.inr (also c decimal))

end Decimal

end Gazetteer.Number

import Gazetteer.Coordinate
import Gazetteer.Proofs.Number.Written

/-!
The text of a point.  Each coordinate is the number that its text spells, rounded to a millionth and written with six
decimals, or with as many as a mantissa has room for.
-/

namespace Gazetteer

open Number Number.Decimal

namespace Coordinate

/-- A text without the blanks around it spells a number, and a decimal has room for it and for what stands before its
exponent. -/
def IsExact (s : String) (q : ℚ) : Prop :=
  ∃ base, Literal (Text.trimChars s.toList) base q ∧ Representable base ∧ Representable q

def IsNumber (s : String) : Prop := ∃ base q, Literal (Text.trimChars s.toList) base q

/-- A number is rounded to so many millionths, a tie to the even one, and written with so many decimals: six, or the most for
which it is a whole number of 96 bits without its point. -/
structure IsSettled (q : ℚ) (millionths : ℤ) (decimals : ℕ) (cs : List Char) : Prop where
  nearest : IsNearestEven (q * 10 ^ 6) millionths
  written : Written decimals (millionths / 10 ^ 6) cs
  room : |(millionths : ℚ) / 10 ^ 6| * 10 ^ decimals < 2 ^ 96
  few : decimals ≤ 6
  most : ∀ j ≤ 6, |(millionths : ℚ) / 10 ^ 6| * 10 ^ j < 2 ^ 96 → j ≤ decimals

theorem cast_lt_bits {n : ℕ} : (n : ℚ) < 2 ^ 96 ↔ n ≤ greatestMantissa := by
  rw [greatestMantissa, show (2 : ℚ) ^ 96 = (2 ^ 96 : ℕ) by norm_num, Nat.cast_lt]
  omega

/-- A decimal with six places, or with fewer and no room for one more. -/
structure Filled (d : Decimal) : Prop where
  room : d.mantissa ≤ greatestMantissa
  few : d.scale ≤ places
  full : d.scale < places → greatestMantissa < 10 * d.mantissa

theorem settle_spec {d : Decimal} (fits : Fits d.mantissa d.scale) :
    Filled (settle d) ∧ ∃ n : ℤ, IsNearestEven (d.value * 10 ^ 6) n ∧ (settle d).value = n / 10 ^ 6 := by
  obtain ⟨room, few, n, nearest, rounded⟩ := roundTo_spec places d fits.1
  obtain ⟨padded, room, scale, last⟩ := pad_spec (places - (d.roundTo places).scale) (d.roundTo places) room
  rw [Nat.add_sub_cancel' few] at scale last
  exact ⟨⟨room, scale, last⟩, n, nearest, padded.trans rounded⟩

theorem settle_isSettled {d : Decimal} (fits : Fits d.mantissa d.scale) :
    ∃ n, IsSettled d.value n (settle d).scale (settle d).chars := by
  obtain ⟨⟨room, scale, last⟩, n, nearest, value⟩ := settle_spec fits
  have size := abs_value_mul (settle d)
  have written := chars_written (settle d)
  rw [value] at size written
  refine ⟨n, nearest, written, size ▸ cast_lt_bits.mpr room, scale, fun j inside fitting => ?_⟩
  by_contra more
  have next : (settle d).scale + 1 ≤ j := Nat.lt_of_not_le more
  have full : greatestMantissa < 10 * (settle d).mantissa := last (Nat.lt_of_lt_of_le next inside)
  have larger : ((10 * (settle d).mantissa : ℕ) : ℚ) ≤ |(n : ℚ) / 10 ^ 6| * 10 ^ j := by
    rw [Nat.cast_mul, ← size, Nat.cast_ofNat, mul_left_comm, ← pow_succ']
    exact mul_le_mul_of_nonneg_left (pow_le_pow_right₀ (by norm_num) next) (abs_nonneg _)
  exact absurd (cast_lt_bits.mp (larger.trans_lt fitting)) (Nat.not_le_of_lt full)

theorem read?_isSettled {s : String} {q : ℚ} (exact : IsExact s q) :
    ∃ d n, read? s = some d ∧ IsSettled q n d.scale d.chars := by
  obtain ⟨base, literal, base_room, room⟩ := exact
  obtain ⟨d, read, rfl⟩ := read?_exact literal base_room room
  obtain ⟨n, settled⟩ := settle_isSettled (read?_spec read).1
  exact ⟨settle d, n, by rw [Coordinate.read?, read, Option.map_some], settled⟩

theorem isNumber_of_read? {s : String} {d : Decimal} (read : read? s = some d) : IsNumber s := by
  obtain ⟨d, read, -⟩ := Option.map_eq_some_iff.mp read
  exact (read?_spec read).2

end Coordinate

open Coordinate

/-- Two numbers that decimals have room for make a point, each rounded to a millionth.  There is no point if a coordinate is
missing or is no number. -/
theorem point?_settled :
    (∀ lon lat x y, IsExact lon x → IsExact lat y →
      ∃ m j a n k b, IsSettled x m j a ∧ IsSettled y n k b ∧
        point? (some lon) (some lat) = some ("POINT(" ++ .ofList a ++ " " ++ .ofList b ++ ")")) ∧
      ∀ longitude latitude, (¬ ∃ lon ∈ longitude, IsNumber lon) ∨ (¬ ∃ lat ∈ latitude, IsNumber lat) →
        point? longitude latitude = none := by
  constructor
  · intro lon lat x y exact also
    obtain ⟨a, m, read, settled⟩ := read?_isSettled exact
    obtain ⟨b, n, other, also_settled⟩ := read?_isSettled also
    refine ⟨m, a.scale, a.chars, n, b.scale, b.chars, settled, also_settled, ?_⟩
    rw [point?, Option.bind_some, Option.bind_some, read, other, Option.bind_some, Option.map_some]
  · intro longitude latitude missing
    refine Option.eq_none_iff_forall_ne_some.mpr fun text point => ?_
    obtain ⟨lon, present, point⟩ := Option.bind_eq_some_iff.mp point
    obtain ⟨lat, also_present, point⟩ := Option.bind_eq_some_iff.mp point
    obtain ⟨a, read, point⟩ := Option.bind_eq_some_iff.mp point
    obtain ⟨b, other, -⟩ := Option.map_eq_some_iff.mp point
    rcases missing with none | none
    · exact none ⟨lon, present, isNumber_of_read? read⟩
    · exact none ⟨lat, also_present, isNumber_of_read? other⟩

/-- Two coordinates half way between millionths, one with blanks and an underscore and one with an exponent; and one without
the other. -/
theorem halves_settled :
    IsExact " 2.000_0005 " (4000001 / 2000000) ∧ IsExact "-125E-7" (-1 / 80000) ∧
      (∃ m j a n k b, IsSettled (4000001 / 2000000) m j a ∧ IsSettled (-1 / 80000) n k b ∧
        point? (some " 2.000_0005 ") (some "-125E-7") = some ("POINT(" ++ .ofList a ++ " " ++ .ofList b ++ ")")) ∧
      point? (some " 2.000_0005 ") (some "-125E-7") = some "POINT(2.000000 -0.000012)" ∧
      point? (some " 2.000_0005 ") none = none := by
  have figures : Figures false false "2.000_0005".toList "20000005".toList 7 :=
    .whole rfl (.point (.decimal rfl (.decimal rfl (.decimal rfl (.underscore (.decimal rfl (.decimal rfl (.decimal rfl
      (.decimal rfl .done)))))))))
  have whole : Figures false false "125".toList "125".toList 0 := .whole rfl (.whole rfl (.whole rfl .done))
  have exponent : IsExponent "7".toList 7 := ⟨.inl rfl, by decide⟩
  have first : IsExact " 2.000_0005 " (4000001 / 2000000) := by
    have value : (4000001 / 2000000 : ℚ) = Text.digitsValue "20000005".toList / 10 ^ 7 := by
      rw [show Text.digitsValue "20000005".toList = 20000005 from rfl]
      norm_num
    have room : Representable (4000001 / 2000000) := ⟨20000005, 7, by norm_num, by norm_num, by norm_num [abs_of_pos]⟩
    exact ⟨_, .plain (.unsigned ⟨_, _, figures, value⟩), room, room⟩
  have second : IsExact "-125E-7" (-1 / 80000) := by
    have base : (125 : ℚ) = Text.digitsValue "125".toList / 10 ^ 0 := by
      rw [show Text.digitsValue "125".toList = 125 from rfl]
      norm_num
    have value : (-1 / 80000 : ℚ) = -125 / 10 ^ 7 := by norm_num
    have base_room : Representable (-125) := ⟨125, 0, by norm_num, by norm_num, by norm_num⟩
    have room : Representable (-1 / 80000) := ⟨125, 7, by norm_num, by norm_num, by norm_num [abs_of_neg]⟩
    exact ⟨-125, value ▸ .lowered (.minus ⟨_, _, whole, base⟩) (.inr rfl) exponent, base_room, room⟩
  exact ⟨first, second, point?_settled.1 _ _ _ _ first second, rfl, point?_settled.2 _ _ (.inr nofun)⟩

end Gazetteer

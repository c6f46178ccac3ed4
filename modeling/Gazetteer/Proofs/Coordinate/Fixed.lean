import Gazetteer.Proofs.Coordinate.Point
import Gazetteer.Proofs.Number.Printed

/-!
Printed points.  What the text of a point has for its coordinates is read without rounding and is settled already, so it makes
the same point again.
-/

namespace Gazetteer

open Number Number.Decimal

namespace Coordinate

variable {d : Decimal}

theorem Filled.fits (filled : Filled d) : Fits d.mantissa d.scale := ⟨filled.room, Nat.le_trans filled.few (by decide)⟩

theorem Filled.unsignedZero (filled : Filled d) : Filled d.unsignedZero := ⟨filled.room, filled.few, filled.full⟩

/-- Neither rounding nor padding has anything left to do. -/
theorem settle_eq_self (filled : Filled d) : settle d = d := by
  have rounded : d.roundTo places = d := if_pos filled.few
  rw [settle, rounded]
  rcases Nat.eq_or_lt_of_le filled.few with all | fewer
  · rw [all, Nat.sub_self, pad]
  · have more : places - d.scale = places - d.scale - 1 + 1 := by omega
    rw [more, pad, if_neg (Nat.not_le_of_lt (filled.full fewer))]

theorem clean_chars (d : Decimal) : ∀ c ∈ d.chars, Text.isBlank c = false := by
  intro c member
  rcases mem_chars member with rfl | rfl | digit
  · rfl
  · rfl
  · exact Text.isBlank_of_isDigit digit

theorem read?_chars (filled : Filled d) : read? (.ofList d.chars) = some d.unsignedZero := by
  rw [read?, String.toList_ofList, Text.trimChars_of_clean (clean_chars d), Decimal.read?_chars filled.fits, Option.map_some,
    settle_eq_self filled.unsignedZero]

theorem filled_of_read? {s : String} (read : read? s = some d) : Filled d := by
  obtain ⟨first, decimal, rfl⟩ := Option.map_eq_some_iff.mp read
  exact (settle_spec (read?_spec decimal).1).1

theorem space_not_mem_chars (d : Decimal) : ' ' ∉ d.chars := by
  intro member
  have clean := clean_chars d ' ' member
  exact absurd clean (by decide)

end Coordinate

open Coordinate

theorem point?_eq_some_iff {lon lat point : String} : point? (some lon) (some lat) = some point ↔
    ∃ x y, Coordinate.read? lon = some x ∧ Coordinate.read? lat = some y ∧
      point = "POINT(" ++ .ofList x.chars ++ " " ++ .ofList y.chars ++ ")" := by
  rw [point?, Option.bind_some, Option.bind_some]
  cases Coordinate.read? lon with
  | none => simp
  | some x =>
    cases Coordinate.read? lat with
    | none => simp
    | some y => simp [eq_comm]

/-- The coordinates of a point are what stands on both sides of the one space in its text. -/
theorem coordinates_unique {a b : String} {x y : Decimal}
    (same : "POINT(" ++ .ofList x.chars ++ " " ++ .ofList y.chars ++ ")" = "POINT(" ++ a ++ " " ++ b ++ ")") :
    a = .ofList x.chars ∧ b = .ofList y.chars := by
  have apart : x.chars ++ ' ' :: (y.chars ++ [')']) = a.toList ++ ' ' :: (b.toList ++ [')']) := by
    have chars := congrArg String.toList same
    simpa [String.toList_append] using chars
  have behind : ' ' ∉ y.chars ++ [')'] := by
    rw [List.mem_append, not_or]
    exact ⟨space_not_mem_chars y, by decide⟩
  obtain ⟨first, -, rest⟩ := (List.append_cons_inj_of_notMem (space_not_mem_chars x) behind).mp apart
  have second := List.append_cancel_right rest
  exact ⟨by rw [first, String.ofList_toList], by rw [second, String.ofList_toList]⟩

/-- A point is made again from the coordinates in its text, whatever they were read from. -/
theorem printed_point_fixed (lon lat point : String) (made : point? (some lon) (some lat) = some point) :
    (∃ a b, point = "POINT(" ++ a ++ " " ++ b ++ ")") ∧
      ∀ a b, point = "POINT(" ++ a ++ " " ++ b ++ ")" → point? (some a) (some b) = some point := by
  obtain ⟨x, y, read, other, rfl⟩ := point?_eq_some_iff.mp made
  refine ⟨⟨_, _, rfl⟩, fun a b same => ?_⟩
  obtain ⟨rfl, rfl⟩ := coordinates_unique same
  refine point?_eq_some_iff.mpr ⟨_, _, read?_chars (filled_of_read? read), read?_chars (filled_of_read? other), ?_⟩
  rw [chars_unsignedZero, chars_unsignedZero]

/-- A coordinate with more digits than there is room for, which is rounded to three places, and one that is rounded to a zero
from below. -/
theorem roundedPoint_fixed :
    point? (some " +7_922816251426433759354395.03355 ") (some "-1E-7") =
        some "POINT(7922816251426433759354395.034 0.000000)" ∧
      point? (some "7922816251426433759354395.034") (some "0.000000") =
        some "POINT(7922816251426433759354395.034 0.000000)" := by
  have made : point? (some " +7_922816251426433759354395.03355 ") (some "-1E-7") =
      some "POINT(7922816251426433759354395.034 0.000000)" := rfl
  exact ⟨made, (printed_point_fixed _ _ _ made).2 "7922816251426433759354395.034" "0.000000" rfl⟩

end Gazetteer

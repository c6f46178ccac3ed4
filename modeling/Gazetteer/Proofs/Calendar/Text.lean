import Gazetteer.Filter.Resolve
import Gazetteer.Proofs.Text.Digits

/-!
Texts of dates.  A text holds the digits of a year, with the sign of a negative one, and two digits each for the month and the
day; it determines the date.  Every date that is read or made of parts is a day of the calendar.
-/

namespace Gazetteer

namespace Date

/-! ### Years -/

def yearDigits (year : Int) : List Char := Text.padded (if 0 ≤ year then 4 else 3) year.natAbs

theorem yearChars_of_nonneg {year : Int} (positive : 0 ≤ year) : yearChars year = yearDigits year := by
  have whole : year.toNat = year.natAbs := by omega
  rw [yearChars, yearDigits, if_pos positive, if_pos positive, whole]

theorem yearChars_of_neg {year : Int} (negative : year < 0) : yearChars year = '-' :: yearDigits year := by
  rw [yearChars, yearDigits, if_neg (by omega), if_neg (by omega)]

theorem allDigits_yearDigits (year : Int) : Text.AllDigits (yearDigits year) := Text.allDigits_padded _ _

theorem digitsValue_yearDigits (year : Int) : Text.digitsValue (yearDigits year) = year.natAbs :=
  Text.digitsValue_padded _ _

theorem yearChars_injective {year other : Int} (same : yearChars year = yearChars other) : year = other := by
  have minus : ∀ year : Int, '-' ∉ yearDigits year := by
    intro year member
    exact absurd (allDigits_yearDigits year '-' member) (by decide)
  have size : ∀ {year other : Int}, yearDigits year = yearDigits other → year.natAbs = other.natAbs := by
    intro year other digits
    rw [← digitsValue_yearDigits, digits, digitsValue_yearDigits]
  by_cases sign : 0 ≤ year <;> by_cases other_sign : 0 ≤ other
  · rw [yearChars_of_nonneg sign, yearChars_of_nonneg other_sign] at same
    have equal := size same
    omega
  · rw [yearChars_of_nonneg sign, yearChars_of_neg (by omega)] at same
    exact absurd (same ▸ List.mem_cons_self) (minus year)
  · rw [yearChars_of_neg (by omega), yearChars_of_nonneg other_sign] at same
    exact absurd (same ▸ List.mem_cons_self) (minus other)
  · rw [yearChars_of_neg (by omega), yearChars_of_neg (by omega)] at same
    have equal := size (List.cons.inj same).2
    omega

/-! ### Days of a year -/

def dayChars (d : Date) : List Char := Text.padded 2 d.month ++ '-' :: Text.padded 2 d.day

theorem isoChars_eq (d : Date) : d.isoChars = yearChars d.year ++ '-' :: d.dayChars := rfl

structure Short (d : Date) : Prop where
  month : d.month < 100
  day : d.day < 100

theorem short_of_isDay {d : Date} (valid : isDay d.year d.month d.day = true) : d.Short := by
  simp only [isDay, Bool.and_eq_true, decide_eq_true_eq] at valid
  have days : monthLength d.year d.month ≤ 31 := by
    unfold monthLength
    grind
  exact ⟨by omega, by omega⟩

variable {a b : Date}

theorem Short.length_month (short : a.Short) : (Text.padded 2 a.month).length = 2 :=
  Text.length_padded_of_lt (by decide) short.month

theorem Short.length_day (short : a.Short) : (Text.padded 2 a.day).length = 2 :=
  Text.length_padded_of_lt (by decide) short.day

theorem Short.length_dayChars (short : a.Short) : a.dayChars.length = 5 := by
  rw [dayChars, List.length_append, List.length_cons, short.length_month, short.length_day]

theorem isoChars_injective (short : a.Short) (also : b.Short) (same : a.isoChars = b.isoChars) : a = b := by
  have length : ('-' :: a.dayChars).length = ('-' :: b.dayChars).length := by
    rw [List.length_cons, List.length_cons, short.length_dayChars, also.length_dayChars]
  obtain ⟨years, days⟩ := List.append_inj' same length
  obtain ⟨months, days⟩ := List.append_inj (List.cons.inj days).2 (short.length_month.trans also.length_month.symm)
  have month : a.month = b.month := by rw [← Text.digitsValue_padded 2 a.month, months, Text.digitsValue_padded]
  have day : a.day = b.day := by
    rw [← Text.digitsValue_padded 2 a.day, (List.cons.inj days).2, Text.digitsValue_padded]
  exact (Date.mk.injEq ..).mpr ⟨yearChars_injective years, month, day⟩

theorem mem_isoChars {d : Date} {c : Char} (member : c ∈ d.isoChars) : c.isDigit = true ∨ c = '-' := by
  have year : ∀ c ∈ yearChars d.year, c.isDigit = true ∨ c = '-' := by
    intro c member
    by_cases sign : 0 ≤ d.year
    · rw [yearChars_of_nonneg sign] at member
      exact .inl (allDigits_yearDigits _ c member)
    · rw [yearChars_of_neg (by omega)] at member
      exact (List.mem_cons.mp member).elim .inr fun later => .inl (allDigits_yearDigits _ c later)
  rw [isoChars_eq, dayChars] at member
  simp only [List.mem_append, List.mem_cons] at member
  rcases member with here | here | here | here | here
  · exact year c here
  · exact .inr here
  · exact .inl (Text.allDigits_padded 2 d.month c here)
  · exact .inr here
  · exact .inl (Text.allDigits_padded 2 d.day c here)

theorem iso_injective (short : a.Short) (also : b.Short) : a.iso = b.iso ↔ a = b := by
  refine ⟨fun same => isoChars_injective short also ?_, congrArg iso⟩
  rw [← String.toList_ofList (l := a.isoChars), ← String.toList_ofList (l := b.isoChars)]
  exact congrArg String.toList same

/-! ### Dates that are read -/

theorem read?_isDay {cs : List Char} {d : Date} (read : read? cs = some d) : isDay d.year d.month d.day = true := by
  obtain ⟨⟨year, cs⟩, -, read⟩ := Option.bind_eq_some_iff.mp read
  obtain ⟨cs, -, read⟩ := Option.bind_eq_some_iff.mp read
  obtain ⟨⟨month, cs⟩, -, read⟩ := Option.bind_eq_some_iff.mp read
  obtain ⟨cs, -, read⟩ := Option.bind_eq_some_iff.mp read
  obtain ⟨⟨day, cs⟩, -, read⟩ := Option.bind_eq_some_iff.mp read
  dsimp only at read
  split at read
  · exact ofParts?_isDay read
  · cases read

end Date

namespace Filter.DateFilter

open Date

variable {f : DateFilter} {d : Date}

/-- Parts make a day of a year after zero. -/
theorem ofParts?_cases (made : f.ofParts? = some d) : 0 < d.year ∧ isDay d.year d.month d.day = true := by
  obtain ⟨text, -, made⟩ := Option.bind_eq_some_iff.mp made
  obtain ⟨year, -, made⟩ := Option.bind_eq_some_iff.mp made
  split at made
  · cases made
  · obtain ⟨month, -, made⟩ := Option.bind_eq_some_iff.mp made
    obtain ⟨day, -, made⟩ := Option.bind_eq_some_iff.mp made
    have valid := ofParts?_isDay made
    unfold Date.ofParts? at made
    split at made
    · obtain rfl := Option.some.inj made
      exact ⟨by simpa using ‹¬ year ≤ 0›, valid⟩
    · cases made

/-- A date is a day, read in one piece or made of its parts. -/
theorem resolve?_isDay (resolved : f.resolve? = some d) : isDay d.year d.month d.day = true := by
  unfold resolve? at resolved
  split at resolved
  · exact read?_isDay resolved
  · exact (ofParts?_cases resolved).2

end Filter.DateFilter

end Gazetteer

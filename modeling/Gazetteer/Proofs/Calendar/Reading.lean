import Gazetteer.Proofs.Calendar.Text

/-!
Dates that are read back.  The date of a filter is a day of the Gregorian calendar, its text says so in figures, and the text
is read as the same date as long as its year has no fifth digit, which only a sign makes room for.
-/

namespace Gazetteer

namespace Date

/-! ### The calendar -/

def IsLeapYear (year : Int) : Prop := 4 ∣ year ∧ (100 ∣ year → 400 ∣ year)

/-- A day that the Gregorian calendar has, also before it was in use. -/
inductive IsGregorian (year : Int) : (month day : Nat) → Prop
  | long {month day : Nat} (isLong : month ∈ [1, 3, 5, 7, 8, 10, 12]) (first : 1 ≤ day) (last : day ≤ 31) :
    IsGregorian year month day
  | short {month day : Nat} (isShort : month ∈ [4, 6, 9, 11]) (first : 1 ≤ day) (last : day ≤ 30) :
    IsGregorian year month day
  | february {day : Nat} (first : 1 ≤ day) (last : day ≤ 28) : IsGregorian year 2 day
  | leapDay (leap : IsLeapYear year) : IsGregorian year 2 29

theorem isLeap_iff {year : Int} : isLeap year = true ↔ IsLeapYear year := by
  simp only [isLeap, Bool.and_eq_true, Bool.or_eq_true, decide_eq_true_eq, IsLeapYear]
  omega

theorem isGregorian_of_isDay {year : Int} {month day : Nat} (valid : isDay year month day = true) :
    IsGregorian year month day := by
  simp only [isDay, Bool.and_eq_true, decide_eq_true_eq] at valid
  obtain ⟨⟨⟨⟨⟨-, -⟩, low⟩, high⟩, first⟩, last⟩ := valid
  unfold monthLength at last
  split at last
  · split at last
    next leap =>
      rcases Nat.eq_or_lt_of_le last with rfl | before
      · exact .leapDay (isLeap_iff.mp leap)
      · exact .february first (Nat.le_of_lt_succ before)
    next => exact .february first last
  · exact .short (by decide) first last
  · exact .short (by decide) first last
  · exact .short (by decide) first last
  · exact .short (by decide) first last
  next no_february no_april no_june no_september no_november =>
    have others : month ≠ 2 ∧ month ≠ 4 ∧ month ≠ 6 ∧ month ≠ 9 ∧ month ≠ 11 :=
      ⟨no_february, no_april, no_june, no_september, no_november⟩
    refine .long ?_ first last
    simp only [List.mem_cons, List.not_mem_nil, or_false]
    omega

/-! ### Figures -/

structure InTwoFigures (n : Nat) (cs : List Char) : Prop where
  digits : Text.AllDigits cs
  value : Text.digitsValue cs = n
  length : cs.length = 2

/-- A year in figures: with its sign if it is negative, of at least four characters, and of no more than it needs. -/
structure IsYearText (year : Int) (cs ds : List Char) : Prop where
  signed : cs = if year < 0 then '-' :: ds else ds
  digits : Text.AllDigits ds
  value : Text.digitsValue ds = year.natAbs
  length : 4 ≤ cs.length
  shortest : 4 < cs.length → ds.head? ≠ some '0'

def IsText (year : Int) (month day : Nat) (cs : List Char) : Prop :=
  ∃ years figures months days, IsYearText year years figures ∧ InTwoFigures month months ∧ InTwoFigures day days ∧
    cs = years ++ '-' :: (months ++ '-' :: days)

theorem inTwoFigures_padded {n : Nat} (small : n < 100) : InTwoFigures n (Text.padded 2 n) :=
  ⟨Text.allDigits_padded 2 n, Text.digitsValue_padded 2 n, Text.length_padded_of_lt (by decide) small⟩

theorem isYearText_yearChars (year : Int) : IsYearText year (yearChars year) (yearDigits year) := by
  have digits := allDigits_yearDigits year
  have value := digitsValue_yearDigits year
  by_cases sign : 0 ≤ year
  · rw [yearChars_of_nonneg sign]
    refine ⟨(if_neg (Int.not_lt_of_ge sign)).symm, digits, value, ?_, fun longer => ?_⟩
    · rw [yearDigits, if_pos sign, Text.length_padded]
      exact Nat.le_max_left _ _
    · rw [yearDigits, if_pos sign] at longer ⊢
      exact Text.head_padded (by decide) longer
  · rw [yearChars_of_neg (by omega)]
    refine ⟨(if_pos (by omega)).symm, digits, value, ?_, fun longer => ?_⟩
    · rw [List.length_cons, yearDigits, if_neg sign, Text.length_padded]
      exact Nat.succ_le_succ (Nat.le_max_left _ _)
    · rw [List.length_cons, yearDigits, if_neg sign] at longer
      rw [yearDigits, if_neg sign]
      exact Text.head_padded (by decide) (Nat.lt_of_succ_lt_succ longer)

theorem Short.isText {d : Date} (short : d.Short) : IsText d.year d.month d.day d.iso.toList :=
  ⟨_, _, _, _, isYearText_yearChars d.year, inTwoFigures_padded short.month, inTwoFigures_padded short.day,
    String.toList_ofList⟩

/-! ### Reading figures -/

variable {ds rest : List Char} {d : Date}

theorem takeWhile_digits (digits : Text.AllDigits ds) (stops : rest.takeWhile Char.isDigit = []) :
    (ds ++ rest).takeWhile Char.isDigit = ds := by
  rw [List.takeWhile_append_of_pos digits, stops, List.append_nil]

theorem leadingNumber?_whole {limit : Option Nat} (digits : Text.AllDigits ds) (full : ds ≠ [])
    (room : ∀ n, limit = some n → ds.length ≤ n) (stops : rest.takeWhile Char.isDigit = []) :
    leadingNumber? limit (ds ++ rest) = some (Text.digitsValue ds, rest) := by
  have run := takeWhile_digits digits stops
  have nonempty : ds.isEmpty = false := by simpa using full
  cases limit with
  | none => simp only [leadingNumber?, run, nonempty, List.drop_left, Bool.false_eq_true, if_false]
  | some n =>
    have taken : ds.take n = ds := List.take_of_length_le (room n rfl)
    simp only [leadingNumber?, run, taken, nonempty, List.drop_left, Bool.false_eq_true, if_false]

theorem leadingNumber?_front {n : Nat} (digits : Text.AllDigits ds) (positive : 0 < n) (longer : n < ds.length)
    (stops : rest.takeWhile Char.isDigit = []) :
    leadingNumber? (some n) (ds ++ rest) = some (Text.digitsValue (ds.take n), ds.drop n ++ rest) := by
  have run := takeWhile_digits digits stops
  have length : (ds.take n).length = n := by rw [List.length_take, Nat.min_eq_left (Nat.le_of_lt longer)]
  have nonempty : (ds.take n).isEmpty = false := by
    rw [List.isEmpty_eq_false_iff, ← List.length_pos_iff, length]
    exact positive
  have left : (ds ++ rest).drop n = ds.drop n ++ rest := List.drop_append_of_le_length (Nat.le_of_lt longer)
  simp only [leadingNumber?, run, nonempty, length, left, Bool.false_eq_true, if_false]

theorem leadingYear?_of_digits (digits : Text.AllDigits ds) (full : ds ≠ []) :
    leadingYear? (ds ++ rest) =
      (leadingNumber? (some 4) (ds ++ rest)).map fun found => (Int.ofNat found.1, found.2) := by
  cases ds with
  | nil => exact absurd rfl full
  | cons c ds =>
    have digit := digits c List.mem_cons_self
    rw [List.cons_append]
    unfold leadingYear?
    split
    · next same => exact absurd ((List.cons.inj same).1 ▸ digit) (by decide)
    · next same => exact absurd ((List.cons.inj same).1 ▸ digit) (by decide)
    · rfl

theorem yearDigits_ne_nil (year : Int) : yearDigits year ≠ [] := by
  intro empty
  have length : (yearDigits year).length = 0 := by rw [empty]; rfl
  rw [yearDigits, Text.length_padded] at length
  split at length <;> omega

/-- A year is read back if it has at most four digits or a sign. -/
theorem leadingYear?_yearChars {year : Int} (small : year ≤ 9999) :
    leadingYear? (yearChars year ++ '-' :: rest) = some (year, '-' :: rest) := by
  have digits := allDigits_yearDigits year
  have full := yearDigits_ne_nil year
  have value := digitsValue_yearDigits year
  by_cases sign : 0 ≤ year
  · have room : ∀ n, some 4 = some n → (yearDigits year).length ≤ n := by
      intro n same
      rw [yearDigits, if_pos sign, Text.length_padded_of_lt (by decide) (by omega)]
      exact Nat.le_of_eq (Option.some.inj same)
    rw [yearChars_of_nonneg sign, leadingYear?_of_digits digits full, leadingNumber?_whole digits full room rfl, value]
    simp only [Option.map_some, Int.ofNat_eq_natCast, Int.natAbs_of_nonneg sign]
  · have whole : leadingNumber? none (yearDigits year ++ '-' :: rest) =
        some (Text.digitsValue (yearDigits year), '-' :: rest) :=
      leadingNumber?_whole digits full (fun _ same => absurd same (Option.some_ne_none _).symm) rfl
    have negated : -Int.ofNat year.natAbs = year := by
      rw [Int.ofNat_eq_natCast]
      omega
    rw [yearChars_of_neg (by omega), List.cons_append, leadingYear?, whole, value]
    simp only [Option.map_some, negated]

/-- Of a year with more digits and no sign four are read, and no hyphen follows them. -/
theorem leadingYear?_long {year : Int} (large : 10000 ≤ year) :
    ∃ front c cs, leadingYear? (yearChars year ++ '-' :: rest) = some (front, c :: cs) ∧ c.isDigit = true := by
  have sign : 0 ≤ year := by omega
  have digits := allDigits_yearDigits year
  have longer : 4 < (yearDigits year).length := by
    rw [yearDigits, if_pos sign, Text.length_padded]
    refine Nat.lt_of_not_le fun short => ?_
    have small := (Nat.length_toDigits_le_iff (b := 10) (n := year.natAbs) (k := 4) (by decide) (by decide)).mp
      (Nat.le_trans (Nat.le_max_right _ _) short)
    omega
  rw [yearChars_of_nonneg sign, leadingYear?_of_digits digits (yearDigits_ne_nil year),
    leadingNumber?_front digits (by decide) longer rfl]
  cases left : (yearDigits year).drop 4 with
  | nil => exact absurd (List.drop_eq_nil_iff.mp left) (Nat.not_le_of_lt longer)
  | cons c cs => exact ⟨_, c, _, rfl, digits c (List.mem_of_mem_drop (left ▸ List.mem_cons_self))⟩

/-- A month or a day is read back, whatever stands behind it that is no digit. -/
theorem leadingNumber?_padded {n : Nat} (small : n < 100) (stops : rest.takeWhile Char.isDigit = []) :
    leadingNumber? (some 2) (Text.dropBlanks (Text.padded 2 n ++ rest)) = some (n, rest) := by
  have digits := Text.allDigits_padded 2 n
  have length : (Text.padded 2 n).length = 2 := Text.length_padded_of_lt (by decide) small
  have full : Text.padded 2 n ≠ [] := by
    intro empty
    rw [empty] at length
    cases length
  have clean : Text.dropBlanks (Text.padded 2 n ++ rest) = Text.padded 2 n ++ rest := by
    cases first : Text.padded 2 n with
    | nil => exact absurd first full
    | cons c cs =>
      exact Text.dropBlanks_of_head (Text.isBlank_of_isDigit (digits c (first ▸ List.mem_cons_self)))
  have room : ∀ m, some 2 = some m → (Text.padded 2 n).length ≤ m := by
    intro m same
    rw [length]
    exact Nat.le_of_eq (Option.some.inj same)
  rw [clean, leadingNumber?_whole digits full room stops, Text.digitsValue_padded]

theorem clean_isoChars (d : Date) : ∀ c ∈ d.isoChars, Text.isBlank c = false := by
  intro c member
  rcases mem_isoChars member with digit | rfl
  · exact Text.isBlank_of_isDigit digit
  · decide

/-- A day whose year has at most four digits or a sign is read back from its text. -/
theorem read?_isoChars (valid : isDay d.year d.month d.day = true) (small : d.year ≤ 9999) :
    read? d.isoChars = some d := by
  have short := short_of_isDay valid
  have year : leadingYear? (yearChars d.year ++ '-' :: d.dayChars) = some (d.year, '-' :: d.dayChars) :=
    leadingYear?_yearChars small
  have month : leadingNumber? (some 2) (Text.dropBlanks d.dayChars) = some (d.month, '-' :: Text.padded 2 d.day) :=
    leadingNumber?_padded short.month rfl
  have day : leadingNumber? (some 2) (Text.dropBlanks (Text.padded 2 d.day)) = some (d.day, []) := by
    have read : leadingNumber? (some 2) (Text.dropBlanks (Text.padded 2 d.day ++ [])) = some (d.day, []) :=
      leadingNumber?_padded short.day rfl
    rwa [List.append_nil] at read
  rw [read?, Text.dropBlanks_of_clean d.clean_isoChars, isoChars_eq, year]
  simp only [Option.bind_eq_bind, Option.bind_some, hyphen?, month, day, List.isEmpty_nil, if_true, ofParts?, valid]

/-- A fifth digit of a year without a sign stands where the hyphen is looked for. -/
theorem read?_isoChars_of_long (large : 10000 ≤ d.year) : read? d.isoChars = none := by
  obtain ⟨front, c, cs, year, digit⟩ : ∃ front c cs,
      leadingYear? (yearChars d.year ++ '-' :: d.dayChars) = some (front, c :: cs) ∧ c.isDigit = true :=
    leadingYear?_long large
  have no_hyphen : hyphen? (c :: cs) = none := by
    unfold hyphen?
    split
    · next same => exact absurd ((List.cons.inj same).1 ▸ digit) (by decide)
    · rfl
  rw [read?, Text.dropBlanks_of_clean d.clean_isoChars, isoChars_eq, year]
  simp only [Option.bind_eq_bind, Option.bind_some, no_hyphen, Option.bind_none]

end Date

namespace Filter.DateFilter

open Date

/-- The date of a filter is a day of the calendar, after the year zero if it was made of parts.  Its text says the day in
figures and means the same date again, with any parts beside it, unless its year has more than four digits and no sign. -/
theorem resolved_reads_back {f : DateFilter} {d : Date} (resolved : f.resolve? = some d) :
    IsGregorian d.year d.month d.day ∧ IsText d.year d.month d.day d.iso.toList ∧ (f.date = none → 1 ≤ d.year) ∧
      ∀ g : DateFilter, g.date = some d.iso → g.resolve? = if d.year ≤ 9999 then some d else none := by
  have valid := resolve?_isDay resolved
  refine ⟨isGregorian_of_isDay valid, (short_of_isDay valid).isText, fun parts => ?_, fun g date => ?_⟩
  · rw [resolve?, parts] at resolved
    exact (ofParts?_cases resolved).1
  · rw [resolve?, date]
    dsimp only
    rw [iso, String.toList_ofList, Text.trimChars_of_clean d.clean_isoChars]
    split
    next small => exact read?_isoChars valid small
    next large => exact read?_isoChars_of_long (by omega)

/-- A day before the common era is read back, beside a year that is not asked for, and one of the year 10000 is not. -/
theorem ides_read_back :
    ({ date := some " -44-3-15 " } : DateFilter).resolve? = some ⟨-44, 3, 15⟩ ∧ IsGregorian (-44) 3 15 ∧
      ({ date := some (iso ⟨-44, 3, 15⟩), year := some "1999" } : DateFilter).resolve? = some ⟨-44, 3, 15⟩ ∧
      ({ year := some "10000" } : DateFilter).resolve? = some ⟨10000, 1, 1⟩ ∧ (1 : Int) ≤ 10000 ∧
      ({ date := some (iso ⟨10000, 1, 1⟩) } : DateFilter).resolve? = none := by
  have ides : ({ date := some " -44-3-15 " } : DateFilter).resolve? = some ⟨-44, 3, 15⟩ := rfl
  have long : ({ year := some "10000" } : DateFilter).resolve? = some ⟨10000, 1, 1⟩ := rfl
  obtain ⟨gregorian, -, -, read⟩ := resolved_reads_back ides
  obtain ⟨-, -, positive, unread⟩ := resolved_reads_back long
  exact ⟨ides, gregorian, read { date := some (iso ⟨-44, 3, 15⟩), year := some "1999" } rfl, long, positive rfl,
    unread { date := some (iso ⟨10000, 1, 1⟩) } rfl⟩

end Filter.DateFilter

end Gazetteer

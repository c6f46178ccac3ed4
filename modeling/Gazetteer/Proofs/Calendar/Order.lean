import Gazetteer.Proofs.Calendar.Text
import Gazetteer.Proofs.Filter.Normal

/-!
The order of dates and of their texts.  Texts of dates are compared by their bytes, and that is the order of the days as long
as the texts of their years stand in the order of the years.  They do for all years of four digits; a year of five digits
may stand before one of four, and negative years of one width stand in the opposite order.
-/

namespace Gazetteer

namespace Date

def yearWidth (year : Int) : Nat := max 4 (toString year).length

/-- Two years, the earlier one first, whose texts stand in their order when hyphens follow them.  Of two years with one sign
the shorter text is compared with as many characters of the longer one. -/
def KeepsOrder (early late : Int) : Prop :=
  early < 0 ∧ 0 ≤ late ∨
  0 ≤ early ∧ early.natAbs ≤ late.natAbs / 10 ^ (yearWidth late - yearWidth early) ∨
  late < 0 ∧ early.natAbs / 10 ^ (yearWidth early - yearWidth late) < late.natAbs

/-- Two years whose texts stand in their order. -/
def InStep (year other : Int) : Prop := (year < other → KeepsOrder year other) ∧ (other < year → KeepsOrder other year)

/-! ### Widths of years -/

theorem length_yearDigits_of_nonneg {year : Int} (positive : 0 ≤ year) : (yearDigits year).length = yearWidth year := by
  obtain ⟨n, rfl⟩ := Int.eq_ofNat_of_zero_le positive
  have text : (toString (n : Int)).toList = Nat.toDigits 10 n := by
    change (toString n).toList = _
    rw [Nat.toString_eq_ofList_toDigits, String.toList_ofList]
  rw [yearDigits, if_pos positive, Text.length_padded, yearWidth, ← String.length_toList, text, Int.natAbs_natCast]

theorem length_yearDigits_of_neg {year : Int} (negative : year < 0) :
    (yearDigits year).length + 1 = yearWidth year := by
  obtain ⟨n, rfl⟩ := Int.eq_negSucc_of_lt_zero negative
  have text : (toString (Int.negSucc n)).toList = '-' :: Nat.toDigits 10 (n + 1) := by
    have signed : (toString (Int.negSucc n)).toList = '-' :: (toString (n + 1)).toList := String.toList_append
    rw [signed, Nat.toString_eq_ofList_toDigits, String.toList_ofList]
  rw [yearDigits, if_neg (by omega), Text.length_padded, yearWidth, ← String.length_toList, text, List.length_cons,
    Int.natAbs_negSucc, Nat.succ_eq_add_one]
  omega

theorem length_yearDigits_mono {year other : Int} (sign : 0 ≤ year ↔ 0 ≤ other) (size : year.natAbs ≤ other.natAbs) :
    (yearDigits year).length ≤ (yearDigits other).length := by
  have digits : (Nat.toDigits 10 year.natAbs).length ≤ (Nat.toDigits 10 other.natAbs).length := by
    refine (Nat.length_toDigits_le_iff (by decide) Nat.length_toDigits_pos).mpr (Nat.lt_of_le_of_lt size ?_)
    exact (Nat.length_toDigits_le_iff (by decide) Nat.length_toDigits_pos).mp (Nat.le_refl _)
  simp only [yearDigits, sign, Text.length_padded]
  omega

variable {a b : Date}

/-! ### Dates -/

theorem dayChars_lt_iff (short : a.Short) (also : b.Short) :
    a.dayChars < b.dayChars ↔ a.month < b.month ∨ a.month = b.month ∧ a.day < b.day := by
  have days : Text.padded 2 a.day < Text.padded 2 b.day ↔ a.day < b.day := by
    have compared := Text.append_lt_append_iff (Text.allDigits_padded 2 a.day) (Text.allDigits_padded 2 b.day)
      (short.length_day.trans also.length_day.symm) [] []
    simpa [Text.digitsValue_padded] using compared
  rw [dayChars, dayChars, Text.append_lt_append_iff (Text.allDigits_padded 2 a.month) (Text.allDigits_padded 2 b.month)
    (short.length_month.trans also.length_month.symm), Text.digitsValue_padded, Text.digitsValue_padded,
    List.cons_lt_cons_iff, days]
  simp

theorem chars_lt_iff_not {cs ds : List Char} (different : cs ≠ ds) : cs < ds ↔ ¬ ds < cs := by
  refine ⟨fun less => List.lt_asymm less, fun not_behind => ?_⟩
  exact Decidable.byContradiction fun not_before => different (List.le_antisymm not_behind not_before)

/-- Dates of one year are in the order of their texts. -/
theorem isoChars_lt_iff_of_year (short : a.Short) (also : b.Short) (year : a.year = b.year) :
    a.isoChars < b.isoChars ↔ a < b := by
  have days : a < b ↔ a.dayChars < b.dayChars := by
    rw [dayChars_lt_iff short also]
    refine ⟨fun less => ?_, fun less => .inr ⟨year, less⟩⟩
    exact less.elim (fun below => absurd year (Int.ne_of_lt below)) And.right
  have digits := Text.hyphened_lt_iff (allDigits_yearDigits b.year) (allDigits_yearDigits b.year) (Nat.le_refl _)
    a.dayChars b.dayChars
  rw [days, isoChars_eq, isoChars_eq, year]
  by_cases sign : 0 ≤ b.year
  · rw [yearChars_of_nonneg sign, digits]
    simp
  · rw [yearChars_of_neg (by omega), List.cons_append, List.cons_append, List.cons_lt_cons_iff, digits]
    simp

/-- Dates of two years are in the order of their texts exactly if the texts of the years keep theirs. -/
theorem isoChars_lt_iff_keepsOrder (short : a.Short) (also : b.Short) (year : a.year < b.year) :
    a.isoChars < b.isoChars ↔ KeepsOrder a.year b.year := by
  have digits := allDigits_yearDigits
  have size := digitsValue_yearDigits
  rw [isoChars_eq, isoChars_eq, KeepsOrder]
  by_cases sign : 0 ≤ a.year
  · have other_sign : 0 ≤ b.year := by omega
    have shorter := length_yearDigits_mono (iff_of_true sign other_sign) (by omega)
    rw [yearChars_of_nonneg sign, yearChars_of_nonneg other_sign, Text.hyphened_lt_iff (digits _) (digits _) shorter,
      size, size, length_yearDigits_of_nonneg sign, length_yearDigits_of_nonneg other_sign]
    rw [length_yearDigits_of_nonneg sign, length_yearDigits_of_nonneg other_sign] at shorter
    rcases Nat.eq_or_lt_of_le shorter with even | longer
    · simp only [even, Nat.sub_self, Nat.pow_zero, Nat.div_one]
      omega
    · omega
  by_cases other_sign : 0 ≤ b.year
  · rw [yearChars_of_neg (by omega), yearChars_of_nonneg other_sign]
    refine iff_of_true ?_ (.inl ⟨by omega, other_sign⟩)
    cases first : yearDigits b.year with
    | nil =>
      have width := length_yearDigits_of_nonneg other_sign
      rw [first, yearWidth, List.length_nil] at width
      omega
    | cons d ds =>
      have low := (Char.isDigit_iff_toNat.mp (digits b.year d (first ▸ List.mem_cons_self))).1
      exact List.cons_lt_cons_iff.mpr (.inl (Nat.lt_of_lt_of_le (show '-'.toNat < '0'.toNat by decide) low))
  · have shorter : (yearDigits b.year).length ≤ (yearDigits a.year).length :=
      length_yearDigits_mono (iff_of_false other_sign sign) (by omega)
    have width := length_yearDigits_of_neg (show a.year < 0 by omega)
    have other_width := length_yearDigits_of_neg (show b.year < 0 by omega)
    have gap : (yearDigits a.year).length - (yearDigits b.year).length = yearWidth a.year - yearWidth b.year := by omega
    -- The shorter text is that of the later date, so the texts are compared the other way round.
    have behind := Text.hyphened_lt_iff (digits b.year) (digits a.year) shorter b.dayChars a.dayChars
    rw [size, size, gap] at behind
    have different : yearDigits a.year ++ '-' :: a.dayChars ≠ yearDigits b.year ++ '-' :: b.dayChars := by
      intro same
      have texts : a.isoChars = b.isoChars := by
        rw [isoChars_eq, isoChars_eq, yearChars_of_neg (by omega), yearChars_of_neg (by omega)]
        exact congrArg ('-' :: ·) same
      rw [isoChars_injective short also texts] at year
      exact Int.lt_irrefl _ year
    have tails : ∀ cs ds : List Char, '-' :: cs < '-' :: ds ↔ cs < ds := fun cs ds => by simp
    rw [yearChars_of_neg (by omega), yearChars_of_neg (by omega), List.cons_append, List.cons_append, tails,
      chars_lt_iff_not different, behind]
    rcases Nat.eq_or_lt_of_le shorter with even | longer
    · have same : yearWidth a.year - yearWidth b.year = 0 := by omega
      simp only [same, Nat.pow_zero, Nat.div_one]
      omega
    · generalize a.year.natAbs / 10 ^ (yearWidth a.year - yearWidth b.year) = front
      omega

theorem isAscii_isoChars (d : Date) : ∀ c ∈ d.isoChars, c.toNat < 0x80 := by
  intro c member
  rcases mem_isoChars member with digit | rfl
  · exact Nat.lt_of_le_of_lt (Char.isDigit_iff_toNat.mp digit).2 (by decide)
  · decide

theorem bytesBefore_iso_iff : bytesBefore a.iso b.iso ↔ a.isoChars < b.isoChars := by
  rw [bytesBefore, Text.Utf8.bytes, Text.Utf8.bytes, iso, iso, String.toList_ofList, String.toList_ofList]
  exact Text.Utf8.encode_lt_iff a.isAscii_isoChars b.isAscii_isoChars

/-- The bytes of two dates stand in the order of the days exactly if their years are in step. -/
theorem bytesBefore_iso_iff_lt_iff (short : a.Short) (also : b.Short) :
    (bytesBefore a.iso b.iso ↔ a < b) ↔ InStep a.year b.year := by
  rcases Int.lt_trichotomy a.year b.year with early | same | late
  · have before : a < b := .inl early
    rw [bytesBefore_iso_iff, isoChars_lt_iff_keepsOrder short also early, iff_true_right before]
    exact ⟨fun keeps => ⟨fun _ => keeps, fun late => absurd early (Int.lt_asymm late)⟩, fun step => step.1 early⟩
  · rw [bytesBefore_iso_iff]
    refine iff_of_true (isoChars_lt_iff_of_year short also same) ⟨fun early => ?_, fun late => ?_⟩ <;> omega
  · have behind : ¬ a < b := by
      rintro (early | ⟨same, -⟩) <;> omega
    have different : b.isoChars ≠ a.isoChars := by
      intro same
      rw [isoChars_injective also short same] at late
      omega
    rw [bytesBefore_iso_iff, iff_false_right behind, ← chars_lt_iff_not different,
      isoChars_lt_iff_keepsOrder also short late]
    exact ⟨fun keeps => ⟨fun early => absurd late (Int.lt_asymm early), fun _ => keeps⟩, fun step => step.2 late⟩

theorem yearWidth_of_fourDigits {year : Int} (positive : 0 ≤ year) (small : year ≤ 9999) : yearWidth year = 4 := by
  rw [← length_yearDigits_of_nonneg positive, yearDigits, if_pos positive]
  exact Text.length_padded_of_lt (by decide) (by omega)

theorem inStep_of_fourDigits {year other : Int} (positive : 0 ≤ year) (small : year ≤ 9999) (also : 0 ≤ other)
    (other_small : other ≤ 9999) : InStep year other := by
  have width := yearWidth_of_fourDigits positive small
  have other_width := yearWidth_of_fourDigits also other_small
  refine ⟨fun early => .inr (.inl ⟨positive, ?_⟩), fun late => .inr (.inl ⟨also, ?_⟩)⟩ <;>
    · rw [width, other_width, Nat.sub_self, Nat.pow_zero, Nat.div_one]
      omega

end Date

namespace Filter.DateFilter

open Date

variable {f g : DateFilter} {a b : Date}

/-- The texts of two resolved dates are one text exactly if the days are one day.  Their bytes stand in the order of the days
exactly if the years are in step, which years of four digits are. -/
theorem resolved_order (first : f.resolve? = some a) (second : g.resolve? = some b) :
    (a.iso = b.iso ↔ a = b) ∧ ((bytesBefore a.iso b.iso ↔ a < b) ↔ InStep a.year b.year) ∧
      (0 ≤ a.year → a.year ≤ 9999 → 0 ≤ b.year → b.year ≤ 9999 → (bytesBefore a.iso b.iso ↔ a < b)) := by
  have short := short_of_isDay (resolve?_isDay first)
  have also := short_of_isDay (resolve?_isDay second)
  have step := bytesBefore_iso_iff_lt_iff short also
  refine ⟨iso_injective short also, step, fun positive small other_positive other_small => ?_⟩
  exact step.mpr (inStep_of_fourDigits positive small other_positive other_small)

/-- A date in one piece and one of parts, both of years with four digits. -/
theorem ides_and_newYear_order :
    ({ date := some "+44-3-15" } : DateFilter).resolve? = some ⟨44, 3, 15⟩ ∧
      ({ year := some "2020" } : DateFilter).resolve? = some ⟨2020, 1, 1⟩ ∧
      (iso ⟨44, 3, 15⟩ = iso ⟨2020, 1, 1⟩ ↔ (⟨44, 3, 15⟩ : Date) = ⟨2020, 1, 1⟩) ∧ InStep 44 2020 ∧
      (bytesBefore (iso ⟨44, 3, 15⟩) (iso ⟨2020, 1, 1⟩) ↔ (⟨44, 3, 15⟩ : Date) < ⟨2020, 1, 1⟩) := by
  have ides : ({ date := some "+44-3-15" } : DateFilter).resolve? = some ⟨44, 3, 15⟩ := rfl
  have newYear : ({ year := some "2020" } : DateFilter).resolve? = some ⟨2020, 1, 1⟩ := rfl
  obtain ⟨same, step, fourDigits⟩ := resolved_order ides newYear
  have order := fourDigits (by decide) (by decide) (by decide) (by decide)
  exact ⟨ides, newYear, same, step.mp order, order⟩

/-- The first day of the year 10000 comes after that of the year 9999, and its text comes before. -/
theorem fiveDigits_before_four :
    ({ year := some "9999" } : DateFilter).resolve? = some ⟨9999, 1, 1⟩ ∧
      ({ year := some "10000" } : DateFilter).resolve? = some ⟨10000, 1, 1⟩ ∧
      (⟨9999, 1, 1⟩ : Date) < ⟨10000, 1, 1⟩ ∧ ¬ bytesBefore (iso ⟨9999, 1, 1⟩) (iso ⟨10000, 1, 1⟩) ∧
      bytesBefore (iso ⟨10000, 1, 1⟩) (iso ⟨9999, 1, 1⟩) := by
  refine ⟨rfl, rfl, .inl (by decide), ?_, ?_⟩ <;>
    · rw [bytesBefore_iso_iff]
      decide

end Filter.DateFilter

end Gazetteer

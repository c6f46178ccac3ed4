import Gazetteer.Proofs.Text.Numeral
import Gazetteer.Text.Blank
import Mathlib.Algebra.Ring.Nat

/-!
Runs of digits.  A run has the value of its parts, and runs of one length stand in the order of their values, whatever
follows them.  A number that is written with a width has that width unless it needs more.
-/

namespace Gazetteer.Text

def AllDigits (ds : List Char) : Prop := ∀ d ∈ ds, d.isDigit = true

theorem AllDigits.append {ds es : List Char} (digits : AllDigits ds) (others : AllDigits es) : AllDigits (ds ++ es) :=
  List.forall_mem_append.mpr ⟨digits, others⟩

theorem AllDigits.take {ds : List Char} (digits : AllDigits ds) (n : Nat) : AllDigits (ds.take n) :=
  fun d member => digits d (List.mem_of_mem_take member)

theorem AllDigits.drop {ds : List Char} (digits : AllDigits ds) (n : Nat) : AllDigits (ds.drop n) :=
  fun d member => digits d (List.mem_of_mem_drop member)

/-! ### Values -/

theorem digitValue_lt {d : Char} (digit : d.isDigit = true) : digitValue d < 10 := by
  have range := Char.isDigit_iff_toNat.mp digit
  have last : '9'.toNat = '0'.toNat + 9 := rfl
  rw [digitValue]
  omega

theorem digitValue_lt_iff {d e : Char} (digit : d.isDigit = true) (other : e.isDigit = true) :
    digitValue d < digitValue e ↔ d < e := by
  have low := (Char.isDigit_iff_toNat.mp digit).1
  have other_low := (Char.isDigit_iff_toNat.mp other).1
  have codes : d < e ↔ d.toNat < e.toNat := Iff.rfl
  rw [digitValue, digitValue, codes]
  omega

theorem digitValue_inj {d e : Char} (digit : d.isDigit = true) (other : e.isDigit = true) :
    digitValue d = digitValue e ↔ d = e := by
  have low := (Char.isDigit_iff_toNat.mp digit).1
  have other_low := (Char.isDigit_iff_toNat.mp other).1
  rw [digitValue, digitValue, ← Char.toNat_inj]
  omega

theorem digitsOnto_eq (n : Nat) (ds : List Char) : digitsOnto n ds = 10 ^ ds.length * n + digitsValue ds := by
  have read : Nat.ofDigitChars 10 ds n = 10 ^ ds.length * n + Nat.ofDigitChars 10 ds 0 :=
    Nat.ofDigitChars_eq_ofDigitChars_zero
  rwa [Nat.ofDigitChars_eq_foldl, Nat.ofDigitChars_eq_foldl] at read

theorem digitsValue_append (ds es : List Char) :
    digitsValue (ds ++ es) = 10 ^ es.length * digitsValue ds + digitsValue es := by
  have behind : digitsValue (ds ++ es) = digitsOnto (digitsValue ds) es := List.foldl_append
  rw [behind, digitsOnto_eq]

theorem digitsValue_cons (d : Char) (ds : List Char) :
    digitsValue (d :: ds) = 10 ^ ds.length * digitValue d + digitsValue ds := by
  have one : digitsValue [d] = digitValue d := by simp [digitsValue]
  rw [← List.singleton_append, digitsValue_append, one]

theorem digitsValue_lt {ds : List Char} (digits : AllDigits ds) : digitsValue ds < 10 ^ ds.length := by
  induction ds with
  | nil => exact Nat.one_pos
  | cons d ds ih =>
    obtain ⟨first, rest⟩ := List.forall_mem_cons.mp digits
    have small := digitValue_lt first
    have below := ih rest
    rw [digitsValue_cons, List.length_cons, Nat.pow_succ]
    calc 10 ^ ds.length * digitValue d + digitsValue ds
        < 10 ^ ds.length * digitValue d + 10 ^ ds.length := Nat.add_lt_add_left below _
      _ = 10 ^ ds.length * (digitValue d + 1) := (Nat.mul_succ _ _).symm
      _ ≤ 10 ^ ds.length * 10 := Nat.mul_le_mul_left _ small

/-- The leading digits of a run. -/
theorem digitsValue_take {ds : List Char} (digits : AllDigits ds) (n : Nat) :
    digitsValue (ds.take n) = digitsValue ds / 10 ^ (ds.length - n) := by
  have split := digitsValue_append (ds.take n) (ds.drop n)
  have small := digitsValue_lt (digits.drop n)
  rw [List.take_append_drop, List.length_drop] at split
  rw [List.length_drop] at small
  rw [split, Nat.mul_add_div (Nat.pow_pos (by decide)), Nat.div_eq_of_lt small, Nat.add_zero]

/-! ### Order -/

variable {ds es : List Char}

/-- The order of numbers that one head of digits is put in front of. -/
theorem lead_lt_iff {unit a b m n : Nat} (small : m < unit) (also : n < unit) :
    unit * a + m < unit * b + n ↔ a < b ∨ a = b ∧ m < n := by
  constructor
  · intro less
    rcases Nat.lt_trichotomy a b with below | rfl | above
    · exact .inl below
    · exact .inr ⟨rfl, Nat.lt_of_add_lt_add_left less⟩
    · have far := Nat.mul_le_mul_left unit (Nat.succ_le_of_lt above)
      rw [Nat.mul_succ] at far
      omega
  · rintro (below | ⟨rfl, less⟩)
    · have far := Nat.mul_le_mul_left unit (Nat.succ_le_of_lt below)
      rw [Nat.mul_succ] at far
      omega
    · omega

theorem lead_eq_iff {unit a b m n : Nat} (small : m < unit) (also : n < unit) :
    unit * a + m = unit * b + n ↔ a = b ∧ m = n := by
  have less := lead_lt_iff (a := a) (b := b) small also
  have more := lead_lt_iff (a := b) (b := a) also small
  omega

/-- Runs of one length are compared by their values, and what follows them decides between equal ones. -/
theorem append_lt_append_iff (digits : AllDigits ds) (also : AllDigits es) (same : ds.length = es.length)
    (rest others : List Char) :
    ds ++ rest < es ++ others ↔
      digitsValue ds < digitsValue es ∨ digitsValue ds = digitsValue es ∧ rest < others := by
  induction ds generalizing es with
  | nil =>
    obtain rfl := List.length_eq_zero_iff.mp same.symm
    simp [digitsValue]
  | cons d ds ih =>
    cases es with
    | nil => cases same
    | cons e es =>
      obtain ⟨digit, digits⟩ := List.forall_mem_cons.mp digits
      obtain ⟨other, also⟩ := List.forall_mem_cons.mp also
      have length : ds.length = es.length := Nat.succ.inj same
      have small := digitsValue_lt digits
      have bounded := digitsValue_lt also
      rw [← length] at bounded
      rw [List.cons_append, List.cons_append, List.cons_lt_cons_iff, ih digits also length, digitsValue_cons,
        digitsValue_cons, ← length, lead_lt_iff small bounded, lead_eq_iff small bounded,
        digitValue_lt_iff digit other, digitValue_inj digit other, and_or_left, or_assoc, and_assoc]

/-- Runs of any lengths, with a hyphen behind each: the shorter one is compared with as many leading digits of the
longer one. -/
theorem hyphened_lt_iff (digits : AllDigits ds) (also : AllDigits es) (shorter : ds.length ≤ es.length)
    (rest others : List Char) :
    ds ++ '-' :: rest < es ++ '-' :: others ↔
      digitsValue ds < digitsValue es / 10 ^ (es.length - ds.length) ∨
        digitsValue ds = digitsValue es / 10 ^ (es.length - ds.length) ∧ (ds.length < es.length ∨ rest < others) := by
  have length : ds.length = (es.take ds.length).length := by rw [List.length_take, Nat.min_eq_left shorter]
  have behind : '-' :: rest < es.drop ds.length ++ '-' :: others ↔ ds.length < es.length ∨ rest < others := by
    cases left : es.drop ds.length with
    | nil =>
      have all : es.length ≤ ds.length := List.drop_eq_nil_iff.mp left
      simp [Nat.not_lt_of_le all]
    | cons e tail =>
      have longer : ds.length < es.length := by
        have count := congrArg List.length left
        rw [List.length_drop, List.length_cons] at count
        omega
      have digit : e.isDigit = true := also e (List.mem_of_mem_drop (left ▸ List.mem_cons_self))
      have before : '-' < e := by
        have low := (Char.isDigit_iff_toNat.mp digit).1
        exact Nat.lt_of_lt_of_le (show '-'.toNat < '0'.toNat by decide) low
      simp [List.cons_lt_cons_iff, before, longer]
  have parts : es ++ '-' :: others = es.take ds.length ++ (es.drop ds.length ++ '-' :: others) := by
    rw [← List.append_assoc, List.take_append_drop]
  rw [parts, append_lt_append_iff digits (also.take ds.length) length, digitsValue_take also, behind]

/-! ### Numbers with a width -/

theorem length_padded (width n : Nat) :
    (padded width n).length = max width (Nat.toDigits 10 n).length := by
  rw [padded, List.length_append, List.length_replicate]
  omega

theorem allDigits_toDigits (n : Nat) : AllDigits (Nat.toDigits 10 n) :=
  fun _ member => Nat.isDigit_of_mem_toDigits (by decide) (by decide) member

theorem allDigits_padded (width n : Nat) : AllDigits (padded width n) := by
  refine AllDigits.append (fun d member => ?_) (allDigits_toDigits n)
  rw [List.eq_of_mem_replicate member]
  rfl

theorem digitsValue_zeros (n : Nat) : digitsValue (List.replicate n '0') = 0 := by
  have read : Nat.ofDigitChars 10 (List.replicate n '0') 0 = 10 ^ n * 0 := Nat.ofDigitChars_replicate_zero
  rwa [Nat.ofDigitChars_eq_foldl] at read

theorem digitsValue_toDigits (n : Nat) : digitsValue (Nat.toDigits 10 n) = n := by
  have read : Nat.ofDigitChars 10 (Nat.toDigits 10 n) 0 = n := Nat.ofDigitChars_ten_toDigits
  rwa [Nat.ofDigitChars_eq_foldl] at read

theorem digitsValue_padded (width n : Nat) : digitsValue (padded width n) = n := by
  rw [padded, digitsValue_append, digitsValue_zeros, digitsValue_toDigits, Nat.mul_zero, Nat.zero_add]

/-- A number that fits a width takes all of it. -/
theorem length_padded_of_lt {width n : Nat} (positive : 0 < width) (fits : n < 10 ^ width) :
    (padded width n).length = width := by
  have short : (Nat.toDigits 10 n).length ≤ width := (Nat.length_toDigits_le_iff (by decide) positive).mpr fits
  rw [length_padded]
  omega

/-- A number that takes more than its width has no zero in front. -/
theorem head_padded {width n : Nat} (positive : 0 < width) (longer : width < (padded width n).length) :
    (padded width n).head? ≠ some '0' := by
  have digits : padded width n = Nat.toDigits 10 n := by
    rw [length_padded] at longer
    rw [padded, show width - (Nat.toDigits 10 n).length = 0 by omega, List.replicate_zero, List.nil_append]
  rw [digits] at longer ⊢
  intro zero
  obtain ⟨rest, split⟩ := List.head?_eq_some_iff.mp zero
  have all := allDigits_toDigits n
  have value := digitsValue_toDigits n
  rw [split] at all value longer
  have small := digitsValue_lt (List.forall_mem_cons.mp all).2
  have short : (Nat.toDigits 10 n).length ≤ rest.length := by
    refine (Nat.length_toDigits_le_iff (by decide) (by simp only [List.length_cons] at longer; omega)).mpr ?_
    rwa [← value, digitsValue_cons, show digitValue '0' = 0 from rfl, Nat.mul_zero, Nat.zero_add]
  rw [split, List.length_cons] at short
  omega

/-! ### Blanks -/

theorem isBlank_of_isDigit {c : Char} (digit : c.isDigit = true) : isBlank c = false := by
  obtain ⟨low, high⟩ := Char.isDigit_iff_toNat.mp digit
  have first : '0'.toNat = 0x30 := rfl
  have last : '9'.toNat = 0x39 := rfl
  simp only [isBlank, inRanges, blankRanges, List.any_cons, List.any_nil, Bool.or_false, Bool.or_eq_false_iff,
    Bool.and_eq_false_iff, decide_eq_false_iff_not]
  omega

theorem dropBlanks_of_clean {cs : List Char} (clean : ∀ c ∈ cs, isBlank c = false) : dropBlanks cs = cs := by
  cases cs with
  | nil => rfl
  | cons c cs => exact dropBlanks_of_head (clean c List.mem_cons_self)

theorem trimChars_of_clean {cs : List Char} (clean : ∀ c ∈ cs, isBlank c = false) : trimChars cs = cs := by
  have backwards : ∀ c ∈ cs.reverse, isBlank c = false := fun c member => clean c (List.mem_reverse.mp member)
  rw [trimChars, dropBlanks_of_clean clean, dropBlanks_of_clean backwards, List.reverse_reverse]

end Gazetteer.Text

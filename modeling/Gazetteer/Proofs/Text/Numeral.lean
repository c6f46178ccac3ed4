import Gazetteer.Text.DecimalDigit
import Gazetteer.Text.Numeral

/-!
Numerals that numbers are written with are read back, by the reader of bounded numbers exactly when the
number is within the bound.
-/

namespace Gazetteer.Text

theorem isDecimalDigit_of_isDigit {c : Char} (digit : c.isDigit = true) : isDecimalDigit c = true := by
  simp only [Char.isDigit, Bool.and_eq_true, decide_eq_true_eq, ge_iff_le, UInt32.le_iff_toNat_le] at digit
  have low : 0x30 ≤ c.toNat := digit.1
  have high : c.toNat ≤ 0x39 := digit.2
  simp [isDecimalDigit, decimalDigitRanges, inRanges, low, high]

theorem isDigit_of_mem_toString {n : Nat} {c : Char} (member : c ∈ (toString n).toList) : c.isDigit = true := by
  rw [Nat.toString_eq_ofList_toDigits, String.toList_ofList] at member
  exact Nat.isDigit_of_mem_toDigits (by decide) (by decide) member

theorem toString_toList_ne_nil (n : Nat) : (toString n).toList ≠ [] := by
  rw [Nat.toString_eq_ofList_toDigits, String.toList_ofList]
  exact Nat.toDigits_ne_nil

theorem digitsValue_toString (n : Nat) : digitsValue (toString n).toList = n := by
  rw [Nat.toString_eq_ofList_toDigits, String.toList_ofList]
  have read := Nat.ofDigitChars_ten_toDigits (n := n)
  rwa [Nat.ofDigitChars_eq_foldl] at read

/-! ### Whole numbers -/

def natural? (cs : List Char) : Option Nat :=
  if cs ≠ [] ∧ cs.all Char.isDigit then some (digitsValue cs) else none

def integer? : List Char → Option Int
  | '-' :: cs => (natural? cs).map fun n => -(Int.ofNat n)
  | cs => (natural? cs).map Int.ofNat

theorem natural?_toString (n : Nat) : natural? (toString n).toList = some n := by
  have digits : (toString n).toList.all Char.isDigit = true :=
    List.all_eq_true.mpr fun c member => isDigit_of_mem_toString member
  rw [natural?, if_pos ⟨toString_toList_ne_nil n, digits⟩, digitsValue_toString]

theorem integer?_toString (n : Int) : integer? (toString n).toList = some n := by
  cases n with
  | ofNat m =>
    have read := natural?_toString m
    change integer? (toString m).toList = _
    unfold integer?
    split
    next cs signed =>
      have digit : '-'.isDigit = true := isDigit_of_mem_toString (n := m) (by rw [signed]; exact List.mem_cons_self)
      exact absurd digit (by decide)
    next => rw [read]; rfl
  | negSucc m =>
    have signed : (toString (Int.negSucc m)).toList = '-' :: (toString (m + 1)).toList :=
      String.toList_append
    rw [signed, integer?, natural?_toString]
    rfl

/-! ### Reading within a bound -/

def digitsOnto (n : Nat) (ds : List Char) : Nat := ds.foldl (fun n d => 10 * n + digitValue d) n

theorem digitsOnto_cons (n : Nat) (d : Char) (ds : List Char) :
    digitsOnto n (d :: ds) = digitsOnto (10 * n + digitValue d) ds := by
  simp only [digitsOnto, List.foldl_cons]

theorem le_digitsOnto (n : Nat) (ds : List Char) : n ≤ digitsOnto n ds := by
  induction ds generalizing n with
  | nil => exact Nat.le_refl n
  | cons d ds ih => exact Nat.le_trans (by omega) (ih (10 * n + digitValue d))

theorem readDigits_of_digits {bound : Nat} {excess : NumeralError} {ds : List Char}
    (digits : ∀ d ∈ ds, d.isDigit = true) (n : Nat) (small : n ≤ bound) :
    readDigits bound excess n ds = if digitsOnto n ds ≤ bound then .ok (digitsOnto n ds) else .error excess := by
  induction ds generalizing n with
  | nil => simp [readDigits, digitsOnto, small]
  | cons d ds ih =>
    have rest : ∀ d ∈ ds, d.isDigit = true := fun d member => digits d (List.mem_cons_of_mem _ member)
    rw [digitsOnto_cons]
    simp only [readDigits, digits d List.mem_cons_self, if_true]
    by_cases fits : 10 * n + digitValue d ≤ bound
    · rw [if_pos fits, ih rest _ fits]
    · have grows := le_digitsOnto (10 * n + digitValue d) ds
      rw [if_neg fits, if_neg (by omega)]

theorem isDigit_of_readDigits {bound : Nat} {excess : NumeralError} {ds : List Char} {n m : Nat}
    (read : readDigits bound excess n ds = .ok m) : ∀ d ∈ ds, d.isDigit = true := by
  induction ds generalizing n with
  | nil => nofun
  | cons d ds ih =>
    rw [readDigits] at read
    split at read
    next digit =>
      dsimp only at read
      split at read
      · exact List.forall_mem_cons.mpr ⟨digit, ih read⟩
      · cases read
    · cases read

theorem readDigits1_eq_ok_iff {bound : Nat} {excess : NumeralError} {ds : List Char} {n : Nat} :
    readDigits1 bound excess ds = .ok n ↔ natural? ds = some n ∧ n ≤ bound := by
  have nonempty : ds.isEmpty = true ↔ ds = [] := List.isEmpty_iff
  rw [readDigits1, natural?]
  by_cases digits : ∀ d ∈ ds, d.isDigit = true
  · rw [readDigits_of_digits digits 0 (Nat.zero_le _), List.all_eq_true.mpr digits]
    have value : digitsOnto 0 ds = digitsValue ds := rfl
    rw [value]
    grind
  · have unread : readDigits bound excess 0 ds ≠ .ok n := fun read => digits (isDigit_of_readDigits read)
    have not_all : ds.all Char.isDigit = false := Bool.eq_false_iff.mpr fun all => digits (List.all_eq_true.mp all)
    grind

def IsNatural (cs : List Char) (n : Nat) : Prop :=
  natural? cs = some n ∨ ∃ ds, cs = '+' :: ds ∧ natural? ds = some n

theorem natural?_cons_eq_none {c : Char} {cs : List Char} (sign : c.isDigit = false) : natural? (c :: cs) = none := by
  rw [natural?, List.all_cons, sign]
  simp

theorem not_isNatural_minus (cs : List Char) (n : Nat) : ¬ IsNatural ('-' :: cs) n := by
  simp [IsNatural, natural?_cons_eq_none (show '-'.isDigit = false from rfl)]

theorem readNatural_eq_ok_iff {bound : Nat} {cs : List Char} {n : Nat} :
    readNatural bound cs = .ok n ↔ IsNatural cs n ∧ n ≤ bound := by
  unfold readNatural
  split
  · simp [IsNatural, natural?]
  · next ds =>
    simp [readDigits1_eq_ok_iff, IsNatural, natural?_cons_eq_none (show '+'.isDigit = false from rfl)]
  next unsigned =>
    have no_sign : ¬ ∃ ds, cs = '+' :: ds ∧ natural? ds = some n := fun ⟨ds, signed, _⟩ => unsigned ds signed
    rw [readDigits1_eq_ok_iff, IsNatural, or_iff_left no_sign]

theorem readNatural_toOption_eq_some_iff {bound : Nat} {cs : List Char} {n : Nat} :
    (readNatural bound cs).toOption = some n ↔ IsNatural cs n ∧ n ≤ bound := by
  rw [← readNatural_eq_ok_iff]
  cases readNatural bound cs with
  | error _ => exact ⟨nofun, nofun⟩
  | ok m => exact ⟨fun same => congrArg _ (Option.some.inj same), fun same => congrArg _ (Except.ok.inj same)⟩

theorem readNatural_toString (bound n : Nat) :
    readNatural bound (toString n).toList = if n ≤ bound then .ok n else .error .tooLarge := by
  have digits : ∀ d ∈ (toString n).toList, d.isDigit = true := fun d => isDigit_of_mem_toString
  have value : digitsOnto 0 (toString n).toList = n := digitsValue_toString n
  have read : readDigits bound .tooLarge 0 (toString n).toList = if n ≤ bound then .ok n else .error .tooLarge := by
    rw [readDigits_of_digits digits 0 (Nat.zero_le _), value]
  cases same : (toString n).toList with
  | nil => exact absurd same (toString_toList_ne_nil n)
  | cons c cs =>
    rw [same] at digits read
    have no_sign : c ≠ '+' := by
      rintro rfl
      exact absurd (digits '+' List.mem_cons_self) (by decide)
    unfold readNatural
    split
    · rename_i empty
      cases empty
    · rename_i signed
      exact absurd (List.cons.inj signed).1 no_sign
    · simpa [readDigits1] using read

end Gazetteer.Text

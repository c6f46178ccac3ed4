import Gazetteer.Sql.Placeholder
import Gazetteer.Proofs.Text.Numeral
import Mathlib.Data.List.TakeWhile

/-!
The pieces of any text.  A placeholder is taken with all its digits where one starts, and where none starts the
text loses one character.
-/

namespace Gazetteer.Sql

def StartsPlaceholder (cs : List Char) : Prop :=
  ∃ d rest, Text.isDecimalDigit d = true ∧ cs = ':' :: 'p' :: d :: rest

/-- All the digits in front of a text: at least one, and what follows begins with none. -/
structure AllOfDigits (digits rest : List Char) : Prop where
  some_digit : digits ≠ []
  all_digits : ∀ d ∈ digits, Text.isDecimalDigit d = true
  no_more : ∀ d ∈ rest.head?, Text.isDecimalDigit d = false

variable {c : Char} {cs text digits rest : List Char}

theorem AllOfDigits.takeWhile_eq (all : AllOfDigits digits rest) :
    (digits ++ rest).takeWhile Text.isDecimalDigit = digits := by
  have stops : rest.takeWhile Text.isDecimalDigit = [] := by
    cases rest with
    | nil => rfl
    | cons d rest => exact List.takeWhile_cons_of_neg (Bool.not_eq_true _ ▸ all.no_more d rfl)
  rw [List.takeWhile_append_of_pos all.all_digits, stops, List.append_nil]

theorem leadingPlaceholder?_of_ne (h : c ≠ ':') : leadingPlaceholder? (c :: cs) = none := by
  unfold leadingPlaceholder?
  split
  · rename_i same
    exact absurd (List.cons.inj same).1 h
  · rfl

theorem leadingPlaceholder?_append (all : AllOfDigits digits rest) :
    leadingPlaceholder? (':' :: 'p' :: (digits ++ rest)) = some digits := by
  have taken := all.takeWhile_eq
  cases digits with
  | nil => exact absurd rfl all.some_digit
  | cons d digits => simp only [leadingPlaceholder?, taken]

theorem exists_of_leadingPlaceholder? (leads : leadingPlaceholder? cs = some digits) :
    ∃ rest, AllOfDigits digits rest ∧ cs = ':' :: 'p' :: (digits ++ rest) := by
  unfold leadingPlaceholder? at leads
  split at leads
  next behind =>
    split at leads
    · cases leads
    next some_digit =>
      cases leads
      refine ⟨behind.dropWhile Text.isDecimalDigit, ⟨some_digit, fun d => List.mem_takeWhile_imp, ?_⟩, ?_⟩
      · intro d head
        have stopped := List.head?_dropWhile_not Text.isDecimalDigit behind
        rw [Option.mem_def.mp head] at stopped
        exact stopped
      · rw [List.takeWhile_append_dropWhile]
  · cases leads

theorem leadingPlaceholder?_eq_none_iff : leadingPlaceholder? cs = none ↔ ¬ StartsPlaceholder cs := by
  constructor
  · rintro none_leads ⟨d, rest, digit, rfl⟩
    simp [leadingPlaceholder?, digit] at none_leads
  · intro clear
    refine Option.eq_none_iff_forall_ne_some.mpr fun digits leads => ?_
    obtain ⟨rest, ⟨some_digit, all_digits, -⟩, rfl⟩ := exists_of_leadingPlaceholder? leads
    obtain ⟨d, others, rfl⟩ := List.exists_cons_of_ne_nil some_digit
    exact clear ⟨d, others ++ rest, all_digits d List.mem_cons_self, rfl⟩

/-! ### Pieces -/

theorem piecesAfter_skip (cs rest : List Char) : piecesAfter cs.length (cs ++ rest) = pieces rest := by
  induction cs with
  | nil => rfl
  | cons c cs ih => exact ih

theorem pieces_cons (clear : ¬ StartsPlaceholder (c :: cs)) : pieces (c :: cs) = .char c :: pieces cs := by
  have leads := leadingPlaceholder?_eq_none_iff.mpr clear
  simp only [pieces, piecesAfter, leads]

theorem pieces_placeholder (all : AllOfDigits digits rest) :
    pieces (':' :: 'p' :: (digits ++ rest)) = .placeholder digits :: pieces rest := by
  have leads := leadingPlaceholder?_append all
  rw [← piecesAfter_skip ('p' :: digits) rest]
  simp only [pieces, piecesAfter, leads, List.length_cons, List.cons_append]

/-- No placeholder starts in a text, whatever part of it lies in what follows. -/
def Clear (text rest : List Char) : Prop :=
  ∀ before after, text = before ++ after → after ≠ [] → ¬ StartsPlaceholder (after ++ rest)

theorem clear_nil (rest : List Char) : Clear [] rest := by
  intro before after split nonempty
  exact absurd (List.append_eq_nil_iff.mp split.symm).2 nonempty

theorem clear_cons : Clear (c :: text) rest ↔ ¬ StartsPlaceholder (c :: (text ++ rest)) ∧ Clear text rest := by
  constructor
  · intro clear
    refine ⟨clear [] (c :: text) rfl (List.cons_ne_nil _ _), fun before after split => ?_⟩
    exact clear (c :: before) after (congrArg (c :: ·) split)
  · rintro ⟨here, later⟩ before after split nonempty
    cases before with
    | nil =>
      obtain rfl : c :: text = after := split
      exact here
    | cons b before => exact later before after (List.cons.inj split).2 nonempty

theorem pieces_append (clear : Clear text rest) : pieces (text ++ rest) = text.map .char ++ pieces rest := by
  induction text with
  | nil => rfl
  | cons c text ih =>
    obtain ⟨here, later⟩ := clear_cons.mp clear
    rw [List.cons_append, pieces_cons here, ih later, List.map_cons, List.cons_append]

theorem clear_of_no_colon (no_colon : ':' ∉ text) (rest : List Char) : Clear text rest := by
  rintro before after rfl nonempty ⟨d, behind, -, starts⟩
  obtain ⟨c, after, rfl⟩ := List.exists_cons_of_ne_nil nonempty
  rw [List.cons_append] at starts
  exact no_colon ((List.cons.inj starts).1 ▸ List.mem_append_right before List.mem_cons_self)

/-! ### Indices -/

theorem ne_plus_of_isDecimalDigit (digit : Text.isDecimalDigit c = true) : c ≠ '+' := by
  rintro rfl
  exact absurd digit (by decide)

/-- Digits name an index if they are ASCII and a machine word holds their number, however many they are. -/
theorem index?_eq (some_digit : digits ≠ []) (all_digits : ∀ d ∈ digits, Text.isDecimalDigit d = true) :
    index? digits =
      if digits.all Char.isDigit = true ∧ Text.digitsValue digits ≤ greatestIndex then some (Text.digitsValue digits)
      else none := by
  -- readers of numbers take a plus in front of them, which is no digit of any script
  have unsigned : ∀ n, Text.IsNatural digits n ↔ Text.natural? digits = some n := by
    intro n
    refine or_iff_left ?_
    rintro ⟨others, rfl, -⟩
    exact ne_plus_of_isDecimalDigit (all_digits '+' List.mem_cons_self) rfl
  refine Option.ext fun n => ?_
  rw [index?, Text.readNatural_toOption_eq_some_iff, unsigned, Text.natural?]
  grind

end Gazetteer.Sql

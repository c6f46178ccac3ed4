import Gazetteer.Proofs.Sql.Pieces

/-!
Texts cut at their placeholders.  A text has exactly one cut into the leftmost and longest placeholders and the
texts between them, and inlining leaves those texts and puts a literal, or the placeholder itself, into each gap.
What stands in a gap is settled by the number of values before any of them is looked at.
-/

namespace Gazetteer.Sql

/-- A text with the digits of a placeholder between each two of its parts. -/
inductive Cut where
  | last (text : List Char)
  | next (text digits : List Char) (rest : Cut)
  deriving DecidableEq, Repr

/-- What stands in an inlined text: text of the template or one of so many values. -/
inductive Part (count : Nat) where
  | text (cs : List Char)
  | value (index : Fin count)
  deriving DecidableEq, Repr

namespace Part

/-- Digits stand for a value if they are ASCII and their number is a machine word and below the number of values. -/
def ofDigits (count : Nat) (digits : List Char) : Part count :=
  if named : digits.all Char.isDigit = true ∧ Text.digitsValue digits ≤ greatestIndex ∧ Text.digitsValue digits < count then
    .value ⟨Text.digitsValue digits, named.2.2⟩
  else .text (':' :: 'p' :: digits)

def inlined (values : List String) : Part values.length → List Char
  | .text cs => cs
  | .value index => literalChars values[index]

theorem inlined_ofDigits {digits : List Char} (some_digit : digits ≠ [])
    (all_digits : ∀ d ∈ digits, Text.isDecimalDigit d = true) (values : List String) :
    (ofDigits values.length digits).inlined values = (Piece.placeholder digits).inlined values := by
  rw [Piece.inlined, index?_eq some_digit all_digits, ofDigits]
  by_cases readable : digits.all Char.isDigit = true ∧ Text.digitsValue digits ≤ greatestIndex
  · by_cases below : Text.digitsValue digits < values.length
    · simp [readable, below, inlined]
    · simp [readable, below, inlined, Piece.chars]
  · have unnamed : ¬ (digits.all Char.isDigit = true ∧ Text.digitsValue digits ≤ greatestIndex ∧
        Text.digitsValue digits < values.length) := fun named => readable ⟨named.1, named.2.1⟩
    rw [dif_neg unnamed, if_neg readable]
    rfl

end Part

namespace Cut

def chars : Cut → List Char
  | last text => text
  | next text digits rest => text ++ ':' :: 'p' :: (digits ++ rest.chars)

/-- From left to right no placeholder starts before the next one that is cut out, and that one has all its digits. -/
inductive LeftmostLongest : Cut → Prop
  | last {text : List Char} (clear : Clear text []) : LeftmostLongest (last text)
  | next {text digits : List Char} {rest : Cut} (clear : Clear text (':' :: 'p' :: (digits ++ rest.chars)))
    (all : AllOfDigits digits rest.chars) (later : LeftmostLongest rest) : LeftmostLongest (next text digits rest)

def frame (count : Nat) : Cut → List (Part count)
  | last text => [.text text]
  | next text digits rest => .text text :: .ofDigits count digits :: rest.frame count

def pieces : Cut → List Piece
  | last text => text.map .char
  | next text digits rest => text.map .char ++ .placeholder digits :: rest.pieces

variable {cut other : Cut}

/-! ### There is one cut -/

theorem pieces_chars (longest : cut.LeftmostLongest) : Sql.pieces cut.chars = cut.pieces := by
  induction longest with
  | last clear =>
    have read := pieces_append clear
    rwa [List.append_nil, show Sql.pieces [] = [] from rfl, List.append_nil] at read
  | next clear all _ ih => rw [chars, pieces_append clear, pieces_placeholder all, ih, pieces]

def cons (c : Char) : Cut → Cut
  | last text => last (c :: text)
  | next text digits rest => next (c :: text) digits rest

theorem chars_cons (c : Char) (cut : Cut) : (cut.cons c).chars = c :: cut.chars := by
  cases cut <;> rfl

def ofPieces : List Piece → Cut
  | [] => last []
  | .char c :: ps => (ofPieces ps).cons c
  | .placeholder digits :: ps => next [] digits (ofPieces ps)

theorem ofPieces_pieces (cut : Cut) : ofPieces cut.pieces = cut := by
  induction cut with
  | last text =>
    induction text with
    | nil => rfl
    | cons c text ih => exact congrArg (cons c) ih
  | next text digits rest ih =>
    induction text with
    | nil => exact congrArg (next [] digits) ih
    | cons c text ih => exact congrArg (cons c) ih

theorem LeftmostLongest.unique (longest : cut.LeftmostLongest) (also : other.LeftmostLongest)
    (same : cut.chars = other.chars) : cut = other := by
  -- a text has its pieces however it is cut, and they give back the cut
  rw [← ofPieces_pieces cut, ← ofPieces_pieces other, ← pieces_chars longest, ← pieces_chars also, same]

theorem LeftmostLongest.cons {c : Char} (longest : cut.LeftmostLongest) (here : ¬ StartsPlaceholder (c :: cut.chars)) :
    (cut.cons c).LeftmostLongest := by
  cases longest with
  | last clear => exact .last (clear_cons.mpr ⟨by rwa [List.append_nil], clear⟩)
  | next clear all later => exact .next (clear_cons.mpr ⟨here, clear⟩) all later

theorem exists_leftmostLongest (cs : List Char) : ∃ cut : Cut, cut.LeftmostLongest ∧ cut.chars = cs := by
  -- a placeholder takes more than one character, so the induction is on the length of what is left
  induction length : cs.length using Nat.strong_induction_on generalizing cs with
  | _ n ih =>
    subst length
    cases leads : leadingPlaceholder? cs with
    | some digits =>
      obtain ⟨rest, all, rfl⟩ := exists_of_leadingPlaceholder? leads
      obtain ⟨cut, longest, rfl⟩ := ih rest.length (by simp only [List.length_cons, List.length_append]; omega) rest rfl
      exact ⟨next [] digits cut, .next (clear_nil _) all longest, rfl⟩
    | none =>
      cases cs with
      | nil => exact ⟨last [], .last (clear_nil []), rfl⟩
      | cons c cs =>
        obtain ⟨cut, longest, rfl⟩ := ih cs.length (by simp) cs rfl
        exact ⟨cut.cons c, longest.cons (leadingPlaceholder?_eq_none_iff.mp leads), chars_cons c cut⟩

/-! ### The inlined text -/

theorem inlined_pieces (longest : cut.LeftmostLongest) (values : List String) :
    cut.pieces.flatMap (Piece.inlined values) = (cut.frame values.length).flatMap (Part.inlined values) := by
  have kept : ∀ text : List Char, (text.map Piece.char).flatMap (Piece.inlined values) = text := by
    intro text
    simp [List.flatMap_map, Piece.inlined]
  induction longest with
  | last clear => simp [pieces, frame, kept, Part.inlined]
  | next clear all later ih =>
    rw [pieces, frame, List.flatMap_append, kept, List.flatMap_cons, ih, List.flatMap_cons, List.flatMap_cons,
      Part.inlined_ofDigits all.some_digit all.all_digits]
    rfl

end Cut

/-- Placeholders are replaced in a single pass.  A text has one cut into the leftmost and longest placeholders and the
texts between them, and inlining leaves each of these texts and puts the literal of the value it names into the place of
each placeholder, which stays if it names none.  The frame that the literals go into is made of the text and the number of
values alone, so that nothing in a value is ever taken for a placeholder. -/
theorem inline_in_one_pass (sql : String) :
    ∃ cut : Cut, (cut.LeftmostLongest ∧ cut.chars = sql.toList) ∧
      (∀ other : Cut, other.LeftmostLongest → other.chars = sql.toList → other = cut) ∧
      ∀ values : List String,
        (inline sql values).toList = (cut.frame values.length).flatMap (Part.inlined values) := by
  obtain ⟨cut, longest, spelled⟩ := Cut.exists_leftmostLongest sql.toList
  refine ⟨cut, ⟨longest, spelled⟩, fun other also same => also.unique longest (same.trans spelled.symm), ?_⟩
  intro values
  rw [inline, String.toList_ofList, inlineChars, ← spelled, Cut.pieces_chars longest, Cut.inlined_pieces longest]

example : inline ":p01 :p2 :p:p1" [":p1", "it's"] = "'it''s' :p2 :p'it''s'" := by decide

end Gazetteer.Sql

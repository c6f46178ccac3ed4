import Gazetteer.Proofs.Sql.Template

/-!
Inlining a template.  `tokens_inlineChars` says what the inlined text reads as: the tokens of the template
with a literal in the place of each placeholder that has a value.
-/

namespace Gazetteer.Sql

def Token.filled (values : List String) : Token → Token
  | .placeholder digits =>
    match (index? digits).bind (values[·]?) with
    | some value => .literal (clean value.toList)
    | none => .placeholder digits
  | t => t

/-! ### The pieces of a template -/

def Token.pieces : Token → List Piece
  | .placeholder digits => [.placeholder digits]
  | t => t.chars.map .char

theorem no_colon_of_doubled {text : List Char} (quiet : ':' ∉ text) : ':' ∉ text.flatMap doubleQuote := by
  intro member
  obtain ⟨c, present, doubled⟩ := List.mem_flatMap.mp member
  unfold doubleQuote at doubled
  split at doubled
  · simp at doubled
  · exact quiet (List.mem_singleton.mp doubled ▸ present)

theorem Template.tail {t : Token} {ts : List Token} (template : Template (t :: ts)) : Template ts := by
  refine ⟨?_, fun text member => template.quiet text (List.mem_cons_of_mem _ member)⟩
  cases template.readable with
  | char _ _ rest => exact rest
  | placeholder _ _ _ rest => exact rest
  | literal _ rest => exact rest

theorem pieces_spell {ts : List Token} (template : Template ts) :
    pieces (spell ts) = ts.flatMap Token.pieces := by
  induction ts with
  | nil => rfl
  | cons t ts ih =>
    have rest := ih template.tail
    rw [List.flatMap_cons, ← rest, show spell (t :: ts) = t.chars ++ spell ts from rfl]
    cases template.readable with
    | char _ no_colon => exact pieces_append (clear_of_no_colon (by simpa [Token.chars] using no_colon.symm) _)
    | placeholder some_digit all_digits apart readable =>
      exact pieces_placeholder (apart.allOfDigits readable some_digit all_digits)
    | @literal text =>
      have quiet := no_colon_of_doubled (template.quiet text List.mem_cons_self)
      exact pieces_append (clear_of_no_colon (by simpa [Token.chars] using quiet) _)

/-! ### The inlined text -/

theorem Token.chars_filled (values : List String) (t : Token) :
    t.pieces.flatMap (Piece.inlined values) = (t.filled values).chars := by
  cases t with
  | placeholder digits =>
    simp only [Token.pieces, List.flatMap_singleton, Piece.inlined, Token.filled]
    cases (index? digits).bind (values[·]?) with
    | none => rfl
    | some value => rfl
  | _ => simp [Token.pieces, Token.filled, List.flatMap_map, Piece.inlined]

theorem inlineChars_spell {ts : List Token} (template : Template ts) (values : List String) :
    inlineChars values (spell ts) = spell (ts.map (Token.filled values)) := by
  rw [inlineChars, pieces_spell template, List.flatMap_assoc]
  simp only [spell, List.flatMap_map, Token.chars_filled]

theorem Apart.filled {ts : List Token} (apart : Apart ts) (values : List String) :
    Apart (ts.map (Token.filled values)) := by
  cases apart with
  | nil => exact .nil
  | char no_digit => exact .char no_digit

theorem Readable.filled {ts : List Token} (readable : Readable ts) (values : List String) :
    Readable (ts.map (Token.filled values)) := by
  induction readable with
  | nil => exact .nil
  | char no_quote no_colon _ ih => exact .char no_quote no_colon ih
  | placeholder some_digit all_digits apart _ ih =>
    rw [List.map_cons, Token.filled]
    split
    · exact .literal (apart.filled values) ih
    · exact .placeholder some_digit all_digits (apart.filled values) ih
  | literal apart _ ih => exact .literal (apart.filled values) ih

/-- Values stay inside their literals: the inlined text reads as the template with its placeholders filled. -/
theorem tokens_inlineChars {cs : List Char} {ts : List Token} (template : Template ts) (spelled : spell ts = cs)
    (values : List String) : tokens (inlineChars values cs) = (tokens cs).map (Token.filled values) := by
  subst spelled
  rw [inlineChars_spell template, tokens_spell (template.readable.filled values), tokens_spell template.readable]

/-! ### Clean texts -/

def dropped : List Char := ['"', '\\', '%', '\x00']

def blanked : List Char := ['\n', '\r', '\x08', '\t', '\x1a']

def kept (text : List Char) : List Char :=
  (text.filter fun c => c ∉ dropped).map fun c => if c ∈ blanked then ' ' else c

theorem cleanChar_eq (c : Char) :
    cleanChar c = if c ∈ dropped then none else if c ∈ blanked then some ' ' else some c := by
  have code : ∀ d : Char, c.toNat = d.toNat ↔ c = d := fun d => Char.toNat_inj
  have nul : c.toNat = 0 ↔ c = '\x00' := code '\x00'
  have backspace : c.toNat = 0x08 ↔ c = '\x08' := code '\x08'
  have substitute : c.toNat = 0x1A ↔ c = '\x1a' := code '\x1a'
  simp only [cleanChar, nul, backspace, substitute, dropped, blanked, List.mem_cons, List.not_mem_nil, or_false,
    Bool.or_eq_true, decide_eq_true_eq]
  grind

theorem clean_eq_kept (text : List Char) : clean text = kept text := by
  induction text with
  | nil => rfl
  | cons c text ih =>
    have step : clean (c :: text) = (cleanChar c).toList ++ clean text := by
      rw [clean, List.filterMap_cons]
      cases cleanChar c <;> rfl
    rw [step, ih, cleanChar_eq]
    by_cases drop : c ∈ dropped
    · simp [kept, drop]
    · by_cases blank : c ∈ blanked <;> simp [kept, drop, blank]

theorem length_kept_le (text : List Char) : (kept text).length ≤ text.length := by
  simpa [kept] using List.length_filter_le _ text

/-- A text is left as it is exactly when it has none of the nine characters. -/
theorem kept_eq_self (text : List Char) : kept text = text ↔ ∀ c ∈ text, c ∉ dropped ∧ c ∉ blanked := by
  induction text with
  | nil => simp [kept]
  | cons c text ih =>
    have shorter := length_kept_le text
    by_cases drop : c ∈ dropped
    · have skipped : kept (c :: text) = kept text := by simp [kept, drop]
      have different : kept text ≠ c :: text := by
        intro same
        have := congrArg List.length same
        simp only [List.length_cons] at this
        omega
      simp [skipped, different, drop]
    · have step : kept (c :: text) = (if c ∈ blanked then ' ' else c) :: kept text := by simp [kept, drop]
      have space : ' ' ∉ blanked := by decide
      rw [step, List.cons.injEq, ih, List.forall_mem_cons]
      by_cases blank : c ∈ blanked
      · have changed : ' ' ≠ c := fun same => space (same ▸ blank)
        simp [blank, changed]
      · simp [blank, drop]

end Gazetteer.Sql

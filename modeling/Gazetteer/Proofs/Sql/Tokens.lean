import Gazetteer.Proofs.Sql.Pieces

/-!
Reading SQL by the rule of quotes.  Outside literals a text is placeholders and other characters; a single
quote begins a literal, two quotes in a row inside it stand for one, and the first quote that stands alone
ends it.  `tokens_spell` shows that a list of tokens is read back from its text when no value runs into what
follows it.
-/

namespace Gazetteer.Sql

inductive Token where
  | char (c : Char)
  | placeholder (digits : List Char)
  | literal (text : List Char)
  /-- A literal that the text ends in. -/
  | unclosed (text : List Char)
  deriving DecidableEq, Repr

def Token.chars : Token → List Char
  | .char c => [c]
  | .placeholder digits => ':' :: 'p' :: digits
  | .literal text => '\'' :: (text.flatMap doubleQuote ++ ['\''])
  | .unclosed text => '\'' :: text.flatMap doubleQuote

def spell (ts : List Token) : List Char := ts.flatMap Token.chars

inductive Place where
  /-- Outside literals, with so many characters left of a placeholder. -/
  | outside (skip : Nat)
  | inside (text : List Char)
  /-- After a quote in a literal, which ends it unless a second one follows. -/
  | quoted (text : List Char)

def Place.finish : Place → List Token
  | .outside _ => []
  | .inside text => [.unclosed text]
  | .quoted text => [.literal text]

def readOutside (c : Char) (cs : List Char) (next : Place → List Token) : List Token :=
  if c = '\'' then next (.inside [])
  else
    match leadingPlaceholder? (c :: cs) with
    | some digits => .placeholder digits :: next (.outside (digits.length + 1))
    | none => .char c :: next (.outside 0)

def tokensFrom : Place → List Char → List Token
  | place, [] => place.finish
  | .outside (skip + 1), _ :: cs => tokensFrom (.outside skip) cs
  | .outside 0, c :: cs => readOutside c cs fun place => tokensFrom place cs
  | .inside text, c :: cs =>
    if c = '\'' then tokensFrom (.quoted text) cs else tokensFrom (.inside (text ++ [c])) cs
  | .quoted text, c :: cs =>
    if c = '\'' then tokensFrom (.inside (text ++ ['\''])) cs
    else .literal text :: readOutside c cs fun place => tokensFrom place cs

def tokens (cs : List Char) : List Token := tokensFrom (.outside 0) cs

example : tokens "a = 'it''s :p1' :p12".toList =
    ("a = ".toList.map .char) ++ [.literal "it's :p1".toList, .char ' ', .placeholder ['1', '2']] := by decide

/-! ### Tokens that can be read back -/

inductive Apart : List Token → Prop
  | nil : Apart []
  | char {c : Char} {ts : List Token} (no_digit : Text.isDecimalDigit c = false) : Apart (.char c :: ts)

/-- Tokens that no neighbour changes the reading of.  Quotes and colons are kept to literals and
placeholders, and what follows a value is apart from it. -/
inductive Readable : List Token → Prop
  | nil : Readable []
  | char {c : Char} {ts : List Token} (no_quote : c ≠ '\'') (no_colon : c ≠ ':') (rest : Readable ts) :
    Readable (.char c :: ts)
  | placeholder {digits : List Char} {ts : List Token} (some_digit : digits ≠ [])
    (all_digits : ∀ d ∈ digits, Text.isDecimalDigit d = true) (apart : Apart ts) (rest : Readable ts) :
    Readable (.placeholder digits :: ts)
  | literal {text : List Char} {ts : List Token} (apart : Apart ts) (rest : Readable ts) :
    Readable (.literal text :: ts)

theorem Apart.append {xs ys : List Token} (hx : Apart xs) (hy : Apart ys) : Apart (xs ++ ys) := by
  cases hx with
  | nil => exact hy
  | char no_digit => exact .char no_digit

theorem Readable.append {xs ys : List Token} (hx : Readable xs) (hy : Readable ys) (apart : Apart ys) :
    Readable (xs ++ ys) := by
  induction hx with
  | nil => exact hy
  | char no_quote no_colon _ ih => exact .char no_quote no_colon ih
  | placeholder some_digit all_digits before _ ih => exact .placeholder some_digit all_digits (before.append apart) ih
  | literal before _ ih => exact .literal (before.append apart) ih

theorem Readable.no_unclosed {ts : List Token} (readable : Readable ts) (text : List Char) : .unclosed text ∉ ts := by
  induction readable with
  | nil => simp
  | char _ _ _ ih | placeholder _ _ _ _ ih | literal _ _ ih => simpa using ih

/-- The text after a value begins with neither a quote nor a digit. -/
theorem Apart.head {ts : List Token} (apart : Apart ts) (readable : Readable ts) :
    spell ts = [] ∨ ∃ c cs, spell ts = c :: cs ∧ c ≠ '\'' ∧ Text.isDecimalDigit c = false := by
  cases apart with
  | nil => exact .inl rfl
  | char no_digit =>
    cases readable with
    | char no_quote => exact .inr ⟨_, _, rfl, no_quote, no_digit⟩

/-! ### Reading a spelled text -/

theorem Apart.allOfDigits {digits : List Char} {ts : List Token} (apart : Apart ts) (readable : Readable ts)
    (some_digit : digits ≠ []) (all_digits : ∀ d ∈ digits, Text.isDecimalDigit d = true) :
    AllOfDigits digits (spell ts) := by
  refine ⟨some_digit, all_digits, ?_⟩
  rcases apart.head readable with empty | ⟨c, cs, same, -, no_digit⟩
  · simp [empty]
  · simp [same, no_digit]

theorem tokensFrom_skip (cs rest : List Char) :
    tokensFrom (.outside cs.length) (cs ++ rest) = tokensFrom (.outside 0) rest := by
  induction cs with
  | nil => rfl
  | cons c cs ih => exact ih

/-- Inside a literal the doubled quotes of its text do not end it. -/
theorem tokensFrom_inside (before text rest : List Char) :
    tokensFrom (.inside before) (text.flatMap doubleQuote ++ '\'' :: rest) =
      tokensFrom (.quoted (before ++ text)) rest := by
  -- `before` grows by what has been read, so it is general in the induction
  induction text generalizing before with
  | nil => simp [tokensFrom]
  | cons c text ih =>
    by_cases quote : c = '\''
    · subst quote
      simp [doubleQuote, tokensFrom, ih]
    · simp [doubleQuote, quote, tokensFrom, ih]

theorem tokensFrom_quoted {text : List Char} {ts : List Token} (apart : Apart ts) (readable : Readable ts) :
    tokensFrom (.quoted text) (spell ts) = .literal text :: tokens (spell ts) := by
  rcases apart.head readable with empty | ⟨c, cs, same, no_quote, -⟩
  · simp [empty, tokens, tokensFrom, Place.finish]
  · simp [same, tokens, tokensFrom, no_quote]

/-- Readable tokens are what their text reads as. -/
theorem tokens_spell {ts : List Token} (readable : Readable ts) : tokens (spell ts) = ts := by
  induction readable with
  | nil => rfl
  | @char c ts no_quote no_colon _ ih =>
    have read : tokens (spell (.char c :: ts)) = .char c :: tokens (spell ts) := by
      change tokensFrom (.outside 0) (c :: spell ts) = _
      simp [tokensFrom, readOutside, no_quote, leadingPlaceholder?_of_ne no_colon, tokens]
    rw [read, ih]
  | @placeholder digits ts some_digit all_digits apart readable ih =>
    have read : tokens (spell (.placeholder digits :: ts)) = .placeholder digits :: tokens (spell ts) := by
      have leads := leadingPlaceholder?_append (apart.allOfDigits readable some_digit all_digits)
      change tokensFrom (.outside 0) (':' :: 'p' :: (digits ++ spell ts)) = _
      simp [tokensFrom, readOutside, leads, tokensFrom_skip, tokens]
    rw [read, ih]
  | @literal text ts apart readable ih =>
    have read : tokens (spell (.literal text :: ts)) = tokensFrom (.quoted text) (spell ts) := by
      have inside := tokensFrom_inside [] text (spell ts)
      change tokensFrom (.outside 0) ('\'' :: (text.flatMap doubleQuote ++ ['\'']) ++ spell ts) = _
      simpa [tokensFrom, readOutside] using inside
    rw [read, tokensFrom_quoted apart readable, ih]

end Gazetteer.Sql

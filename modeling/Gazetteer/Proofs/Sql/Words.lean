import Gazetteer.Proofs.Sql.Template

/-!
Words of SQL.  Outside literals a text is cut at blanks, parentheses and commas, and between names and
operators; `words_append` says where two texts can be cut apart.
-/

namespace Gazetteer.Sql

inductive Word where
  /-- A name, a number, a keyword, an operator or a comma. -/
  | run (cs : List Char)
  | opening
  | closing
  /-- A literal or a placeholder. -/
  | token (t : Token)
  /-- The value that a placeholder stands for. -/
  | value (text : String)
  deriving DecidableEq, Repr

namespace Word

def isKeyword (keyword : String) : Word → Bool
  | .run cs => cs.map Char.toUpper == keyword.toList
  | _ => false

def isRun : Word → Bool
  | .run _ => true
  | _ => false

def andKeyword : Word := .run "AND".toList

def orKeyword : Word := .run "OR".toList

end Word

def isNameChar (c : Char) : Bool := c.isAlphanum || c == '_' || c == '.'

def Token.breaks : Token → Bool
  | .char c => c.isWhitespace || c == '(' || c == ')' || c == ','
  | _ => true

/-- The words of a token that is none with its neighbours. -/
def Token.words : Token → List Word
  | .char '(' => [.opening]
  | .char ')' => [.closing]
  | .char c => if c.isWhitespace then [] else [.run [c]]
  | t => [.token t]

def pending (run : List Char) : List Word := if run.isEmpty then [] else [.run run]

def wordsFrom : (run : List Char) → List Token → List Word
  | run, [] => pending run
  | run, .char c :: ts =>
    if (Token.char c).breaks then pending run ++ ((Token.char c).words ++ wordsFrom [] ts)
    else if run.head?.all (isNameChar · == isNameChar c) then wordsFrom (run ++ [c]) ts
    else pending run ++ wordsFrom [c] ts
  | run, t :: ts => pending run ++ (t.words ++ wordsFrom [] ts)

def words (ts : List Token) : List Word := wordsFrom [] ts

def wordsOf (s : String) : List Word := words (tokens s.toList)

example : wordsOf "a.b>= '' AND f(:p1)" =
    [.run "a.b".toList, .run ">=".toList, .token (.literal []), .run "AND".toList, .run ['f'], .opening,
      .token (.placeholder ['1']), .closing] := by decide

theorem tokens_plain {s : String} (ok : isPlain s = true) : tokens s.toList = plain s := by
  rw [← spell_plain, tokens_spell (Template.plain ok).readable]

theorem wordsOf_plain {s : String} (ok : isPlain s = true) : wordsOf s = words (plain s) := by
  rw [wordsOf, tokens_plain ok]

theorem wordsFrom_cons_of_breaks {t : Token} (breaks : t.breaks = true) (run : List Char) (ts : List Token) :
    wordsFrom run (t :: ts) = pending run ++ (t.words ++ words ts) := by
  cases t with
  | char c => rw [wordsFrom, if_pos breaks, words]
  | _ => rfl

theorem words_cons_of_breaks {t : Token} (breaks : t.breaks = true) (ts : List Token) :
    words (t :: ts) = t.words ++ words ts := wordsFrom_cons_of_breaks breaks [] ts

/-- Texts are cut apart before a token that ends words. -/
theorem wordsFrom_append {ys : List Token} (cut : ys.head?.all Token.breaks = true) (run : List Char)
    (xs : List Token) : wordsFrom run (xs ++ ys) = wordsFrom run xs ++ words ys := by
  induction xs generalizing run with
  | nil =>
    cases ys with
    | nil => simp [wordsFrom, words, pending]
    | cons y ys =>
      have breaks : y.breaks = true := by simpa using cut
      rw [List.nil_append, wordsFrom_cons_of_breaks breaks, words_cons_of_breaks breaks]
      rfl
  | cons t ts ih =>
    cases t with
    | char c =>
      rw [List.cons_append, wordsFrom, wordsFrom]
      split
      · rw [ih, List.append_assoc, List.append_assoc]
      · split
        · rw [ih]
        · rw [ih, List.append_assoc]
    | _ =>
      have rest : words (ts ++ ys) = words ts ++ words ys := ih []
      rw [List.cons_append, wordsFrom_cons_of_breaks rfl, wordsFrom_cons_of_breaks rfl, rest]
      simp only [List.append_assoc]

theorem words_append {xs ys : List Token} (cut : ys.head?.all Token.breaks = true) :
    words (xs ++ ys) = words xs ++ words ys := wordsFrom_append cut [] xs

/-! ### Words of joined texts -/

structure Separates (separator : String) (keyword : Word) : Prop where
  reads : ∀ ts, words (plain separator ++ ts) = keyword :: words ts
  cut : ∀ ts, (plain separator ++ ts).head?.all Token.breaks = true

theorem separates_and : Separates " AND " .andKeyword := ⟨fun _ => rfl, fun _ => rfl⟩

theorem separates_or : Separates " OR " .orKeyword := ⟨fun _ => rfl, fun _ => rfl⟩

theorem Separates.intercalate {separator : String} {keyword : Word} (separates : Separates separator keyword)
    (parts : List (List Token)) :
    words ((plain separator).intercalate parts) = [keyword].intercalate (parts.map words) := by
  induction parts with
  | nil => rfl
  | cons first rest ih =>
    cases rest with
    | nil => simp
    | cons second rest =>
      rw [List.intercalate_cons_cons, List.append_assoc, words_append (separates.cut _), separates.reads, ih]
      simp [List.intercalate_cons_cons]

theorem words_parenthesized (ts : List Token) :
    words (plain "(" ++ (ts ++ plain ")")) = .opening :: (words ts ++ [.closing]) := by
  have opened : ∀ us, words (plain "(" ++ us) = .opening :: words us := fun _ => rfl
  rw [opened, words_append (by rfl)]
  rfl

end Gazetteer.Sql

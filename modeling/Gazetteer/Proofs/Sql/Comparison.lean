import Gazetteer.Proofs.Sql.Reading
import Gazetteer.Proofs.Sql.Spelling

/-!
The text of a condition reads as the condition: each test as one comparison, each conjunction and disjunction
as one operand.
-/

namespace Gazetteer.Sql

open Gazetteer.Filter

/-! ### Words of tests -/

/-- Words that stand in a comparison between two depths of parentheses, none of them a keyword that would end
the condition. -/
structure Fits (depth after : Nat) (ws : List Word) : Prop where
  nested : nesting depth ws = some after
  no_order : ws.all (!·.isKeyword "ORDER") = true

instance (depth after : Nat) (ws : List Word) : Decidable (Fits depth after ws) :=
  decidable_of_iff (nesting depth ws = some after ∧ ws.all (!·.isKeyword "ORDER") = true)
    ⟨fun both => ⟨both.1, both.2⟩, fun fits => ⟨fits.nested, fits.no_order⟩⟩

theorem Fits.append {depth middle after : Nat} {xs ys : List Word} (left : Fits depth middle xs)
    (right : Fits middle after ys) : Fits depth after (xs ++ ys) :=
  ⟨nesting_append left.nested right.nested, by rw [List.all_append, left.no_order, right.no_order]; rfl⟩

structure Leads (after : Nat) (ws : List Word) : Prop extends Fits 0 after ws where
  named : ws.head?.any Word.isRun = true

instance (after : Nat) (ws : List Word) : Decidable (Leads after ws) :=
  decidable_of_iff (Fits 0 after ws ∧ ws.head?.any Word.isRun = true)
    ⟨fun both => ⟨both.1, both.2⟩, fun leads => ⟨leads.toFits, leads.named⟩⟩

theorem Leads.append {middle after : Nat} {xs ys : List Word} (left : Leads middle xs) (right : Fits middle after ys) :
    Leads after (xs ++ ys) := by
  refine ⟨left.toFits.append right, ?_⟩
  have named := left.named
  cases xs with
  | nil => cases named
  | cons w ws => exact named

theorem Leads.isComparison {ws : List Word} (leads : Leads 0 ws) : IsComparison ws := ⟨leads.named, leads.nested⟩

theorem plain_append (s t : String) : plain (s ++ t) = plain s ++ plain t := by
  simp [plain]

def Operand.words : Operand → List Word
  | .absent => []
  | .blank => [.token (.literal [])]
  | .value index => [.token (.ofIndex index)]

theorem Operand.fits (o : Operand) (depth : Nat) : Fits depth depth o.words := by
  cases o with
  | absent => exact ⟨rfl, rfl⟩
  | blank | value index => cases depth <;> exact ⟨rfl, rfl⟩

def Layout.words (l : Layout) : List Word := Sql.words (plain l.before) ++ (l.operand.words ++ Sql.words (plain l.after))

theorem Layout.words_tokens {l : Layout} (whole : l.operand = .absent → l.after = "") :
    Sql.words l.tokens = l.words := by
  rw [Layout.tokens, Layout.words]
  cases operand : l.operand with
  | absent => rw [whole operand]; exact words_append rfl
  | blank | value index => exact words_append rfl

theorem Test.words_tokens (t : Test) : words t.tokens = t.layout.words := by
  refine Layout.words_tokens fun absent => ?_
  cases t with
  | related relation shape source index => cases absent
  | _ => rfl

theorem leads_spelled {s : String} {cs : List Char} (spelled : s = .ofList cs)
    (leads : Leads 0 (words (cs.map .char))) : Leads 0 (words (plain s)) := by
  rwa [plain_spelled spelled]

theorem fits_spelled {before after : Nat} {s : String} {cs : List Char} (spelled : s = .ofList cs)
    (fits : Fits before after (words (cs.map .char))) : Fits before after (words (plain s)) := by
  rwa [plain_spelled spelled]

theorem leads_sqlFunction (relation : Relation) : Leads 0 (words (plain relation.sqlFunction)) := by
  cases relation <;> exact leads_spelled rfl (by decide)

theorem Column.leads (column : Column) : Leads 0 (words (plain ("entity." ++ column.name ++ " = "))) := by
  cases column <;> exact leads_spelled (spelled_append (spelled_append rfl rfl) rfl) (by decide)

theorem leads_dateEmpty (column : DateColumn) : Leads 0 (words (plain ("entity." ++ column.name ++ " = "))) := by
  cases column <;> exact leads_spelled (spelled_append (spelled_append rfl rfl) rfl) (by decide)

theorem leads_dateRecorded (column : DateColumn) : Leads 0 (words (plain ("entity." ++ column.name ++ " != "))) := by
  cases column <;> exact leads_spelled (spelled_append (spelled_append rfl rfl) rfl) (by decide)

theorem leads_dateCompares (column : DateColumn) {operator : String} (known : operator ∈ ["=", "<", ">="]) :
    Leads 0 (words (plain ("entity." ++ column.name ++ " " ++ operator ++ " "))) := by
  have choice : operator = "=" ∨ operator = "<" ∨ operator = ">=" := by simpa using known
  rcases choice with rfl | rfl | rfl <;> cases column <;>
    exact leads_spelled (spelled_append (spelled_append (spelled_append (spelled_append rfl rfl) rfl) rfl) rfl)
      (by decide)

theorem Shape.fits_column (shape : Shape) : Fits 1 1 (words (plain shape.column)) := by
  cases shape <;> exact fits_spelled rfl (by decide)

/-- The parentheses that a source opens before its value are closed after it. -/
theorem Source.fits (source : Source) :
    ∃ inner, Fits 1 inner (words (plain source.opening)) ∧ Fits inner 0 (words (plain (source.closing ++ ")"))) := by
  cases source with
  | wellKnownText | entity =>
    exact ⟨2, fits_spelled rfl (by decide), fits_spelled (spelled_append rfl rfl) (by decide)⟩
  | reference => exact ⟨3, fits_spelled rfl (by decide), fits_spelled (spelled_append rfl rfl) (by decide)⟩

theorem words_related_before (relation : Relation) (shape : Shape) (source : Source) :
    words (plain (relation.sqlFunction ++ "(" ++ shape.column ++ ", " ++ source.opening)) =
      words (plain relation.sqlFunction) ++
        .opening :: (words (plain shape.column) ++ .run [','] :: words (plain source.opening)) := by
  have parenthesis : ∀ ts, words (plain "(" ++ ts) = .opening :: words ts := fun _ => rfl
  have comma : ∀ ts, words (plain ", " ++ ts) = .run [','] :: words ts := fun _ => rfl
  simp only [String.append_assoc]
  rw [plain_append, words_append (by rw [plain_append]; rfl), plain_append, parenthesis, plain_append,
    words_append (by rw [plain_append]; rfl), plain_append, comma]

theorem Layout.leads {l : Layout} (before : Leads 0 (Sql.words (plain l.before))) (after : l.after = "") :
    Leads 0 l.words := by
  rw [Layout.words, after]
  exact before.append ((l.operand.fits 0).append ⟨rfl, rfl⟩)

theorem leads_related (relation : Relation) (shape : Shape) (source : Source) (index : Nat) :
    Leads 0 (words (Test.related relation shape source index).tokens) := by
  -- the parenthesis of the function is open around both arguments, those of the source around its value
  obtain ⟨inner, opening, closing⟩ := source.fits
  have comma : Fits 1 1 [.run [',']] := by decide
  have parenthesis : Fits 0 1 [.opening] := by decide
  have before := (leads_sqlFunction relation).append
    (parenthesis.append (shape.fits_column.append (comma.append opening)))
  rw [Test.words_tokens]
  change Leads 0 (words (plain (relation.sqlFunction ++ "(" ++ shape.column ++ ", " ++ source.opening)) ++
    ((Operand.value index).words ++ words (plain (source.closing ++ ")"))))
  rw [words_related_before]
  exact before.append ((Operand.fits _ inner).append closing)

theorem Test.leads {t : Test} (sound : t.Sound) : Leads 0 (words t.tokens) := by
  cases t with
  | related relation shape source index => exact leads_related relation shape source index
  | equals column index => rw [words_tokens]; exact Layout.leads column.leads rfl
  | dateEmpty column => rw [words_tokens]; exact Layout.leads (leads_dateEmpty column) rfl
  | dateRecorded column => rw [words_tokens]; exact Layout.leads (leads_dateRecorded column) rfl
  | dateCompares column operator index => rw [words_tokens]; exact Layout.leads (leads_dateCompares column sound) rfl
  | current | historical | joined | hasPolygon | after index =>
    rw [words_tokens]
    exact Layout.leads (leads_spelled rfl (by decide)) rfl

/-! ### Words of conditions -/

namespace Condition

def eval (truth : Test → Truth) : Condition → Truth := fold truth Truth.all Truth.any

theorem words_group {separator : String} {keyword : Word} (separates : Separates separator keyword)
    (parts : List Condition) : words (group separator (parts.map tokens)) =
      .opening :: ([keyword].intercalate (parts.map fun c => words c.tokens) ++ [.closing]) := by
  rw [group, words_parenthesized, separates.intercalate, List.map_map]
  rfl

theorem words_all (parts : List Condition) : words (all parts).tokens =
    .opening :: ([.andKeyword].intercalate (parts.map fun c => words c.tokens) ++ [.closing]) := by
  rw [tokens, fold_all]
  exact words_group separates_and parts

theorem words_any (parts : List Condition) : words (any parts).tokens =
    .opening :: ([.orKeyword].intercalate (parts.map fun c => words c.tokens) ++ [.closing]) := by
  rw [tokens, fold_any]
  exact words_group separates_or parts

/-- The text of a condition is read as one operand, with the value of the condition. -/
theorem reads {truth : List Word → Truth} {c : Condition} (sound : c.Sound) :
    Reads truth (words c.tokens) (c.eval fun t => truth (words t.tokens)) := by
  induction sound with
  | test sound => exact (Test.leads sound).isComparison.reads
  | all some_part _ ih => rw [words_all, eval, fold_all]; exact reads_all ih some_part
  | any some_part _ ih => rw [words_any, eval, fold_any]; exact reads_any ih some_part

/-! ### The words that occur in a condition -/

def tests : Condition → List Test := fold (fun t => [t]) List.flatten List.flatten

@[simp] theorem tests_test (t : Test) : (test t).tests = [t] := rfl

@[simp] theorem tests_all (parts : List Condition) : (all parts).tests = parts.flatMap tests := by
  rw [tests, fold_all, List.flatMap_def]

@[simp] theorem tests_any (parts : List Condition) : (any parts).tests = parts.flatMap tests := by
  rw [tests, fold_any, List.flatMap_def]

theorem Sound.tests {c : Condition} (sound : c.Sound) : ∀ t ∈ c.tests, t.Sound := by
  induction sound with
  | test sound =>
    intro t member
    obtain rfl := List.mem_singleton.mp member
    exact sound
  | all _ _ ih =>
    intro t member
    rw [tests_all] at member
    obtain ⟨c, present, inside⟩ := List.mem_flatMap.mp member
    exact ih c present t inside
  | any _ _ ih =>
    intro t member
    rw [tests_any] at member
    obtain ⟨c, present, inside⟩ := List.mem_flatMap.mp member
    exact ih c present t inside

structure Passes (p : Word → Bool) : Prop where
  opening : p .opening = true
  closing : p .closing = true
  andKeyword : p .andKeyword = true
  orKeyword : p .orKeyword = true

variable {p : Word → Bool}

theorem all_intercalate {keyword : Word} (passes : p keyword = true) {parts : List Condition}
    (each : ∀ c ∈ parts, (words c.tokens).all p = true) :
    ([keyword].intercalate (parts.map fun c => words c.tokens)).all p = true := by
  induction parts with
  | nil => rfl
  | cons first rest ih =>
    have head := each first List.mem_cons_self
    cases rest with
    | nil => simpa using head
    | cons second rest =>
      have tail := ih fun c member => each c (List.mem_cons_of_mem _ member)
      rw [List.map_cons] at tail
      rw [List.map_cons, List.map_cons, List.intercalate_cons_cons, List.all_append, List.all_append, head, tail,
        List.all_cons, passes]
      rfl

/-- What holds of connectives, of parentheses and of the words of its tests holds of all words of a condition. -/
theorem all_words (passes : Passes p) {c : Condition} (sound : c.Sound)
    (each : ∀ t ∈ c.tests, (words t.tokens).all p = true) : (words c.tokens).all p = true := by
  have parenthesized : ∀ {ws : List Word}, ws.all p = true → (Word.opening :: (ws ++ [.closing])).all p = true := by
    intro ws inside
    rw [List.all_cons, List.all_append, inside, passes.opening, List.all_cons, passes.closing]
    rfl
  induction sound with
  | test _ => exact each _ (List.mem_singleton.mpr rfl)
  | all _ _ ih =>
    rw [tests_all] at each
    rw [words_all]
    refine parenthesized (all_intercalate passes.andKeyword fun c member => ih c member fun t inside => ?_)
    exact each t (List.mem_flatMap.mpr ⟨c, member, inside⟩)
  | any _ _ ih =>
    rw [tests_any] at each
    rw [words_any]
    refine parenthesized (all_intercalate passes.orKeyword fun c member => ih c member fun t inside => ?_)
    exact each t (List.mem_flatMap.mpr ⟨c, member, inside⟩)

end Condition

end Gazetteer.Sql

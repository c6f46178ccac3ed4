import Gazetteer.Proofs.Sql.Inlining
import Gazetteer.Sql.Condition

/-!
Conditions as tokens.  `Condition.fold` is the recursion that the token list of a condition and its other
readings share, and `Condition.Sound` the induction that their laws are proved by.
-/

namespace Gazetteer.Sql

open Gazetteer.Filter

/-! ### Tests -/

inductive Operand where
  | absent
  /-- The empty literal. -/
  | blank
  | value (index : Nat)
  deriving DecidableEq, Repr

def Operand.sql : Operand → String
  | .absent => ""
  | .blank => "''"
  | .value index => placeholder index

def Operand.tokens : Operand → List Token
  | .absent => []
  | .blank => [.literal []]
  | .value index => [.ofIndex index]

def Operand.index? : Operand → Option Nat
  | .value index => some index
  | _ => none

structure Layout where
  before : String
  operand : Operand := .absent
  after : String := ""
  deriving DecidableEq, Repr

def Layout.sql (l : Layout) : String := l.before ++ (l.operand.sql ++ l.after)

def Layout.tokens (l : Layout) : List Token := plain l.before ++ (l.operand.tokens ++ plain l.after)

def Source.opening : Source → String
  | .wellKnownText => "GeomFromText("
  | .entity => "(SELECT geometry_geom FROM geometry WHERE entity = "
  | .reference => "(SELECT geometry_geom FROM geometry WHERE entity = (SELECT entity FROM entity WHERE reference = "

def Source.closing : Source → String
  | .wellKnownText => ")"
  | .entity => ")"
  | .reference => " GROUP BY entity))"

def Test.layout : Test → Layout
  | .equals column index => { before := "entity." ++ column.name ++ " = ", operand := .value index }
  | .current => { before := "entity.end_date is ", operand := .blank }
  | .historical => { before := "entity.end_date is not ", operand := .blank }
  | .dateEmpty column => { before := "entity." ++ column.name ++ " = ", operand := .blank }
  | .dateRecorded column => { before := "entity." ++ column.name ++ " != ", operand := .blank }
  | .dateCompares column operator index =>
    { before := "entity." ++ column.name ++ " " ++ operator ++ " ", operand := .value index }
  | .joined => { before := "entity.entity = geometry.entity" }
  | .hasPolygon => { before := "geometry.geometry_geom IS NOT NULL" }
  | .related relation shape source index =>
    { before := relation.sqlFunction ++ "(" ++ shape.column ++ ", " ++ source.opening
      operand := .value index
      after := source.closing ++ ")" }
  | .after index => { before := "entity.entity > ", operand := .value index }

/-- A test whose operator is one of those that dates are compared by. -/
def Test.Sound : Test → Prop
  | .dateCompares _ operator _ => operator ∈ ["=", "<", ">="]
  | _ => True

def Test.tokens (t : Test) : List Token := t.layout.tokens

theorem Operand.spell_tokens (o : Operand) : spell o.tokens = o.sql.toList := by
  cases o with
  | absent | blank => rfl
  | value index => exact spell_ofIndex index

theorem Layout.spell_tokens (l : Layout) : spell l.tokens = l.sql.toList := by
  simp only [Layout.tokens, Layout.sql, spell_append, spell_plain, Operand.spell_tokens, String.toList_append]

theorem Source.sql_eq (source : Source) (index : Nat) :
    source.sql index = source.opening ++ placeholder index ++ source.closing := by
  cases source with
  | wellKnownText | entity | reference => rfl

theorem Test.sql_layout (t : Test) : t.layout.sql = t.sql := by
  cases t with
  | equals column index =>
    change "entity." ++ column.name ++ " = " ++ (placeholder index ++ "") =
      "entity." ++ column.name ++ " = " ++ placeholder index
    rw [String.append_empty]
  | dateEmpty column =>
    change "entity." ++ column.name ++ " = " ++ "''" = "entity." ++ column.name ++ " = ''"
    rw [String.append_assoc]
    rfl
  | dateRecorded column =>
    change "entity." ++ column.name ++ " != " ++ "''" = "entity." ++ column.name ++ " != ''"
    rw [String.append_assoc]
    rfl
  | dateCompares column operator index =>
    change "entity." ++ column.name ++ " " ++ operator ++ " " ++ (placeholder index ++ "") =
      "entity." ++ column.name ++ " " ++ operator ++ " " ++ placeholder index
    rw [String.append_empty]
  | related relation shape source index =>
    change relation.sqlFunction ++ "(" ++ shape.column ++ ", " ++ source.opening ++
        (placeholder index ++ (source.closing ++ ")")) =
      relation.sqlFunction ++ "(" ++ shape.column ++ ", " ++ source.sql index ++ ")"
    rw [source.sql_eq]
    simp only [String.append_assoc]
  | after index =>
    change "entity.entity > " ++ (placeholder index ++ "") = "entity.entity > " ++ placeholder index
    rw [String.append_empty]
  | current | historical | joined | hasPolygon => rfl

theorem Test.spell_tokens (t : Test) : spell t.tokens = t.sql.toList := by
  rw [Test.tokens, Layout.spell_tokens, sql_layout]

theorem Column.isPlain_name (column : Column) : isPlain column.name = true := by
  cases column <;> exact isPlain_spelled rfl (by decide)

theorem isPlain_dateColumn (column : DateColumn) : isPlain column.name = true := by
  cases column <;> exact isPlain_spelled rfl (by decide)

theorem Shape.isPlain_column (shape : Shape) : isPlain shape.column = true := by
  cases shape <;> exact isPlain_spelled rfl (by decide)

theorem Source.isPlain_opening (source : Source) : isPlain source.opening = true := by
  cases source <;> exact isPlain_spelled rfl (by decide)

theorem Source.isFrame_closing (source : Source) : isFrame source.closing = true := by
  cases source <;> decide

theorem isFrame_sqlFunction (relation : Relation) : isFrame relation.sqlFunction = true := by
  cases relation <;> decide

theorem Test.isFrame_before {t : Test} (sound : t.Sound) : isFrame t.layout.before = true := by
  have entity : isFrame "entity." = true := by decide
  have equality : isPlain " = " = true := by decide
  cases t with
  | equals column index =>
    change isFrame ("entity." ++ column.name ++ " = ") = true
    rw [String.append_assoc]
    exact isFrame_append entity (by rw [isPlain_append, column.isPlain_name, equality]; rfl)
  | dateEmpty column =>
    change isFrame ("entity." ++ column.name ++ " = ") = true
    rw [String.append_assoc]
    exact isFrame_append entity (by rw [isPlain_append, isPlain_dateColumn, equality]; rfl)
  | dateRecorded column =>
    have different : isPlain " != " = true := by decide
    change isFrame ("entity." ++ column.name ++ " != ") = true
    rw [String.append_assoc]
    exact isFrame_append entity (by rw [isPlain_append, isPlain_dateColumn, different]; rfl)
  | dateCompares column operator index =>
    have space : isPlain " " = true := by decide
    have compares : isPlain operator = true := by
      have choice : operator = "=" ∨ operator = "<" ∨ operator = ">=" := by simpa [Test.Sound] using sound
      rcases choice with rfl | rfl | rfl <;> decide
    change isFrame ("entity." ++ column.name ++ " " ++ operator ++ " ") = true
    simp only [String.append_assoc]
    exact isFrame_append entity (by simp only [isPlain_append, isPlain_dateColumn, space, compares]; rfl)
  | related relation shape source index =>
    have punctuation : isPlain "(" = true ∧ isPlain ", " = true := by decide
    change isFrame (relation.sqlFunction ++ "(" ++ shape.column ++ ", " ++ source.opening) = true
    simp only [String.append_assoc]
    refine isFrame_append (isFrame_sqlFunction relation) ?_
    simp only [isPlain_append, punctuation, shape.isPlain_column, source.isPlain_opening]
    rfl
  | current | historical | joined | hasPolygon => decide
  | after index => exact show isFrame "entity.entity > " = true by decide

theorem Test.after_frame (t : Test) : t.layout.after = "" ∨ isFrame t.layout.after = true := by
  cases t with
  | related relation shape source index => exact .inr (isFrame_append source.isFrame_closing (by decide))
  | _ => exact .inl rfl

theorem Operand.template {o : Operand} {ts : List Token} (ht : Template ts) (apart : Apart ts) :
    Template (o.tokens ++ ts) := by
  cases o with
  | absent => exact ht
  | blank => exact Template.emptyLiteral.append ht apart
  | value index => exact Template.ofIndex index ht apart

theorem Test.template {t : Test} (sound : t.Sound) : Template t.tokens := by
  have before := isPlain_of_isFrame (isFrame_before sound)
  have after : Template (plain t.layout.after) ∧ Apart (plain t.layout.after) := by
    rcases t.after_frame with empty | frame
    · rw [empty]
      exact ⟨Template.nil, .nil⟩
    · exact ⟨Template.plain (isPlain_of_isFrame frame), apart_plain frame⟩
  exact Template.plain_append before (Operand.template after.1 after.2)

/-! ### Conditions -/

namespace Condition

mutual

def fold {α : Type} (test : Test → α) (all any : List α → α) : Condition → α
  | .test t => test t
  | .all parts => all (foldParts test all any parts)
  | .any parts => any (foldParts test all any parts)
termination_by structural c => c

def foldParts {α : Type} (test : Test → α) (all any : List α → α) : List Condition → List α
  | [] => []
  | c :: rest => c.fold test all any :: foldParts test all any rest
termination_by structural cs => cs

end

section fold

variable {α : Type} (test : Test → α) (all any : List α → α) (parts : List Condition)

theorem foldParts_eq_map : foldParts test all any parts = parts.map (fold test all any) := by
  induction parts with
  | nil => rfl
  | cons c rest ih => rw [foldParts, ih, List.map_cons]

@[simp] theorem fold_test (t : Test) : fold test all any (.test t) = test t := rfl

@[simp] theorem fold_all : fold test all any (.all parts) = all (parts.map (fold test all any)) := by
  rw [fold, foldParts_eq_map]

@[simp] theorem fold_any : fold test all any (.any parts) = any (parts.map (fold test all any)) := by
  rw [fold, foldParts_eq_map]

end fold

/-- Conditions that can be read back: of sound tests, and with parts wherever parts are joined. -/
inductive Sound : Condition → Prop
  | test {t : Test} (sound : t.Sound) : Sound (.test t)
  | all {parts : List Condition} (some_part : parts ≠ []) (sound : ∀ c ∈ parts, Sound c) : Sound (.all parts)
  | any {parts : List Condition} (some_part : parts ≠ []) (sound : ∀ c ∈ parts, Sound c) : Sound (.any parts)

def group (separator : String) (parts : List (List Token)) : List Token :=
  plain "(" ++ ((plain separator).intercalate parts ++ plain ")")

def tokens : Condition → List Token := fold Test.tokens (group " AND ") (group " OR ")

theorem sql_all (parts : List Condition) :
    (all parts).sql = "(" ++ " AND ".intercalate (parts.map sql) ++ ")" := by
  rw [sql, conditionTexts_eq_map]

theorem sql_any (parts : List Condition) :
    (any parts).sql = "(" ++ " OR ".intercalate (parts.map sql) ++ ")" := by
  rw [sql, conditionTexts_eq_map]

end Condition

theorem spell_intercalate (separator : List Token) (parts : List (List Token)) :
    spell (separator.intercalate parts) = (spell separator).intercalate (parts.map spell) := by
  induction parts with
  | nil => rfl
  | cons first rest ih =>
    cases rest with
    | nil => simp
    | cons second rest => simp [List.intercalate_cons_cons, spell_append, ih]

namespace Condition

theorem spell_group {separator : String} {parts : List Condition}
    (spelled : ∀ c ∈ parts, spell c.tokens = c.sql.toList) :
    spell (group separator (parts.map tokens)) = ("(" ++ separator.intercalate (parts.map sql) ++ ")").toList := by
  have each : parts.map (spell ∘ tokens) = parts.map (String.toList ∘ sql) := List.map_congr_left spelled
  simp [group, spell_append, spell_plain, spell_intercalate, String.toList_intercalate, each]

theorem spell_tokens {c : Condition} (sound : c.Sound) : spell c.tokens = c.sql.toList := by
  induction sound with
  | test => exact Test.spell_tokens _
  | all _ _ ih => rw [sql_all, tokens, fold_all]; exact spell_group ih
  | any _ _ ih => rw [sql_any, tokens, fold_any]; exact spell_group ih

theorem template_group {separator : String} {parts : List Condition} (frame : isFrame separator = true)
    (templates : ∀ c ∈ parts, Template c.tokens) : Template (group separator (parts.map tokens)) := by
  have opening : isPlain "(" = true := by decide
  have closing : isFrame ")" = true := by decide
  have joined : Template ((plain separator).intercalate (parts.map tokens)) := by
    refine Template.intercalate frame ?_
    intro ts member
    obtain ⟨c, present, rfl⟩ := List.mem_map.mp member
    exact templates c present
  exact Template.plain_append opening (joined.append_plain closing)

theorem template {c : Condition} (sound : c.Sound) : Template c.tokens := by
  induction sound with
  | test sound => exact Test.template sound
  | all _ _ ih => rw [tokens, fold_all]; exact template_group (by decide) ih
  | any _ _ ih => rw [tokens, fold_any]; exact template_group (by decide) ih

end Condition

end Gazetteer.Sql

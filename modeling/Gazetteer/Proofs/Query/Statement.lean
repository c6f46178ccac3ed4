import Gazetteer.Proofs.Query.Clauses

/-!
Statements as tokens.  Every statement that is sent is the text of a template whose placeholders are those
of its clauses.
-/

namespace Gazetteer

open Sql

theorem isPlain_toString (n : Nat) : isPlain (toString n) = true := by
  have safe : ∀ c ∈ (toString n).toList, c ≠ '\'' ∧ c ≠ ':' := by
    intro c member
    have digit := Text.isDigit_of_mem_toString member
    refine ⟨?_, ?_⟩ <;> rintro rfl <;> exact absurd digit (by decide)
  simpa only [isPlain, List.all_eq_true, Bool.and_eq_true, bne_iff_ne] using safe

namespace Sql

def conjunctionTokens (cs : List Condition) : List Token :=
  (plain " AND ").intercalate (cs.map Condition.tokens)

theorem conjunction?_eq {cs : List Condition} (some_condition : cs ≠ []) :
    conjunction? cs = some (" AND ".intercalate (cs.map Condition.sql)) := by
  simp [conjunction?, some_condition]

theorem spell_conjunctionTokens {cs : List Condition} (sound : ∀ c ∈ cs, c.Sound) :
    spell (conjunctionTokens cs) = (" AND ".intercalate (cs.map Condition.sql)).toList := by
  have each : cs.map (spell ∘ Condition.tokens) = cs.map (String.toList ∘ Condition.sql) :=
    List.map_congr_left fun c member => Condition.spell_tokens (sound c member)
  rw [conjunctionTokens, spell_intercalate, spell_plain, String.toList_intercalate, List.map_map, each, List.map_map]

theorem template_conjunctionTokens {cs : List Condition} (sound : ∀ c ∈ cs, c.Sound) :
    Template (conjunctionTokens cs) := by
  refine Template.intercalate (by decide) ?_
  intro ts member
  obtain ⟨c, present, rfl⟩ := List.mem_map.mp member
  exact Condition.template (sound c present)

theorem placeholders_conjunctionTokens {cs : List Condition} (sound : ∀ c ∈ cs, c.Sound) :
    placeholders (conjunctionTokens cs) = (cs.flatMap Condition.indices).map digitsOf := by
  rw [conjunctionTokens, placeholders_joined fun c member => Condition.placeholders_tokens (sound c member),
    List.flatMap_def]

end Sql

namespace Filters

def conditionTokens (clauses : List Clause) : List Token :=
  if clauses.isEmpty then plain "1=1" else conjunctionTokens (Clause.place 0 clauses)

theorem place_ne_nil {clauses : List Clause} (some_clause : clauses ≠ []) (first : Nat) :
    Clause.place first clauses ≠ [] := by
  cases clauses with
  | nil => exact absurd rfl some_clause
  | cons c rest => simp [Clause.place]

theorem spell_conditionTokens {clauses : List Clause} (sound : ∀ c ∈ clauses, c.Sound) :
    spell (conditionTokens clauses) = (conditionText clauses).toList := by
  cases clauses with
  | nil => rfl
  | cons c rest =>
    have some_condition := place_ne_nil (List.cons_ne_nil c rest) 0
    rw [conditionText, conjunction?_eq some_condition]
    exact spell_conjunctionTokens fun _ member => Clause.sound_of_mem_place sound member

theorem template_conditionTokens {clauses : List Clause} (sound : ∀ c ∈ clauses, c.Sound) :
    Template (conditionTokens clauses) := by
  cases clauses with
  | nil => exact Template.plain (by decide)
  | cons c rest => exact template_conjunctionTokens fun _ member => Clause.sound_of_mem_place sound member

theorem placeholders_conditionTokens {clauses : List Clause} (sound : ∀ c ∈ clauses, c.Sound) :
    placeholders (conditionTokens clauses) =
      ((Clause.place 0 clauses).flatMap Condition.indices).map digitsOf := by
  cases clauses with
  | nil => rfl
  | cons c rest => exact placeholders_conjunctionTokens fun _ member => Clause.sound_of_mem_place sound member

def head (kind : QueryKind) : String := kind.selection ++ source ++ " WHERE "

theorem isPlain_source : isPlain source = true := isPlain_spelled rfl (by decide)

theorem isPlain_head (kind : QueryKind) : isPlain (head kind) = true := by
  have selection : isPlain kind.selection = true := by
    cases kind with
    | rows => exact isPlain_spelled rfl (by decide)
    | count => exact isPlain_spelled (spelled_append rfl rfl) (by decide)
  have condition : isPlain " WHERE " = true := by decide
  rw [head, isPlain_append, isPlain_append, selection, isPlain_source, condition]
  rfl

theorem page_frame (kind : QueryKind) (limit : Nat) : kind.page limit = "" ∨ isFrame (kind.page limit) = true := by
  cases kind with
  | count => exact .inl rfl
  | rows =>
    have ordering : isFrame " ORDER BY entity.entity LIMIT " = true := by decide
    exact .inr (isFrame_append ordering (isPlain_toString limit))

def queryTokens (f : Filters) (kind : QueryKind) : List Token :=
  plain (head kind) ++ (conditionTokens (f.queryClauses kind) ++ plain (kind.page f.limit))

theorem spell_queryTokens (f : Filters) (kind : QueryKind) :
    spell (f.queryTokens kind) = (f.query kind).sql.toList := by
  have condition := spell_conditionTokens (sound_queryClauses f kind)
  simp only [queryTokens, head, query, spell_append, spell_plain, condition, String.toList_append, List.append_assoc]

theorem template_queryTokens (f : Filters) (kind : QueryKind) : Template (f.queryTokens kind) := by
  have condition := template_conditionTokens (sound_queryClauses f kind)
  refine Template.plain_append (isPlain_head kind) ?_
  rcases page_frame kind f.limit with empty | frame
  · rw [empty]
    simpa [plain] using condition
  · exact condition.append_plain frame

theorem placeholders_queryTokens (f : Filters) (kind : QueryKind) :
    placeholders (f.queryTokens kind) =
      ((Clause.place 0 (f.queryClauses kind)).flatMap Condition.indices).map digitsOf := by
  have condition := placeholders_conditionTokens (sound_queryClauses f kind)
  rw [queryTokens, placeholders_append, placeholders_append, placeholders_plain, placeholders_plain, condition,
    List.nil_append, List.append_nil]

end Filters

/-! ### Entities of each dataset -/

def datasetHead : String := "SELECT dataset, COUNT(DISTINCT entity) AS " ++ countColumn ++ " FROM entity"

def datasetTail : String := " GROUP BY dataset ORDER BY dataset"

def datasetTokens : Option String → List Token
  | none => plain datasetHead ++ plain datasetTail
  | some _ => plain datasetHead ++ (plain " WHERE dataset = " ++ .ofIndex 0 :: plain datasetTail)

theorem spell_datasetTokens (dataset : Option String) :
    spell (datasetTokens dataset) = (datasetQuery dataset).sql.toList := by
  cases dataset with
  | none =>
    change _ = (datasetHead ++ "" ++ datasetTail).toList
    rw [datasetTokens, spell_append, spell_plain, spell_plain, String.append_empty, String.toList_append]
  | some name =>
    change _ = (datasetHead ++ (" WHERE dataset = " ++ placeholder 0) ++ datasetTail).toList
    rw [datasetTokens, ← List.singleton_append, spell_append, spell_append, spell_append, spell_ofIndex]
    simp only [spell_plain, String.toList_append, List.append_assoc]

theorem template_datasetTokens (dataset : Option String) : Template (datasetTokens dataset) := by
  have opening : isPlain datasetHead = true := by decide
  have restriction : isPlain " WHERE dataset = " = true := by decide
  have grouping : isFrame datasetTail = true := by decide
  have closing := Template.plain (isPlain_of_isFrame grouping)
  cases dataset with
  | none =>
    rw [datasetTokens]
    exact Template.plain_append opening closing
  | some name =>
    rw [datasetTokens]
    have value := Template.ofIndex 0 closing (apart_plain grouping)
    exact Template.plain_append opening (Template.plain_append restriction value)

theorem placeholders_datasetTokens (dataset : Option String) :
    placeholders (datasetTokens dataset) = dataset.toList.map fun _ => digitsOf 0 := by
  cases dataset with
  | none => rw [datasetTokens, placeholders_append, placeholders_plain, placeholders_plain]; rfl
  | some name =>
    rw [datasetTokens, ← List.singleton_append]
    simp only [placeholders_append, placeholders_plain]
    rfl

end Gazetteer

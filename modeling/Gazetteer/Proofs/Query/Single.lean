import Gazetteer.Proofs.Sql.Select

/-!
Single statements.  Values are named and not written out, and none of the fixed texts holds a semicolon, so
whatever the filters, a query is one statement, and it selects.
-/

namespace Gazetteer

open Sql

namespace Sql

def isSingle (s : String) : Bool := s.toList.all (· != ';')

theorem isSingle_iff {s : String} : isSingle s = true ↔ ';' ∉ s.toList := by
  simp only [isSingle, List.all_eq_true, bne_iff_ne]
  exact ⟨fun apart member => apart _ member rfl, fun absent c member same => absent (same ▸ member)⟩

theorem isSingle_append (s t : String) : isSingle (s ++ t) = (isSingle s && isSingle t) := by
  simp [isSingle]

theorem isSingle_spelled {s : String} {cs : List Char} (spelled : s = .ofList cs)
    (single : (cs.all (· != ';')) = true) : isSingle s = true := by
  rwa [spelled, isSingle, String.toList_ofList]

theorem isSingle_toString (n : Nat) : isSingle (toString n) = true := by
  rw [isSingle_iff]
  intro member
  exact absurd (Text.isDigit_of_mem_toString member) (by decide)

theorem isSingle_placeholder (index : Nat) : isSingle (placeholder index) = true := by
  have sigil : isSingle ":p" = true := by decide
  rw [placeholder, isSingle_append, sigil, isSingle_toString]
  rfl

theorem isSingle_intercalate {separator : String} {parts : List String} (joins : isSingle separator = true)
    (each : ∀ s ∈ parts, isSingle s = true) : isSingle (separator.intercalate parts) = true := by
  rw [isSingle, String.toList_intercalate]
  induction parts with
  | nil => rfl
  | cons first rest ih =>
    have head : first.toList.all (· != ';') = true := each first List.mem_cons_self
    cases rest with
    | nil => simpa using head
    | cons second rest =>
      have tail := ih fun s member => each s (List.mem_cons_of_mem _ member)
      rw [List.map_cons] at tail
      have between : separator.toList.all (· != ';') = true := joins
      rw [List.map_cons, List.map_cons, List.intercalate_cons_cons, List.all_append, List.all_append, head, between,
        tail]
      rfl

/-- A fixed text is cut where its characters are. -/
theorem spelled_split {s a b : String} {cs ds es : List Char} (whole : s = .ofList cs) (left : a = .ofList ds)
    (right : b = .ofList es) (split : cs = ds ++ es) : s = a ++ b := by
  rw [whole, split, ← spelled_append left right]

theorem ne_of_starts {s t a b : String} {cs ds : List Char} (left : ∃ rest, s = a ++ rest)
    (right : ∃ rest, t = b ++ rest) (spelled_left : a = .ofList cs) (spelled_right : b = .ofList ds)
    (lengths : cs.length = ds.length) (different : cs ≠ ds) : s ≠ t := by
  obtain ⟨rest, rfl⟩ := left
  obtain ⟨others, rfl⟩ := right
  intro same
  have chars : cs ++ rest.toList = ds ++ others.toList := by
    simpa only [String.toList_append, spelled_left, spelled_right, String.toList_ofList]
      using congrArg String.toList same
  exact different (List.append_inj_left chars lengths)

/-! ### Conditions -/

theorem Column.isSingle_name (column : Column) : isSingle column.name = true := by
  cases column <;> exact isSingle_spelled rfl (by decide)

theorem isSingle_dateColumn (column : Filter.DateColumn) : isSingle column.name = true := by
  cases column <;> exact isSingle_spelled rfl (by decide)

theorem isSingle_sqlFunction (relation : Filter.Relation) : isSingle relation.sqlFunction = true := by
  cases relation <;> exact isSingle_spelled rfl (by decide)

theorem Shape.isSingle_column (shape : Shape) : isSingle shape.column = true := by
  cases shape <;> exact isSingle_spelled rfl (by decide)

theorem Source.isSingle_opening (source : Source) : isSingle source.opening = true := by
  cases source <;> exact isSingle_spelled rfl (by decide)

theorem Source.isSingle_closing (source : Source) : isSingle source.closing = true := by
  cases source <;> exact isSingle_spelled rfl (by decide)

theorem Test.isSingle_before {t : Test} (sound : t.Sound) : isSingle t.layout.before = true := by
  have entity : isSingle "entity." = true := by decide
  have equality : isSingle " = " = true := by decide
  cases t with
  | equals column index =>
    change isSingle ("entity." ++ column.name ++ " = ") = true
    simp only [isSingle_append, entity, column.isSingle_name, equality, Bool.and_self]
  | dateEmpty column =>
    change isSingle ("entity." ++ column.name ++ " = ") = true
    simp only [isSingle_append, entity, isSingle_dateColumn, equality, Bool.and_self]
  | dateRecorded column =>
    have different : isSingle " != " = true := by decide
    change isSingle ("entity." ++ column.name ++ " != ") = true
    simp only [isSingle_append, entity, isSingle_dateColumn, different, Bool.and_self]
  | dateCompares column operator index =>
    have space : isSingle " " = true := by decide
    have compares : isSingle operator = true := by
      have choice : operator = "=" ∨ operator = "<" ∨ operator = ">=" := by simpa [Test.Sound] using sound
      rcases choice with rfl | rfl | rfl <;> decide
    change isSingle ("entity." ++ column.name ++ " " ++ operator ++ " ") = true
    simp only [isSingle_append, entity, isSingle_dateColumn, space, compares, Bool.and_self]
  | related relation shape source index =>
    have punctuation : isSingle "(" = true ∧ isSingle ", " = true := by decide
    change isSingle (relation.sqlFunction ++ "(" ++ shape.column ++ ", " ++ source.opening) = true
    simp only [isSingle_append, isSingle_sqlFunction, punctuation, shape.isSingle_column, source.isSingle_opening,
      Bool.and_self]
  | current | historical | joined | hasPolygon | after index => exact isSingle_spelled rfl (by decide)

theorem Test.isSingle_after (t : Test) : isSingle t.layout.after = true := by
  cases t with
  | related relation shape source index =>
    have parenthesis : isSingle ")" = true := by decide
    change isSingle (source.closing ++ ")") = true
    rw [isSingle_append, source.isSingle_closing, parenthesis]
    rfl
  | _ => rfl

theorem Operand.isSingle_sql (o : Operand) : isSingle o.sql = true := by
  cases o with
  | absent => rfl
  | blank => exact isSingle_spelled rfl (by decide)
  | value index => exact isSingle_placeholder index

theorem Test.isSingle_sql {t : Test} (sound : t.Sound) : isSingle t.sql = true := by
  rw [← sql_layout, Layout.sql, isSingle_append, isSingle_append, isSingle_before sound, isSingle_after,
    t.layout.operand.isSingle_sql]
  rfl

theorem isSingle_parenthesized {separator : String} {parts : List Condition} (joins : isSingle separator = true)
    (each : ∀ c ∈ parts, isSingle c.sql = true) :
    isSingle ("(" ++ separator.intercalate (parts.map Condition.sql) ++ ")") = true := by
  have parentheses : isSingle "(" = true ∧ isSingle ")" = true := by decide
  have joined := isSingle_intercalate joins (List.forall_mem_map.mpr each)
  rw [isSingle_append, isSingle_append, parentheses.1, joined, parentheses.2]
  rfl

theorem Condition.isSingle_sql {c : Condition} (sound : c.Sound) : isSingle c.sql = true := by
  induction sound with
  | test sound => exact Test.isSingle_sql sound
  | all _ _ ih => rw [sql_all]; exact isSingle_parenthesized (by decide) ih
  | any _ _ ih => rw [sql_any]; exact isSingle_parenthesized (by decide) ih

end Sql

/-! ### Queries -/

structure Query.IsSingleSelect (q : Query) : Prop where
  selects : ∃ rest, q.sql = "SELECT " ++ rest
  single : ';' ∉ q.sql.toList

/-! ### Entities of each dataset -/

theorem datasetQuery_starts (dataset : Option String) (opening rest : String)
    (starts : datasetHead = opening ++ rest) : ∃ rest, (datasetQuery dataset).sql = opening ++ rest := by
  change ∃ rest, datasetHead ++ _ ++ _ = _
  simp only [starts, String.append_assoc]
  exact ⟨_, rfl⟩

theorem datasetQuery_isSingleSelect (dataset : Option String) : (datasetQuery dataset).IsSingleSelect := by
  have opening : isSingle datasetHead = true :=
    isSingle_spelled (spelled_append (spelled_append rfl rfl) rfl) (by decide)
  have restriction : isSingle (if dataset.isSome then " WHERE dataset = " ++ placeholder 0 else "") = true := by
    have fixed : isSingle " WHERE dataset = " = true := isSingle_spelled rfl (by decide)
    split
    · rw [isSingle_append, fixed, isSingle_placeholder]; rfl
    · rfl
  have grouping : isSingle datasetTail = true := isSingle_spelled rfl (by decide)
  refine ⟨?_, isSingle_iff.mp ?_⟩
  · exact datasetQuery_starts dataset "SELECT " "dataset, COUNT(DISTINCT entity) AS _count FROM entity"
      (spelled_split (spelled_append (spelled_append rfl rfl) rfl) rfl rfl rfl)
  · change isSingle (datasetHead ++ _ ++ datasetTail) = true
    rw [isSingle_append, isSingle_append, opening, restriction, grouping]
    rfl

/-! ### Searches -/

namespace Filters

theorem isSingle_conditionText {clauses : List Clause} (sound : ∀ c ∈ clauses, c.Sound) :
    isSingle (conditionText clauses) = true := by
  cases clauses with
  | nil => exact show isSingle "1=1" = true by decide
  | cons c rest =>
    rw [conditionText, conjunction?_eq (place_ne_nil (List.cons_ne_nil c rest) 0), Option.getD_some]
    have each : ∀ condition ∈ Clause.place 0 (c :: rest), isSingle condition.sql = true :=
      fun _ member => Condition.isSingle_sql (Clause.sound_of_mem_place sound member)
    have joins : isSingle " AND " = true := by decide
    exact isSingle_intercalate joins (List.forall_mem_map.mpr each)

theorem isSingle_selection (kind : QueryKind) : isSingle kind.selection = true := by
  cases kind with
  | rows => exact isSingle_spelled rfl (by decide)
  | count => exact isSingle_spelled (spelled_append rfl rfl) (by decide)

theorem isSingle_page (kind : QueryKind) (limit : Nat) : isSingle (kind.page limit) = true := by
  cases kind with
  | rows =>
    have ordering : isSingle " ORDER BY entity.entity LIMIT " = true := isSingle_spelled rfl (by decide)
    change isSingle (" ORDER BY entity.entity LIMIT " ++ toString limit) = true
    rw [isSingle_append, ordering, isSingle_toString]
    rfl
  | count => rfl

theorem query_starts (f : Filters) {kind : QueryKind} (opening rest : String)
    (starts : kind.selection = opening ++ rest) : ∃ rest, (f.query kind).sql = opening ++ rest := by
  simp only [query, starts, String.append_assoc]
  exact ⟨_, rfl⟩

theorem query_selects (f : Filters) (kind : QueryKind) : ∃ rest, (f.query kind).sql = "SELECT " ++ rest := by
  cases kind with
  | rows => exact query_starts f "SELECT " "entity.*, geometry.geojson" (spelled_split rfl rfl rfl rfl)
  | count =>
    exact query_starts f "SELECT " "DISTINCT COUNT(*) AS _count" (spelled_split (spelled_append rfl rfl) rfl rfl rfl)

theorem query_isSingleSelect (f : Filters) (kind : QueryKind) : (f.query kind).IsSingleSelect := by
  refine ⟨query_selects f kind, isSingle_iff.mp ?_⟩
  have fixed : isSingle source = true ∧ isSingle " WHERE " = true :=
    ⟨isSingle_spelled rfl (by decide), isSingle_spelled rfl (by decide)⟩
  simp only [query, isSingle_append, isSingle_selection, fixed, isSingle_page,
    isSingle_conditionText (sound_queryClauses f kind), Bool.and_self]

/-- A query for rows ends in its limit. -/
theorem query_rows_limit (f : Filters) :
    ∃ opening, (f.query .rows).sql = opening ++ " LIMIT " ++ toString f.limit := by
  have split : " ORDER BY entity.entity LIMIT " = " ORDER BY entity.entity" ++ " LIMIT " :=
    spelled_split rfl rfl rfl rfl
  obtain ⟨opening, same⟩ : ∃ opening,
      (f.query .rows).sql = opening ++ (" ORDER BY entity.entity LIMIT " ++ toString f.limit) := ⟨_, rfl⟩
  refine ⟨opening ++ " ORDER BY entity.entity", ?_⟩
  rw [same, split]
  simp only [String.append_assoc]

theorem limit_eq_of_query_eq {f g : Filters} (same : f.query .rows = g.query .rows) : f.limit = g.limit := by
  have read := f.limit?_rows
  rw [same, g.limit?_rows] at read
  exact (Option.some.inj (Option.some.inj read)).symm

theorem query_count_ne_rows (f g : Filters) : f.query .count ≠ g.query .rows := by
  intro same
  have flags : true = false := congrArg Query.countOnly same
  cases flags

theorem query_count_ne_datasetQuery (f : Filters) (dataset : Option String) :
    f.query .count ≠ datasetQuery dataset := by
  intro same
  have flags : true = false := congrArg Query.countOnly same
  cases flags

/-- A query for rows selects entities and their geometry, that for datasets begins with their column. -/
theorem query_rows_ne_datasetQuery (f : Filters) (dataset : Option String) :
    f.query .rows ≠ datasetQuery dataset := by
  intro same
  have rows : ∃ rest, (f.query .rows).sql = "SELECT e" ++ rest :=
    query_starts f "SELECT e" "ntity.*, geometry.geojson" (spelled_split rfl rfl rfl rfl)
  have datasets : ∃ rest, (datasetQuery dataset).sql = "SELECT d" ++ rest :=
    datasetQuery_starts dataset "SELECT d" "ataset, COUNT(DISTINCT entity) AS _count FROM entity"
      (spelled_split (spelled_append (spelled_append rfl rfl) rfl) rfl rfl rfl)
  exact ne_of_starts rows datasets rfl rfl rfl (by decide) (congrArg Query.sql same)

end Filters

def Query.IsCompiled (q : Query) : Prop :=
  (∃ (f : Filters) (kind : QueryKind), q = f.query kind) ∨ ∃ dataset, q = datasetQuery dataset

theorem Query.IsCompiled.isSingleSelect {q : Query} (compiled : q.IsCompiled) : q.IsSingleSelect := by
  obtain ⟨f, kind, rfl⟩ | ⟨dataset, rfl⟩ := compiled
  · exact f.query_isSingleSelect kind
  · exact datasetQuery_isSingleSelect dataset

end Gazetteer

import Gazetteer.Proofs.Database.Basic
import Gazetteer.Proofs.Search.Protocol

/-!
What a database answers to the queries of a search: the number of the rows that the filters ask for, and the
first of them behind the cursor in the order of their numbers.
-/

namespace Gazetteer

open Sql

/-! ### Conditions -/

namespace Filters

/-- The condition of a query is a formula that asks for what the filters ask for. -/
theorem readFormula_query (f : Filters) (kind : QueryKind) :
    ∃ condition, readFormula (conditionWords (f.query kind).sql) = some condition ∧
      ∀ truth, condition.eval (fun ws => truth (ws.map (Word.bound (f.query kind).named))) =
        f.selects truth kind := by
  rw [conditionWords_query]
  cases read : readFormula (words (conditionTokens (f.queryClauses kind))) with
  | none =>
    have means := readFormula_conditionTokens (fun _ => .yes) f kind
    rw [read] at means
    cases means
  | some condition =>
    refine ⟨condition, rfl, fun truth => ?_⟩
    have means := readFormula_conditionTokens truth f kind
    rw [read] at means
    exact Option.some.inj means

theorem selects_eq_yes_iff {truth : List Word → Truth} (neutral : truth (wordsOf "1=1") = .yes) (f : Filters)
    (kind : QueryKind) : f.selects truth kind = .yes ↔ ∀ t ∈ f.restrictions truth kind, t = .yes := by
  rw [selects]
  split
  next none_restricts =>
    have unbound : (wordsOf "1=1").map (Word.bound (bindings [])) = wordsOf "1=1" := by
      rw [wordsOf_plain (by decide), bound_words]
    rw [compared, unbound, List.isEmpty_iff.mp none_restricts]
    exact iff_of_true neutral (by simp)
  next => exact Truth.all_eq_yes_iff _

theorem restrictions_rows (truth : List Word → Truth) (f : Filters) (cursor : Option String) :
    { f with nextEntity := cursor }.restrictions truth .rows =
      f.restrictions truth .count ++
        cursor.toList.map fun text => compared truth "entity.entity > :p0" [text] := by
  have open_ended : f.restrictions truth .count = f.membershipRestrictions truth ++ f.curieRestrictions truth
      ++ f.lifecycleRestrictions truth ++ dateRestrictions truth "entity.start_date" f.startDate
      ++ dateRestrictions truth "entity.end_date" f.endDate ++ dateRestrictions truth "entity.entry_date" f.entryDate
      ++ f.shapeRestrictions truth := List.append_nil _
  rw [open_ended]
  rfl

theorem selects_rows_iff {truth : List Word → Truth} (neutral : truth (wordsOf "1=1") = .yes) (f : Filters)
    (cursor : Option String) : { f with nextEntity := cursor }.selects truth .rows = .yes ↔
      f.selects truth .count = .yes ∧ ∀ text ∈ cursor, compared truth "entity.entity > :p0" [text] = .yes := by
  rw [selects_eq_yes_iff neutral, selects_eq_yes_iff neutral, restrictions_rows, List.forall_mem_append]
  cases cursor <;> simp

end Filters

namespace Database

variable (db : Database)

theorem truth_neutral (row : JoinedRow) : db.truth row (wordsOf "1=1") = .yes := if_pos rfl

theorem truth_cursor (row : JoinedRow) (n : Int) :
    compared (db.truth row) "entity.entity > :p0" [toString n] = if n < row.number then .yes else .no := by
  have comparison : wordsOf "entity.entity > :p0" =
      [.run "entity.entity".toList, .run ['>'], .token (.ofIndex 0)] := rfl
  have bound : (wordsOf "entity.entity > :p0").map (Word.bound (bindings [toString n])) =
      [.run "entity.entity".toList, .run ['>'], .value (toString n)] := by
    rw [comparison, List.map_cons, List.map_cons, List.map_singleton, bound_ofIndex]
    rfl
  have neutral : wordsOf "1=1" = [.run ['1'], .run ['='], .run ['1']] := by decide
  have number : cursor? [.run "entity.entity".toList, .run ['>'], .value (toString n)] = some n := by
    rw [cursor?, if_pos ⟨rfl, rfl⟩]
    exact Text.integer?_toString n
  rw [compared, bound, truth, if_neg (by rw [neutral]; simp), number]

/-! ### Selected rows -/

theorem selected_uncut (f : Filters) :
    db.selected { f with nextEntity := none } .rows = db.selected f .count := by
  refine List.filter_congr fun row _ => ?_
  have same := f.selects_rows_iff (db.truth_neutral row) none
  simpa using same

/-- Behind a cursor are the rows of greater numbers. -/
theorem selected_behind (f : Filters) (n : Int) :
    db.selected { f with nextEntity := some (toString n) } .rows =
      (db.selected f .count).filter fun row => n < row.number := by
  rw [selected, selected, rowsWhere, rowsWhere, List.filter_filter]
  refine List.filter_congr fun row _ => ?_
  have same := f.selects_rows_iff (db.truth_neutral row) (some (toString n))
  have after : compared (db.truth row) "entity.entity > :p0" [toString n] = .yes ↔ n < row.number := by
    rw [truth_cursor]
    split <;> simp_all
  rw [Bool.eq_iff_iff]
  simp only [Option.mem_some_iff, forall_eq', after] at same
  simpa [and_comm] using same

/-! ### The order of rows -/

def Ascending (rows : List JoinedRow) : Prop := rows.Pairwise (·.number < ·.number)

theorem ordered_perm (rows : List JoinedRow) : (ordered rows).Perm rows := List.mergeSort_perm rows _

theorem ordered_ascending {rows : List JoinedRow} (distinct : (rows.map (·.number)).Nodup) :
    Ascending (ordered rows) := by
  have weakly : (ordered rows).Pairwise fun a b => decide (a.number ≤ b.number) = true :=
    List.pairwise_mergeSort
      (fun a b c first second => by simp only [decide_eq_true_eq] at first second ⊢; omega)
      (fun a b => by simp only [Bool.or_eq_true, decide_eq_true_eq]; omega) rows
  have different : ((ordered rows).map (·.number)).Nodup := ((ordered_perm rows).map _).nodup_iff.mpr distinct
  refine (weakly.and (List.pairwise_map.mp different)).imp fun {a b} pair => ?_
  have below : a.number ≤ b.number := of_decide_eq_true pair.1
  have other : a.number ≠ b.number := pair.2
  omega

/-- Rows can be put in order in one way only. -/
theorem Ascending.eq_of_perm {rows others : List JoinedRow} (up : Ascending rows) (others_up : Ascending others)
    (same : rows.Perm others) : rows = others := by
  refine List.Perm.eq_of_pairwise (fun a b _ _ first second => ?_) up others_up same
  omega

theorem ordered_filter {rows : List JoinedRow} (distinct : (rows.map (·.number)).Nodup) (p : JoinedRow → Bool) :
    ordered (rows.filter p) = (ordered rows).filter p := by
  have fewer : ((rows.filter p).map (·.number)).Nodup := distinct.sublist (List.filter_sublist.map _)
  refine (ordered_ascending fewer).eq_of_perm ?_ ?_
  · exact (ordered_ascending distinct).sublist List.filter_sublist
  · exact (ordered_perm _).trans ((ordered_perm rows).filter p).symm

theorem joinedTo_number (entity : EntityRow) (member : entity ∈ db.entities) :
    (db.joinedTo entity).map (·.number) = [entity.number] := by
  have one := db.single entity member
  rw [joinedTo]
  generalize db.geometries.filter (·.entity = entity.number) = found at one ⊢
  match found with
  | [] => rfl
  | [geometry] => rfl
  | first :: second :: others => simp at one

theorem joined_distinct : (db.joined.map (·.number)).Nodup := by
  have numbers : db.joined.map (·.number) = db.entities.map (·.number) := by
    rw [joined, List.map_flatMap, List.flatMap_def, List.map_congr_left db.joinedTo_number, ← List.flatMap_def,
      List.map_eq_flatMap]
  rw [numbers]
  exact db.distinct

theorem selected_distinct (f : Filters) (kind : QueryKind) : ((db.selected f kind).map (·.number)).Nodup :=
  db.joined_distinct.sublist (List.filter_sublist.map _)

theorem selected_ascending (f : Filters) (kind : QueryKind) : Ascending (ordered (db.selected f kind)) :=
  ordered_ascending (db.selected_distinct f kind)

/-! ### Replies -/

theorem answer?_query (f : Filters) (kind : QueryKind) : db.answer? (f.query kind) =
    some (match kind with
      | .count => countTable (db.selected f .count)
      | .rows => db.table ((ordered (db.selected f .rows)).take f.limit)) := by
  obtain ⟨condition, read, means⟩ := f.readFormula_query kind
  rw [answer?, f.selected?_query, read]
  simp only [bind, Option.bind_some, means]
  cases kind with
  | count => rw [f.limit?_count]; rfl
  | rows => rw [f.limit?_rows]; rfl

variable (before : List Query) (f : Filters)

theorem reply_count : db.backend.reply before (f.query .count) = .ok (countTable (db.selected f .count)) := by
  simp only [backend, answer?_query]

theorem reply_rows : db.backend.reply before (f.query .rows) =
    .ok (db.table ((ordered (db.selected f .rows)).take f.limit)) := by
  simp only [backend, answer?_query]

theorem counted_eq : Search.counted db.backend before f = .ok (db.selected f .count).length := by
  have read : (countTable (db.selected f .count)).count countColumn = .ok (db.selected f .count).length := by
    simp [Table.count, countTable, Table.columnIndex?, Entity.readCount, Entity.countValue?, Json.nat]
  rw [Search.counted, reply_count]
  exact read

theorem records_table {rows : List JoinedRow} {records : List Entity.Record} :
    (db.table rows).records = .ok records ↔ List.Forall₂ db.Reads rows records := by
  rw [Table.records_eq_ok_iff]
  exact List.forall₂_map_left_iff

/-- A page holds the number of all rows and the records of the first ones, in order. -/
theorem paged_ok_iff {page : Page} : Search.paged db.backend before f = .ok page ↔
    page.filters = f ∧ page.count = (db.selected f .count).length ∧
      List.Forall₂ db.Reads ((ordered (db.selected f .rows)).take f.limit) page.records := by
  rw [Search.paged, counted_eq, ← records_table]
  simp only [bind, Except.bind, reply_rows]
  cases (db.table ((ordered (db.selected f .rows)).take f.limit)).records with
  | error e => simp
  | ok records =>
    obtain ⟨filters, count, others⟩ := page
    simp [pure, Except.pure, eq_comm]

/-! ### Records -/

theorem zip_cells (row : JoinedRow) : db.rowColumns.zip (db.cells row) =
    db.columns.map (fun column => (column, row.entity.value column)) ++
      [("geojson", (row.geometry.map (·.geojson)).getD .null)] := by
  rw [rowColumns, cells, List.zip_append (List.length_map _).symm, List.map_prod_left_eq_zip]
  rfl

/-- The record of a row has its number. -/
theorem Reads.entity {row : JoinedRow} {record : Entity.Record} (reads : db.Reads row record) :
    record.entity = some (.number (.integer row.number)) := by
  rw [Reads, Entity.readRow, zip_cells] at reads
  refine Entity.Record.entity_of_cells rfl ?_ reads (.inr ?_)
  · intro cell member named
    rcases List.mem_append.mp member with own | last
    · obtain ⟨column, -, rfl⟩ := List.mem_map.mp own
      exact if_pos named
    · obtain rfl := List.mem_singleton.mp last
      exact absurd (show "geojson" = "entity" from named) (by decide)
  · rw [List.map_append, List.map_map, List.mem_append]
    exact .inl (List.mem_map.mpr ⟨"entity", db.numbered, rfl⟩)

end Database

end Gazetteer

import Gazetteer.Proofs.Entity.Rows
import Gazetteer.Search

/-!
What is asked of a backend, and what comes of it.  Every inquiry ends at its first error, with that error.
-/

namespace Gazetteer

variable {α : Type}

/-- An inquiry of one query sends it and nothing else. -/
theorem Inquiry.run_query (q : Query) (read : Table → Except QueryError α) (backend : Backend)
    (before : List Query) :
    Dialogue.run backend before (Inquiry.query q read) = ((backend.reply before q).bind read, [q]) := rfl

theorem Inquiry.run_andThen {β : Type} (d : Inquiry α) (f : α → Inquiry β) (backend : Backend)
    (before : List Query) :
    Dialogue.run backend before (d.andThen f) =
      match Dialogue.run backend before d with
      | (.error e, asked) => (.error e, asked)
      | (.ok value, asked) =>
        let rest := (f value).run backend (before ++ asked)
        (rest.1, asked ++ rest.2) := by
  rw [Inquiry.andThen, Dialogue.run_bind]
  cases d.run backend before with
  | mk result asked =>
    cases result with
    | error e => simp [Dialogue.run]
    | ok value => rfl

namespace Search

variable (backend : Backend) (before : List Query)

def counted (f : Filters) : Except QueryError Nat := do
  let counts ← backend.reply before (f.query .count)
  counts.count countColumn

/-- The page that filters come to, after queries of which the count is the last. -/
def paged (f : Filters) : Except QueryError Page := do
  let count ← counted backend before f
  let rows ← backend.reply (before ++ [f.query .count]) (f.query .rows)
  let records ← rows.records
  return { filters := f, count, records }

theorem run_count (f : Filters) : (count f).run backend before = (counted backend before f, [f.query .count]) :=
  Inquiry.run_query _ _ backend before

/-- Rows are asked for only after a count that could be read, and nothing is asked for after them. -/
theorem run_page (f : Filters) :
    (page f).run backend before =
      (paged backend before f,
        match counted backend before f with
        | .error _ => [f.query .count]
        | .ok _ => [f.query .count, f.query .rows]) := by
  rw [page, Inquiry.run_andThen, run_count, paged]
  cases counted backend before f with
  | error e => rfl
  | ok n =>
    simp only [Inquiry.run_query]
    cases backend.reply (before ++ [f.query .count]) (f.query .rows) with
    | error e => rfl
    | ok rows =>
      simp only [Except.bind, bind]
      cases rows.records <;> rfl

/-! ### One entity -/

def entityQuery (entity : String) : Query := (only entity).query .rows

theorem run_entity (entity : String) :
    (entity? entity).run backend before =
      ((backend.reply before (entityQuery entity)).bind fun rows => rows.records.map (·.head?), [entityQuery entity]) :=
  Inquiry.run_query _ _ backend before

theorem entity_error_iff (entity : String) (e : QueryError) :
    ((entity? entity).run backend before).1 = .error e ↔
      backend.reply before (entityQuery entity) = .error e ∨
        ∃ rows, backend.reply before (entityQuery entity) = .ok rows ∧ rows.FirstUnreadable e := by
  rw [run_entity]
  cases backend.reply before (entityQuery entity) with
  | error first => simp [Except.bind]
  | ok rows =>
    have unread := rows.records_eq_error_iff (e := e)
    cases read : rows.records with
    | error first => simpa [Except.bind, Except.map, read] using unread
    | ok records => simpa [Except.bind, Except.map, read] using unread

theorem entity_found_iff (entity : String) (record : Entity.Record) :
    ((entity? entity).run backend before).1 = .ok (some record) ↔
      ∃ rows others, backend.reply before (entityQuery entity) = .ok rows ∧
        rows.records = .ok (record :: others) := by
  rw [run_entity]
  cases backend.reply before (entityQuery entity) with
  | error first => simp [Except.bind]
  | ok rows =>
    cases read : rows.records with
    | error first => simp [Except.bind, Except.map, read]
    | ok records =>
      cases records with
      | nil => simp [Except.bind, Except.map, read]
      | cons first others => simp [Except.bind, Except.map, read]

theorem entity_absent_iff (entity : String) :
    ((entity? entity).run backend before).1 = .ok none ↔
      ∃ rows, backend.reply before (entityQuery entity) = .ok rows ∧ rows.rows = [] := by
  rw [run_entity]
  cases backend.reply before (entityQuery entity) with
  | error first => simp [Except.bind]
  | ok rows =>
    cases read : rows.records with
    | error first =>
      have some_row : rows.rows ≠ [] := by
        obtain ⟨before, row, after, split, -⟩ := rows.records_eq_error_iff.mp read
        simp [split]
      simp [Except.bind, Except.map, read, some_row]
    | ok records =>
      have lengths := (rows.records_eq_ok_iff.mp read).length_eq
      cases records with
      | nil => simpa [Except.bind, Except.map, read] using lengths
      | cons first others =>
        have some_row : rows.rows ≠ [] := by
          intro none_left
          simp [none_left] at lengths
        simp [Except.bind, Except.map, read, some_row]

end Search

open Search in
/-- What is sent to a backend, in which order, and what is made of its replies.  A search counts first; one entity
is found by one query, all of whose rows must be readable. -/
theorem call_protocol (backend : Backend) (before : List Query) :
    (∀ f : Filters,
      (page f).run backend before =
        (paged backend before f,
          match counted backend before f with
          | .error _ => [f.query .count]
          | .ok _ => [f.query .count, f.query .rows])) ∧
    (∀ f : Filters, (count f).run backend before = (counted backend before f, [f.query .count])) ∧
    (∀ entity : String,
      ((entity? entity).run backend before).2 = [entityQuery entity] ∧
      (∀ e, ((entity? entity).run backend before).1 = .error e ↔
        backend.reply before (entityQuery entity) = .error e ∨
          ∃ rows, backend.reply before (entityQuery entity) = .ok rows ∧ rows.FirstUnreadable e) ∧
      (∀ record, ((entity? entity).run backend before).1 = .ok (some record) ↔
        ∃ rows others, backend.reply before (entityQuery entity) = .ok rows ∧
          List.Forall₂ (fun row record => Entity.readRow rows.columns row = .ok record) rows.rows
            (record :: others)) ∧
      (((entity? entity).run backend before).1 = .ok none ↔
        ∃ rows, backend.reply before (entityQuery entity) = .ok rows ∧ rows.rows = [])) ∧
    ∀ dataset : Option String, ((datasetCounts dataset).run backend before).2 = [datasetQuery dataset] := by
  refine ⟨run_page backend before, run_count backend before, fun entity => ?_, fun _ => rfl⟩
  have found := entity_found_iff backend before entity
  simp only [Table.records_eq_ok_iff] at found
  exact ⟨rfl, entity_error_iff backend before entity, found, entity_absent_iff backend before entity⟩

end Gazetteer

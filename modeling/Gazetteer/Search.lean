import Gazetteer.Dialogue
import Gazetteer.Entity.Count
import Gazetteer.Entity.Record

/-!
What can be asked about entities: a page of a search with the number of all matches, that number alone,
one entity, the entities of each dataset, and the statements of a search without sending them.
-/

namespace Gazetteer

open Entity

/-- A page of a search, with the filters that selected it. -/
structure Page where
  filters : Filters
  /-- The number of matches on all pages. -/
  count : Nat
  records : List Record
  deriving BEq, Repr

def Page.toJson (p : Page) : Json :=
  .object [("query", p.filters.toJson), ("count", .nat p.count), ("results", .array (p.records.map (·.toJson)))]

/-- The statements of a search. -/
structure Preview where
  rows : Query
  count : Query
  deriving DecidableEq, Repr

def Preview.toJson (p : Preview) : Json :=
  .object [("sql", .text p.rows.sql), ("params", .texts p.rows.values), ("inline_sql", .text p.rows.inlined),
    ("count_sql", .text p.count.inlined)]

namespace Search

def count (f : Filters) : Inquiry Nat := .query (f.query .count) (·.count countColumn)

/-- Counts first, and asks for rows only if that succeeds. -/
def page (f : Filters) : Inquiry Page :=
  (count f).andThen fun n => .query (f.query .rows) fun rows => rows.records.map fun records => ⟨f, n, records⟩

/-- The filters that select one entity. -/
def only (entity : String) : Filters := { entity := [entity], limit := 1 }

def entity? (entity : String) : Inquiry (Option Record) :=
  .query ((only entity).query .rows) fun rows => rows.records.map (·.head?)

def datasetCounts (dataset : Option String) : Inquiry (List DatasetCount) :=
  .query (datasetQuery dataset) (·.datasetCounts countColumn)

def preview (f : Filters) : Preview := ⟨f.query .rows, f.query .count⟩

end Search

end Gazetteer

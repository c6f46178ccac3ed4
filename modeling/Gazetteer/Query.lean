import Gazetteer.Filter.Clauses

/-!
The queries of a search: one for a page of rows, one for the number of all rows, and one for the entities
of each dataset.
-/

namespace Gazetteer

open Sql

/-- A statement and the values that its placeholders stand for. -/
structure Query where
  sql : String
  values : List String
  /-- Whether the statement only counts the entities of a search. -/
  countOnly : Bool
  deriving DecidableEq, Repr

namespace Query

/-- The statement with literals in place of its placeholders. -/
def inlined (q : Query) : String := inline q.sql q.values

/-- The values with the names of their placeholders. -/
def named (q : Query) : List (String × String) :=
  q.values.mapIdx fun index value => (parameterName index, value)

end Query

inductive QueryKind where
  | rows
  | count
  deriving DecidableEq, Repr

def countColumn : String := "_count"

def source : String := " FROM entity LEFT OUTER JOIN geometry ON entity.entity = geometry.entity"

def QueryKind.selection : QueryKind → String
  | .rows => "SELECT entity.*, geometry.geojson"
  | .count => "SELECT DISTINCT COUNT(*) AS " ++ countColumn

/-- The order and the length of a page. -/
def QueryKind.page (kind : QueryKind) (limit : Nat) : String :=
  match kind with
  | .rows => " ORDER BY entity.entity LIMIT " ++ toString limit
  | .count => ""

namespace Filters

def queryClauses (f : Filters) : QueryKind → List Clause
  | .rows => f.clauses ++ f.cursorClauses
  | .count => f.clauses

/-- The text of the condition of a query; without clauses it is one that always holds. -/
def conditionText (clauses : List Clause) : String := (conjunction? (Clause.place 0 clauses)).getD "1=1"

def query (f : Filters) (kind : QueryKind) : Query where
  sql := kind.selection ++ source ++ " WHERE " ++ conditionText (f.queryClauses kind) ++ kind.page f.limit
  values := Clause.allValues (f.queryClauses kind)
  countOnly := kind = .count

end Filters

/-- The number of entities of each dataset, or of one. -/
def datasetQuery (dataset : Option String) : Query where
  sql := "SELECT dataset, COUNT(DISTINCT entity) AS " ++ countColumn ++ " FROM entity"
    ++ (if dataset.isSome then " WHERE dataset = " ++ placeholder 0 else "")
    ++ " GROUP BY dataset ORDER BY dataset"
  values := dataset.toList
  countOnly := false

end Gazetteer

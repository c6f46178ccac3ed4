import Gazetteer.Dialogue
import Gazetteer.Entity.Record
import Gazetteer.Proofs.Sql.Select

/-!
A database of entities and their geometries that answers SELECT statements as they are written: it reads the
selection, the condition and the page from the words of a statement.  What single comparisons come to is left
open but for the neutral one and the one with a cursor.
-/

namespace Gazetteer

open Sql

structure EntityRow where
  number : Int
  /-- What stands under the columns other than that of the number. -/
  cell : String → Json

def EntityRow.value (entity : EntityRow) (column : String) : Json :=
  if column = "entity" then .number (.integer entity.number) else entity.cell column

structure GeometryRow where
  entity : Int
  geojson : Json

structure JoinedRow where
  entity : EntityRow
  geometry : Option GeometryRow

def JoinedRow.number (row : JoinedRow) : Int := row.entity.number

/-- Entities have distinct numbers, and no entity has two geometries. -/
structure Database where
  columns : List String
  entities : List EntityRow
  geometries : List GeometryRow
  /-- The truth of a comparison for a row. -/
  holds : JoinedRow → List Word → Truth
  numbered : "entity" ∈ columns
  distinct : (entities.map (·.number)).Nodup
  single : ∀ entity ∈ entities, (geometries.filter (·.entity = entity.number)).length ≤ 1

def Sql.cursor? : List Word → Option Int
  | [.run column, .run sign, .value text] =>
    if column = "entity.entity".toList ∧ sign = ['>'] then Text.integer? text.toList else none
  | _ => none

namespace Database

variable (db : Database)

/-! ### Rows -/

def joinedTo (entity : EntityRow) : List JoinedRow :=
  match db.geometries.filter (·.entity = entity.number) with
  | [] => [⟨entity, none⟩]
  | found => found.map fun geometry => ⟨entity, some geometry⟩

def joined : List JoinedRow := db.entities.flatMap db.joinedTo

def truth (row : JoinedRow) (comparison : List Word) : Truth :=
  if comparison = wordsOf "1=1" then .yes
  else
    match cursor? comparison with
    | some number => if number < row.number then .yes else .no
    | none => db.holds row comparison

/-- The rows of which a condition is true, neither false nor unknown. -/
def rowsWhere (condition : (List Word → Truth) → Truth) : List JoinedRow :=
  db.joined.filter fun row => condition (db.truth row) = .yes

def selected (f : Filters) (kind : QueryKind) : List JoinedRow :=
  db.rowsWhere fun truth => f.selects truth kind

def ordered (rows : List JoinedRow) : List JoinedRow := rows.mergeSort fun a b => a.number ≤ b.number

/-! ### Tables -/

def rowColumns : List String := db.columns ++ ["geojson"]

def cells (row : JoinedRow) : List Json :=
  db.columns.map row.entity.value ++ [(row.geometry.map (·.geojson)).getD .null]

def table (rows : List JoinedRow) : Table := ⟨db.rowColumns, rows.map db.cells⟩

def countTable (rows : List JoinedRow) : Table := ⟨[countColumn], [[.nat rows.length]]⟩

def Reads (row : JoinedRow) (record : Entity.Record) : Prop := Entity.readRow db.rowColumns (db.cells row) = .ok record

/-! ### Answers -/

def answer? (q : Query) : Option Table := do
  let kind ← selected? (openingWords q.sql)
  let condition ← readFormula (conditionWords q.sql)
  let limit ← limit? (pageWords q.sql)
  let rows := db.rowsWhere fun truth => condition.eval fun ws => truth (ws.map (Word.bound q.named))
  match kind, limit with
  | .count, none => some (countTable rows)
  | .count, some _ => none
  | .rows, none => some (db.table rows)
  | .rows, some limit => some (db.table ((ordered rows).take limit))

/-- It replies to a statement alike whatever it was asked before. -/
def backend : Backend where
  name := "database"
  reply _ q :=
    match db.answer? q with
    | some table => .ok table
    | none => .error (.remote "database" 400 "no such statement")

end Database

end Gazetteer

import Gazetteer.Json.Reader
import Gazetteer.Table
import Gazetteer.Text.Blank

/-!
Entity records.  A row becomes a record cell by cell: a cell under a listed column sets that part of the
record, later cells replace earlier ones, and all other cells are dropped.
-/

namespace Gazetteer

namespace Entity

/-- The parts of a record, in the order in which they are written. -/
inductive Field where
  | dataset
  | entryDate
  | reference
  | entity
  | name
  | geojson
  | typology
  deriving DecidableEq, Repr

namespace Field

def all : List Field := [.dataset, .entryDate, .reference, .entity, .name, .geojson, .typology]

def column : Field → String
  | .dataset => "dataset"
  | .entryDate => "entry_date"
  | .reference => "reference"
  | .entity => "entity"
  | .name => "name"
  | .geojson => "geojson"
  | .typology => "typology"

def ofColumn? (column : String) : Option Field := all.find? (·.column == column)

theorem ofColumn?_column (f : Field) : ofColumn? f.column = some f := by cases f <;> decide

end Field

/-- An entity as it is answered.  Its cells keep their JSON types. -/
structure Record where
  dataset : Option Json := none
  entryDate : Option Json := none
  reference : Option Json := none
  entity : Option Json := none
  name : Option Json := none
  geojson : Json := .object []
  typology : Option Json := none
  deriving BEq, Repr, Inhabited

/-- A cell that is not null. -/
def cell? : Json → Option Json
  | .null => none
  | value => some value

/-- The geometry in a cell: none for null and blank text, else an object or the JSON that a text spells. -/
def readGeojson : Json → Except QueryError Json
  | .null => .ok (.object [])
  | .text s =>
    if Text.blank s then .ok (.object [])
    else
      match Json.parse? s with
      | some value => .ok value
      | none => .error (.malformed cellReader .geojsonText)
  | .object fields => .ok (.object fields)
  | value => .error (.malformed cellReader (.geojsonValue value))

namespace Record

def set (r : Record) (value : Json) : Field → Except QueryError Record
  | .dataset => .ok { r with dataset := cell? value }
  | .entryDate => .ok { r with entryDate := cell? value }
  | .reference => .ok { r with reference := cell? value }
  | .entity => .ok { r with entity := cell? value }
  | .name => .ok { r with name := cell? value }
  | .geojson => (readGeojson value).map fun geojson => { r with geojson }
  | .typology => .ok { r with typology := cell? value }

def setCell (r : Record) (cell : String × Json) : Except QueryError Record :=
  match Field.ofColumn? cell.1 with
  | some field => r.set cell.2 field
  | none => .ok r

def get? (r : Record) : Field → Option Json
  | .dataset => r.dataset
  | .entryDate => r.entryDate
  | .reference => r.reference
  | .entity => r.entity
  | .name => r.name
  | .geojson => some r.geojson
  | .typology => r.typology

def toJson (r : Record) : Json :=
  .object (Field.all.filterMap fun field => (r.get? field).map fun value => (field.column, value))

end Record

/-- The record of a row; cells without a column are dropped. -/
def readRow (columns : List String) (row : List Json) : Except QueryError Record :=
  (columns.zip row).foldlM Record.setCell {}

end Entity

/-- The records of a table, or the error of its first unreadable cell. -/
def Table.records (t : Table) : Except QueryError (List Entity.Record) :=
  t.rows.mapM (Entity.readRow t.columns)

end Gazetteer

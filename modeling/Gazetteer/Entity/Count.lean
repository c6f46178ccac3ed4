import Gazetteer.Table
import Gazetteer.Text.Blank
import Gazetteer.Text.Numeral

/-!
Counts in tables.  A count is a natural number of 64 bits, as a number or as text; where there is no cell,
or null, it is zero.
-/

namespace Gazetteer

namespace Entity

def greatestCount : Nat := 0xFFFFFFFFFFFFFFFF

def countValue? : Json → Option Nat
  | .number (.integer n) => if 0 ≤ n then some n.toNat else none
  | .text s => (Text.readNatural greatestCount (Text.trimChars s.toList)).toOption
  | _ => none

/-- The count in a cell, if there is a cell. -/
def readCount : Option Json → Except QueryError Nat
  | none | some .null => .ok 0
  | some value =>
    match countValue? value with
    | some n => .ok n
    | none => .error (.malformed cellReader (.count value))

structure DatasetCount where
  dataset : String
  count : Nat
  deriving DecidableEq, Repr

def DatasetCount.toJson (c : DatasetCount) : Json :=
  .object [("dataset", .text c.dataset), ("count", .nat c.count)]

/-- The name in a cell: its text, or the JSON of a value that is no text. -/
def nameText? : Json → Option String
  | .null => none
  | .text s => some s
  | value => some value.render

def readDatasetCount (named : String × Option Json) : Except QueryError DatasetCount :=
  (readCount named.2).map fun count => ⟨named.1, count⟩

end Entity

namespace Table

open Entity

/-- The number in the first row, under a column or else in the first cell. -/
def count (t : Table) (column : String) : Except QueryError Nat :=
  match t.rows with
  | [] => .ok 0
  | row :: _ => readCount row[(t.columnIndex? column).getD 0]?

/-- The rows that name a dataset, each with the cell of its count if it has one. -/
def namedCells (t : Table) (column : String) : List (String × Option Json) :=
  t.rows.filterMap fun row =>
    (row[(t.columnIndex? "dataset").getD 0]?.bind nameText?).map
      fun name => (name, row[(t.columnIndex? column).getD 1]?)

/-- The counts of the rows that name a dataset. -/
def datasetCounts (t : Table) (column : String) : Except QueryError (List DatasetCount) :=
  (t.namedCells column).mapM readDatasetCount

end Table

end Gazetteer

import Gazetteer.Json.Printer

/-!
What a query returns: names of columns and rows of cells, and the reasons why a query can fail.
-/

namespace Gazetteer

structure Table where
  columns : List String := []
  rows : List (List Json) := []
  deriving BEq, Repr, Inhabited

namespace Table

/-- The place of the first column with a name. -/
def columnIndex? (t : Table) (name : String) : Option Nat := t.columns.findIdx? (· == name)

def toJson (t : Table) : Json :=
  .object [("columns", .texts t.columns), ("rows", .array (t.rows.map .array))]

end Table

/-- What makes a response unreadable. -/
inductive Defect where
  /-- The response is no table. -/
  | noTable
  /-- A geometry is a text that is not JSON. -/
  | geojsonText
  /-- A geometry is neither a text nor an object. -/
  | geojsonValue (cell : Json)
  /-- A count is no natural number. -/
  | count (cell : Json)
  /-- Any other reason, in the words of the backend. -/
  | reported (message : String)
  deriving BEq, Repr

inductive QueryError where
  /-- No complete response arrived; `transient` if the request may never have been handled. -/
  | transport (backend : String) (transient : Bool)
  /-- The backend answered that the query failed. -/
  | remote (backend : String) (status : Nat) (message : String)
  | malformed (backend : String) (defect : Defect)
  | timeout (backend : String) (seconds : Nat)
  | config (message : String)
  deriving BEq, Repr

/-- The name of the reader of cells in its errors. -/
def cellReader : String := "entity"

def Defect.message? : Defect → Option String
  | .noTable => none
  | .geojsonText => some "Undecodable geojson"
  | .geojsonValue cell => some ("Unexpected geojson value: " ++ cell.render)
  | .count cell => some ("Invalid count value: " ++ cell.render)
  | .reported message => some message

namespace QueryError

/-- The text of an error, where it has one of its own. -/
def message? : QueryError → Option String
  | .transport _ _ => none
  | .remote backend status message =>
    some ("Remote query failed on " ++ backend ++ " (HTTP " ++ toString status ++ "): " ++ message)
  | .malformed backend defect =>
    defect.message?.map fun message => "Malformed response from " ++ backend ++ ": " ++ message
  | .timeout backend seconds => some ("Query timeout after " ++ toString seconds ++ "s on " ++ backend)
  | .config message => some ("Configuration error: " ++ message)

/-- Whether the same query may succeed when it is sent again. -/
def isTransient : QueryError → Bool
  | .transport _ transient => transient
  | .remote _ status _ => 502 ≤ status && status ≤ 504
  | .malformed _ _ => false
  | .timeout _ _ => true
  | .config _ => false

def backend : QueryError → String
  | .transport backend _ | .remote backend _ _ | .malformed backend _ | .timeout backend _ => backend
  | .config _ => "unknown"

end QueryError

end Gazetteer

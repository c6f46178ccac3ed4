import Gazetteer.Filter.Choice
import Gazetteer.Json.Value

/-!
The filters of a search, and the keys under which requests and answers name their parts.
-/

namespace Gazetteer

namespace Filter

/-- The date columns that can be filtered, in the order of their conditions. -/
inductive DateColumn where
  | start
  | finish
  | entry
  deriving DecidableEq, Repr

namespace DateColumn

def all : List DateColumn := [.start, .finish, .entry]

def name : DateColumn → String
  | .start => "start_date"
  | .finish => "end_date"
  | .entry => "entry_date"

end DateColumn

/-- A date to compare a column with: in one piece, or as parts that are read if the piece is absent. -/
structure DateFilter where
  date : Option String := none
  year : Option String := none
  month : Option String := none
  day : Option String := none
  matching : Option DateMatch := none
  deriving DecidableEq, Repr, Inhabited

end Filter

open Gazetteer.Filter

def defaultLimit : Nat := 10

/-- What a search selects by.  Every list is a choice among its members; absent parts do not restrict. -/
structure Filters where
  typology : List String := []
  dataset : List String := []
  entity : List String := []
  curiePrefix : List String := []
  reference : List String := []
  curie : List String := []
  lifecycle : Option Lifecycle := none
  startDate : DateFilter := {}
  endDate : DateFilter := {}
  entryDate : DateFilter := {}
  longitude : Option String := none
  latitude : Option String := none
  geometry : List String := []
  geometryEntity : List String := []
  geometryReference : List String := []
  relation : Option Relation := none
  nextEntity : Option String := none
  limit : Nat := defaultLimit
  deriving DecidableEq, Repr, Inhabited

namespace Filter

/-- The parts that hold any number of values. -/
inductive ListKey where
  | typology
  | dataset
  | entity
  | curiePrefix
  | reference
  | curie
  | geometry
  | geometryEntity
  | geometryReference
  deriving DecidableEq, Repr

inductive DatePart where
  | date
  | year
  | month
  | day
  deriving DecidableEq, Repr

/-- The parts that hold one text. -/
inductive TextKey where
  | date (column : DateColumn) (part : DatePart)
  | longitude
  | latitude
  | nextEntity
  deriving DecidableEq, Repr

inductive Key where
  | list (key : ListKey)
  | text (key : TextKey)
  | lifecycle
  | dateMatch (column : DateColumn)
  | relation
  | limit
  deriving DecidableEq, Repr

def ListKey.name : ListKey → String
  | .typology => "typology"
  | .dataset => "dataset"
  | .entity => "entity"
  | .curiePrefix => "prefix"
  | .reference => "reference"
  | .curie => "curie"
  | .geometry => "geometry"
  | .geometryEntity => "geometry_entity"
  | .geometryReference => "geometry_reference"

def DatePart.suffix : DatePart → String
  | .date => ""
  | .year => "_year"
  | .month => "_month"
  | .day => "_day"

def TextKey.name : TextKey → String
  | .date column part => "entry_" ++ column.name ++ part.suffix
  | .longitude => "longitude"
  | .latitude => "latitude"
  | .nextEntity => "next_entity"

namespace Key

def name : Key → String
  | .list key => key.name
  | .text key => key.name
  | .lifecycle => "entries"
  | .dateMatch column => "entry_" ++ column.name ++ "_match"
  | .relation => "geometry_match"
  | .limit => "limit"

def ofDate (column : DateColumn) : List Key :=
  [.text (.date column .date), .text (.date column .year), .text (.date column .month),
    .text (.date column .day), .dateMatch column]

/-- Every key, in the order in which filters are written. -/
def all : List Key :=
  [.list .typology, .list .dataset, .list .entity, .list .curiePrefix, .list .reference, .list .curie, .lifecycle]
    ++ DateColumn.all.flatMap ofDate
    ++ [.text .longitude, .text .latitude, .list .geometry, .list .geometryEntity, .list .geometryReference,
      .relation, .text .nextEntity, .limit]

def ofName? (s : String) : Option Key := all.find? (·.name == s)

end Key

end Filter

namespace Filters

def list (f : Filters) : ListKey → List String
  | .typology => f.typology
  | .dataset => f.dataset
  | .entity => f.entity
  | .curiePrefix => f.curiePrefix
  | .reference => f.reference
  | .curie => f.curie
  | .geometry => f.geometry
  | .geometryEntity => f.geometryEntity
  | .geometryReference => f.geometryReference

def setList (f : Filters) (values : List String) : ListKey → Filters
  | .typology => { f with typology := values }
  | .dataset => { f with dataset := values }
  | .entity => { f with entity := values }
  | .curiePrefix => { f with curiePrefix := values }
  | .reference => { f with reference := values }
  | .curie => { f with curie := values }
  | .geometry => { f with geometry := values }
  | .geometryEntity => { f with geometryEntity := values }
  | .geometryReference => { f with geometryReference := values }

def date (f : Filters) : DateColumn → DateFilter
  | .start => f.startDate
  | .finish => f.endDate
  | .entry => f.entryDate

def setDate (f : Filters) (value : DateFilter) : DateColumn → Filters
  | .start => { f with startDate := value }
  | .finish => { f with endDate := value }
  | .entry => { f with entryDate := value }

end Filters

namespace Filter

def DateFilter.part (d : DateFilter) : DatePart → Option String
  | .date => d.date
  | .year => d.year
  | .month => d.month
  | .day => d.day

def DateFilter.setPart (d : DateFilter) (value : Option String) : DatePart → DateFilter
  | .date => { d with date := value }
  | .year => { d with year := value }
  | .month => { d with month := value }
  | .day => { d with day := value }

end Filter

namespace Filters

def text (f : Filters) : TextKey → Option String
  | .date column part => (f.date column).part part
  | .longitude => f.longitude
  | .latitude => f.latitude
  | .nextEntity => f.nextEntity

def setText (f : Filters) (value : Option String) : TextKey → Filters
  | .date column part => f.setDate ((f.date column).setPart value part) column
  | .longitude => { f with longitude := value }
  | .latitude => { f with latitude := value }
  | .nextEntity => { f with nextEntity := value }

def dateMatch (f : Filters) (column : DateColumn) : Option DateMatch := (f.date column).matching

def setDateMatch (f : Filters) (value : Option DateMatch) (column : DateColumn) : Filters :=
  f.setDate { f.date column with matching := value } column

/-- What is written under a key; absent parts and empty lists are left out. -/
def entry? (f : Filters) : Key → Option Json
  | .list key => if (f.list key).isEmpty then none else some (Json.texts (f.list key))
  | .text key => (f.text key).map .text
  | .lifecycle => f.lifecycle.map fun choice => .text choice.name
  | .dateMatch column => (f.dateMatch column).map fun choice => .text choice.name
  | .relation => f.relation.map fun choice => .text choice.name
  | .limit => some (Json.nat f.limit)

def toJson (f : Filters) : Json :=
  .object (Key.all.filterMap fun key => (f.entry? key).map (key.name, ·))

end Filters

theorem Filter.Key.ofName?_name (key : Key) : Key.ofName? key.name = some key := by
  cases key with
  | list key => cases key <;> decide
  | text key =>
    cases key with
    | date column part => cases column <;> cases part <;> decide
    | _ => decide
  | dateMatch column => cases column <;> decide
  | _ => decide

end Gazetteer

/-!
The closed choices of a search: which lifecycle states, how a date is compared, and which spatial relation.
Each has its names in requests and its words in SQL.
-/

namespace Gazetteer.Filter

/-- Which entities to include by the state of their end date. -/
inductive Lifecycle where
  | all
  | current
  | historical
  deriving DecidableEq, Repr

namespace Lifecycle

def choices : List Lifecycle := [.all, .current, .historical]

def name : Lifecycle → String
  | .all => "all"
  | .current => "current"
  | .historical => "historical"

def names : List String := choices.map name

def ofName? (s : String) : Option Lifecycle := choices.find? (·.name == s)

end Lifecycle

/-- How a date is compared with its column. -/
inductive DateMatch where
  | exact
  | before
  | since
  | empty
  deriving DecidableEq, Repr

namespace DateMatch

def name : DateMatch → String
  | .exact => "exact"
  | .before => "before"
  | .since => "since"
  | .empty => "empty"

def choices : List DateMatch := [.exact, .before, .since, .empty]

/-- The names in requests; `match` is a second name of `exact`. -/
def spellings : List (String × DateMatch) :=
  [("exact", .exact), ("match", .exact), ("before", .before), ("since", .since), ("empty", .empty)]

def names : List String := spellings.map (·.1)

def ofName? (s : String) : Option DateMatch := (spellings.find? (·.1 == s)).map (·.2)

/-- The comparison with a date; looking for empty dates compares with none. -/
def operator? : DateMatch → Option String
  | .exact => some "="
  | .before => some "<"
  | .since => some ">="
  | .empty => none

end DateMatch

/-- The relation of an entity's shape to a candidate geometry. -/
inductive Relation where
  | within
  | intersects
  | contains
  | touches
  | crosses
  | overlaps
  | equals
  | disjoint
  deriving DecidableEq, Repr

namespace Relation

def choices : List Relation :=
  [.within, .intersects, .contains, .touches, .crosses, .overlaps, .equals, .disjoint]

def name : Relation → String
  | .within => "within"
  | .intersects => "intersects"
  | .contains => "contains"
  | .touches => "touches"
  | .crosses => "crosses"
  | .overlaps => "overlaps"
  | .equals => "equals"
  | .disjoint => "disjoint"

def names : List String := choices.map name

def ofName? (s : String) : Option Relation := choices.find? (·.name == s)

/-- The spatial function that decides the relation. -/
def sqlFunction : Relation → String
  | .within => "WITHIN"
  | .intersects => "INTERSECTS"
  | .contains => "CONTAINS"
  | .touches => "TOUCHES"
  | .crosses => "CROSSES"
  | .overlaps => "OVERLAPS"
  | .equals => "EQUALS"
  | .disjoint => "DISJOINT"

end Relation

theorem Lifecycle.ofName?_name (c : Lifecycle) : ofName? c.name = some c := by cases c <;> decide

theorem DateMatch.ofName?_name (c : DateMatch) : ofName? c.name = some c := by cases c <;> decide

theorem Relation.ofName?_name (c : Relation) : ofName? c.name = some c := by cases c <;> decide

end Gazetteer.Filter

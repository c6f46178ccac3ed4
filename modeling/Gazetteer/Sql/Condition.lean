import Gazetteer.Filter.Basic
import Gazetteer.Sql.Placeholder

/-!
Conditions on an entity joined with its geometry.  A condition is built from atomic tests by conjunction
and disjunction; its text puts parentheses around each, so that it can stand in any other.  Tests name the
values they compare with by their index.
-/

namespace Gazetteer.Sql

open Gazetteer.Filter

/-- The columns whose values a search lists. -/
inductive Column where
  | typology
  | dataset
  | entity
  | curiePrefix
  | reference
  deriving DecidableEq, Repr

namespace Column

def all : List Column := [.typology, .dataset, .entity, .curiePrefix, .reference]

def name : Column → String
  | .typology => "typology"
  | .dataset => "dataset"
  | .entity => "entity"
  | .curiePrefix => "prefix"
  | .reference => "reference"

end Column

/-- Where a candidate geometry comes from: a text, an entity's number or an entity's reference. -/
inductive Source where
  | wellKnownText
  | entity
  | reference
  deriving DecidableEq, Repr

/-- The two shapes of an entity. -/
inductive Shape where
  | polygon
  | point
  deriving DecidableEq, Repr

def Shape.column : Shape → String
  | .polygon => "geometry.geometry_geom"
  | .point => "geometry.point_geom"

/-- The expression for a candidate geometry. -/
def Source.sql (source : Source) (index : Nat) : String :=
  match source with
  | .wellKnownText => "GeomFromText(" ++ placeholder index ++ ")"
  | .entity => "(SELECT geometry_geom FROM geometry WHERE entity = " ++ placeholder index ++ ")"
  | .reference =>
    "(SELECT geometry_geom FROM geometry WHERE entity = (SELECT entity FROM entity WHERE reference = "
      ++ placeholder index ++ " GROUP BY entity))"

/-- An atomic comparison. -/
inductive Test where
  /-- A column has a value. -/
  | equals (column : Column) (index : Nat)
  /-- The entity has not ended. -/
  | current
  /-- The entity has ended. -/
  | historical
  /-- A date is not recorded. -/
  | dateEmpty (column : DateColumn)
  /-- A date is recorded. -/
  | dateRecorded (column : DateColumn)
  /-- A date compares with a value. -/
  | dateCompares (column : DateColumn) (operator : String) (index : Nat)
  /-- The geometry belongs to the entity. -/
  | joined
  /-- The entity has a polygon. -/
  | hasPolygon
  /-- A shape stands in a relation to a candidate. -/
  | related (relation : Relation) (shape : Shape) (source : Source) (index : Nat)
  /-- The entity comes after a cursor. -/
  | after (index : Nat)
  deriving DecidableEq, Repr

def Test.sql : Test → String
  | .equals column index => "entity." ++ column.name ++ " = " ++ placeholder index
  | .current => "entity.end_date is ''"
  | .historical => "entity.end_date is not ''"
  | .dateEmpty column => "entity." ++ column.name ++ " = ''"
  | .dateRecorded column => "entity." ++ column.name ++ " != ''"
  | .dateCompares column operator index =>
    "entity." ++ column.name ++ " " ++ operator ++ " " ++ placeholder index
  | .joined => "entity.entity = geometry.entity"
  | .hasPolygon => "geometry.geometry_geom IS NOT NULL"
  | .related relation shape source index =>
    relation.sqlFunction ++ "(" ++ shape.column ++ ", " ++ source.sql index ++ ")"
  | .after index => "entity.entity > " ++ placeholder index

inductive Condition where
  | test (t : Test)
  | all (parts : List Condition)
  | any (parts : List Condition)
  deriving Repr

mutual

def Condition.sql : Condition → String
  | .test t => t.sql
  | .all parts => "(" ++ " AND ".intercalate (conditionTexts parts) ++ ")"
  | .any parts => "(" ++ " OR ".intercalate (conditionTexts parts) ++ ")"
termination_by structural c => c

def conditionTexts : List Condition → List String
  | [] => []
  | c :: rest => c.sql :: conditionTexts rest
termination_by structural cs => cs

end

theorem conditionTexts_eq_map (cs : List Condition) : conditionTexts cs = cs.map Condition.sql := by
  induction cs with
  | nil => simp [conditionTexts]
  | cons c rest ih => simp [conditionTexts, ih]

/-- Conditions that must all hold, joined without parentheses around the whole; none for no conditions. -/
def conjunction? (cs : List Condition) : Option String :=
  if cs.isEmpty then none else some (" AND ".intercalate (cs.map Condition.sql))

/-- A condition that compares with values of its own.  `condition first` names them by the indices
`first`, `first + 1` and so on. -/
structure Clause where
  values : List String
  condition : (first : Nat) → Condition

namespace Clause

/-- The values of the clauses, in order. -/
def allValues (clauses : List Clause) : List String := clauses.flatMap (·.values)

/-- The conditions of clauses whose values follow `first` others. -/
def place : (first : Nat) → List Clause → List Condition
  | _, [] => []
  | first, c :: rest => c.condition first :: place (first + c.values.length) rest

theorem place_append (first : Nat) (xs ys : List Clause) :
    place first (xs ++ ys) = place first xs ++ place (first + (allValues xs).length) ys := by
  induction xs generalizing first with
  | nil => simp [place, allValues]
  | cons x xs ih => simp [place, allValues, ih, Nat.add_assoc]

end Clause

end Gazetteer.Sql

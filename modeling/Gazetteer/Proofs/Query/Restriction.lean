import Gazetteer.Proofs.Sql.Bound
import Gazetteer.Query

/-!
What filters ask for, without a statement: the truth of a search for one entity from the truth of comparisons
with single values.  A list restricts to one of its members, and all restrictions must hold.
-/

namespace Gazetteer

open Gazetteer.Filter Sql

section truth

variable (truth : List Word → Truth)

def oneIfAny (members : List Truth) : List Truth := if members.isEmpty then [] else [Truth.any members]

namespace Filters

def membershipRestrictions (f : Filters) : List Truth :=
  oneIfAny (f.typology.map fun value => compared truth "entity.typology = :p0" [value])
    ++ oneIfAny (f.dataset.map fun value => compared truth "entity.dataset = :p0" [value])
    ++ oneIfAny (f.entity.map fun value => compared truth "entity.entity = :p0" [value])
    ++ oneIfAny (f.curiePrefix.map fun value => compared truth "entity.prefix = :p0" [value])
    ++ oneIfAny (f.reference.map fun value => compared truth "entity.reference = :p0" [value])

/-- The first part of a curie is a prefix, the second, if there is one, a reference. -/
def curieHolds (curie : String) : Truth :=
  let parts := curie.toList.splitOn ':'
  (compared truth "entity.prefix = :p0" [.ofList (parts[0]?.getD [])]).and
    (compared truth "entity.reference = :p0" [.ofList (parts[1]?.getD [])])

def curieRestrictions (f : Filters) : List Truth := oneIfAny (f.curie.map (curieHolds truth))

def lifecycleRestrictions (f : Filters) : List Truth :=
  match f.lifecycle with
  | none | some .all => []
  | some .current => [compared truth "entity.end_date is ''" []]
  | some .historical => [compared truth "entity.end_date is not ''" []]

/-- A date is recorded and compares with the date that the filter means; without such a date it is free. -/
def dateRestrictions (column : String) (d : DateFilter) : List Truth :=
  match d.matching with
  | none => []
  | some .empty => [compared truth (column ++ " = ''") []]
  | some .exact => compares " = :p0"
  | some .before => compares " < :p0"
  | some .since => compares " >= :p0"
where
  compares (comparison : String) : List Truth :=
    d.resolve?.toList.map fun date =>
      (compared truth (column ++ " != ''") []).and (compared truth (column ++ comparison) [date.iso])

def geometries (f : Filters) : List (String × String) :=
  (point? f.longitude f.latitude).toList.map ("GeomFromText(:p0)", ·)
    ++ f.geometry.map ("GeomFromText(:p0)", ·)
    ++ f.geometryEntity.map ("(SELECT geometry_geom FROM geometry WHERE entity = :p0)", ·)
    ++ f.geometryReference.map
      ("(SELECT geometry_geom FROM geometry WHERE entity = " ++
        "(SELECT entity FROM entity WHERE reference = :p0 GROUP BY entity))", ·)

def spatialFunction : Relation → String
  | .within => "WITHIN"
  | .intersects => "INTERSECTS"
  | .contains => "CONTAINS"
  | .touches => "TOUCHES"
  | .crosses => "CROSSES"
  | .overlaps => "OVERLAPS"
  | .equals => "EQUALS"
  | .disjoint => "DISJOINT"

def relates (relation : Relation) (geometry : String × String) : Truth :=
  ((compared truth "geometry.geometry_geom IS NOT NULL" []).and
      (compared truth (spatialFunction relation ++ "(geometry.geometry_geom, " ++ geometry.1 ++ ")") [geometry.2])).or
    (compared truth (spatialFunction relation ++ "(geometry.point_geom, " ++ geometry.1 ++ ")") [geometry.2])

def shapeRestrictions (f : Filters) : List Truth :=
  if f.geometries.isEmpty then []
  else [(compared truth "entity.entity = geometry.entity" []).and
    (Truth.any (f.geometries.map (relates truth (f.relation.getD .within))))]

def cursorRestrictions (f : Filters) : QueryKind → List Truth
  | .rows => f.nextEntity.toList.map fun cursor => compared truth "entity.entity > :p0" [cursor]
  | .count => []

def restrictions (f : Filters) (kind : QueryKind) : List Truth :=
  f.membershipRestrictions truth ++ f.curieRestrictions truth ++ f.lifecycleRestrictions truth
    ++ dateRestrictions truth "entity.start_date" f.startDate
    ++ dateRestrictions truth "entity.end_date" f.endDate
    ++ dateRestrictions truth "entity.entry_date" f.entryDate
    ++ f.shapeRestrictions truth ++ f.cursorRestrictions truth kind

/-- What a search asks of an entity: every restriction, or only that one is one. -/
def selects (f : Filters) (kind : QueryKind) : Truth :=
  if (f.restrictions truth kind).isEmpty then compared truth "1=1" []
  else Truth.all (f.restrictions truth kind)

end Filters

end truth

end Gazetteer

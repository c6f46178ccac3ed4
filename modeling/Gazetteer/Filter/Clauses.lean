import Gazetteer.Coordinate
import Gazetteer.Filter.Resolve
import Gazetteer.Sql.Condition
import Gazetteer.Text.Split

/-!
The clauses that filters stand for, one group for each concern: membership, curies, lifecycle, dates and
shapes.  A date that does not resolve and a point that is none restrict nothing.
-/

namespace Gazetteer.Filters

open Gazetteer.Filter Sql

def membership (f : Filters) : Column → List String
  | .typology => f.typology
  | .dataset => f.dataset
  | .entity => f.entity
  | .curiePrefix => f.curiePrefix
  | .reference => f.reference

/-- A column has one of the values. -/
def oneOf (column : Column) (values : List String) : Clause where
  values := values
  condition first := .any ((List.range values.length).map fun i => .test (.equals column (first + i)))

def membershipClauses (f : Filters) : List Clause :=
  (Column.all.filter fun column => !(f.membership column).isEmpty).map fun column =>
    oneOf column (f.membership column)

/-- The text before the first colon, and the text between the first and the second. -/
def splitCurie (curie : String) : String × String :=
  let (before, rest) := Text.splitAtFirst ':' curie.toList
  (.ofList before, .ofList (Text.splitAtFirst ':' rest).1)

/-- An entity has the prefix and the reference of one of the curies. -/
def oneOfCuries (curies : List String) : Clause where
  values := curies.flatMap fun curie => [(splitCurie curie).1, (splitCurie curie).2]
  condition first :=
    .any ((List.range curies.length).map fun i =>
      .all [.test (.equals .curiePrefix (first + 2 * i)), .test (.equals .reference (first + 2 * i + 1))])

def curieClauses (f : Filters) : List Clause := if f.curie.isEmpty then [] else [oneOfCuries f.curie]

def lifecycleClauses (f : Filters) : List Clause :=
  match f.lifecycle.getD .all with
  | .all => []
  | .current => [⟨[], fun _ => .test .current⟩]
  | .historical => [⟨[], fun _ => .test .historical⟩]

def dateClause? (column : DateColumn) (d : DateFilter) : Option Clause :=
  d.matching.bind fun matching =>
    match matching.operator? with
    | none => some ⟨[], fun _ => .test (.dateEmpty column)⟩
    | some operator => d.resolve?.map fun date =>
        ⟨[date.iso], fun first =>
          .all [.test (.dateRecorded column), .test (.dateCompares column operator first)]⟩

def dateClauses (f : Filters) : List Clause :=
  DateColumn.all.filterMap fun column => dateClause? column (f.date column)

/-- The candidate geometries in order, each with its value. -/
def candidates (f : Filters) : List (Source × String) :=
  (point? f.longitude f.latitude).toList.map (Source.wellKnownText, ·)
    ++ f.geometry.map (Source.wellKnownText, ·)
    ++ f.geometryEntity.map (Source.entity, ·)
    ++ f.geometryReference.map (Source.reference, ·)

/-- One of the entity's shapes is related to a candidate. -/
def relatesTo (relation : Relation) (source : Source) (index : Nat) : Condition :=
  .any [.all [.test .hasPolygon, .test (.related relation .polygon source index)],
    .test (.related relation .point source index)]

def shapeClause (relation : Relation) (candidates : List (Source × String)) : Clause where
  values := candidates.map (·.2)
  condition first :=
    .all [.test .joined,
      .any ((candidates.map (·.1)).mapIdx fun i source => relatesTo relation source (first + i))]

def shapeClauses (f : Filters) : List Clause :=
  if f.candidates.isEmpty then [] else [shapeClause (f.relation.getD .within) f.candidates]

/-- The clauses that select entities, whatever the page. -/
def clauses (f : Filters) : List Clause :=
  f.membershipClauses ++ f.curieClauses ++ f.lifecycleClauses ++ f.dateClauses ++ f.shapeClauses

/-- The entities after the cursor. -/
def cursorClauses (f : Filters) : List Clause :=
  f.nextEntity.toList.map fun cursor => ⟨[cursor], fun first => .test (.after first)⟩

end Gazetteer.Filters

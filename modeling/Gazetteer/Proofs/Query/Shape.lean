import Gazetteer.Proofs.Query.Clauses

/-!
The text of a statement depends on the shape of its filters alone.  Values decide how many of them there are
and which dates and points are any; what they hold never reaches the statement.
-/

namespace Gazetteer

open Gazetteer.Filter Sql

namespace Sql.Clause

def outline (c : Clause) : Nat × (Nat → Condition) := (c.values.length, c.condition)

theorem place_eq_of_outlines {xs ys : List Clause} (same : xs.map outline = ys.map outline) (first : Nat) :
    place first xs = place first ys := by
  induction xs generalizing ys first with
  | nil => rw [List.map_eq_nil_iff.mp same.symm]
  | cons x xs ih =>
    cases ys with
    | nil => simp at same
    | cons y ys =>
      obtain ⟨head, tail⟩ := List.cons.inj same
      obtain ⟨length, condition⟩ := Prod.mk.inj head
      rw [place, place, condition, length, ih tail]

theorem length_allValues_eq_of_outlines {xs ys : List Clause} (same : xs.map outline = ys.map outline) :
    (allValues xs).length = (allValues ys).length := by
  have lengths : xs.map (·.values.length) = ys.map (·.values.length) := by
    simpa [Function.comp_def, outline] using congrArg (List.map Prod.fst) same
  rw [allValues, allValues, List.length_flatMap, List.length_flatMap, lengths]

end Sql.Clause

namespace Filters

/-- Filters that differ in the contents of their texts alone. -/
structure SameShape (f g : Filters) : Prop where
  lists : ∀ key : ListKey, (f.list key).length = (g.list key).length
  lifecycle : f.lifecycle.getD .all = g.lifecycle.getD .all
  relation : f.relation.getD .within = g.relation.getD .within
  limit : f.limit = g.limit
  matching : ∀ column, (f.date column).matching = (g.date column).matching
  resolved : ∀ column, (f.date column).matching ∈ [some .exact, some .before, some .since] →
    (f.date column).resolve?.isSome = (g.date column).resolve?.isSome
  point : (point? f.longitude f.latitude).isSome = (point? g.longitude g.latitude).isSome
  nextEntity : f.nextEntity.isSome = g.nextEntity.isSome

theorem isEmpty_eq_of_length_eq {α : Type} {xs ys : List α} (same : xs.length = ys.length) :
    xs.isEmpty = ys.isEmpty := by
  rw [Bool.eq_iff_iff, List.isEmpty_iff_length_eq_zero, List.isEmpty_iff_length_eq_zero, same]

/-! ### The outlines of each group -/

theorem outline_oneOf (column : Column) {xs ys : List String} (same : xs.length = ys.length) :
    (oneOf column xs).outline = (oneOf column ys).outline := by
  simp only [Clause.outline, oneOf, same]

theorem outline_oneOfCuries {xs ys : List String} (same : xs.length = ys.length) :
    (oneOfCuries xs).outline = (oneOfCuries ys).outline := by
  have conditions : (oneOfCuries xs).condition = (oneOfCuries ys).condition := by
    simp only [oneOfCuries, same]
  rw [Clause.outline, Clause.outline, length_oneOfCuries, length_oneOfCuries, same, conditions]

theorem outline_shapeClause (relation : Relation) {xs ys : List (Source × String)}
    (same : xs.map (·.1) = ys.map (·.1)) : (shapeClause relation xs).outline = (shapeClause relation ys).outline := by
  have lengths : xs.length = ys.length := by simpa using congrArg List.length same
  simp only [Clause.outline, shapeClause, List.length_map, lengths, same]

variable {f g : Filters}

theorem SameShape.membership (shape : SameShape f g) (column : Column) :
    (f.membership column).length = (g.membership column).length := by
  cases column with
  | typology => exact shape.lists .typology
  | dataset => exact shape.lists .dataset
  | entity => exact shape.lists .entity
  | curiePrefix => exact shape.lists .curiePrefix
  | reference => exact shape.lists .reference

theorem outlines_membership (shape : SameShape f g) :
    f.membershipClauses.map Clause.outline = g.membershipClauses.map Clause.outline := by
  have columns : (fun column => !(f.membership column).isEmpty) = fun column => !(g.membership column).isEmpty :=
    funext fun column => by rw [isEmpty_eq_of_length_eq (shape.membership column)]
  rw [membershipClauses, membershipClauses, columns, List.map_map, List.map_map]
  exact List.map_congr_left fun column _ => outline_oneOf column (shape.membership column)

theorem outlines_curies (shape : SameShape f g) :
    f.curieClauses.map Clause.outline = g.curieClauses.map Clause.outline := by
  have same : f.curie.length = g.curie.length := shape.lists .curie
  rw [curieClauses, curieClauses, isEmpty_eq_of_length_eq same]
  split
  · rfl
  · rw [List.map_singleton, List.map_singleton, outline_oneOfCuries same]

theorem outlines_lifecycle (shape : SameShape f g) :
    f.lifecycleClauses.map Clause.outline = g.lifecycleClauses.map Clause.outline := by
  rw [lifecycleClauses, lifecycleClauses, shape.lifecycle]

theorem outline_dateClause (column : DateColumn) {d e : DateFilter} (matching : d.matching = e.matching)
    (resolved : d.matching ∈ [some .exact, some .before, some .since] → d.resolve?.isSome = e.resolve?.isSome) :
    (dateClause? column d).map Clause.outline = (dateClause? column e).map Clause.outline := by
  rw [dateClause?, dateClause?, ← matching]
  cases chosen : d.matching with
  | none => rfl
  | some choice =>
    cases choice with
    | empty => rfl
    | exact | before | since =>
      -- only whether the date resolves decides whether there is a clause
      have both := resolved (by simp [chosen])
      cases left : d.resolve? with
      | none | some date =>
        cases right : e.resolve? with
        | none | some other =>
          first
            | rfl
            | simp [left, right] at both

theorem outlines_dates (shape : SameShape f g) :
    f.dateClauses.map Clause.outline = g.dateClauses.map Clause.outline := by
  rw [dateClauses, dateClauses, List.map_filterMap, List.map_filterMap]
  congr 1
  funext column
  exact outline_dateClause column (shape.matching column) (shape.resolved column)

theorem sources_candidates (f : Filters) : f.candidates.map (·.1) =
    List.replicate (point? f.longitude f.latitude).toList.length .wellKnownText ++
      List.replicate f.geometry.length .wellKnownText ++ List.replicate f.geometryEntity.length .entity ++
      List.replicate f.geometryReference.length .reference := by
  simp only [candidates, List.map_append, List.map_map, Function.comp_def, List.map_const']

theorem SameShape.sources (shape : SameShape f g) : f.candidates.map (·.1) = g.candidates.map (·.1) := by
  have points : (point? f.longitude f.latitude).toList.length = (point? g.longitude g.latitude).toList.length := by
    rw [Option.length_toList, Option.length_toList, shape.point]
  have texts : f.geometry.length = g.geometry.length := shape.lists .geometry
  have entities : f.geometryEntity.length = g.geometryEntity.length := shape.lists .geometryEntity
  have references : f.geometryReference.length = g.geometryReference.length := shape.lists .geometryReference
  rw [sources_candidates, sources_candidates, points, texts, entities, references]

theorem outlines_shapes (shape : SameShape f g) :
    f.shapeClauses.map Clause.outline = g.shapeClauses.map Clause.outline := by
  have lengths : f.candidates.length = g.candidates.length := by simpa using congrArg List.length shape.sources
  rw [shapeClauses, shapeClauses, shape.relation, isEmpty_eq_of_length_eq lengths]
  split
  · rfl
  · rw [List.map_singleton, List.map_singleton, outline_shapeClause _ shape.sources]

theorem outlines_cursor (shape : SameShape f g) :
    f.cursorClauses.map Clause.outline = g.cursorClauses.map Clause.outline := by
  have both := shape.nextEntity
  rw [cursorClauses, cursorClauses]
  cases left : f.nextEntity with
  | none | some cursor =>
    cases right : g.nextEntity with
    | none | some other =>
      first
        | rfl
        | simp [left, right] at both

theorem Group.outlines (shape : SameShape f g) (group : Group) :
    (group.clauses f).map Clause.outline = (group.clauses g).map Clause.outline := by
  cases group with
  | membership => exact outlines_membership shape
  | curies => exact outlines_curies shape
  | lifecycle => exact outlines_lifecycle shape
  | dates => exact outlines_dates shape
  | shapes => exact outlines_shapes shape
  | cursor => exact outlines_cursor shape

theorem outlines_queryClauses (shape : SameShape f g) (kind : QueryKind) :
    (f.queryClauses kind).map Clause.outline = (g.queryClauses kind).map Clause.outline := by
  rw [← Group.flatMap_clauses, ← Group.flatMap_clauses, List.map_flatMap, List.map_flatMap]
  congr 1
  exact funext (Group.outlines shape)

/-- Filters of one shape have one statement, and equally many values. -/
theorem query_sql_eq_of_sameShape (shape : SameShape f g) (kind : QueryKind) :
    (f.query kind).sql = (g.query kind).sql ∧ (f.query kind).values.length = (g.query kind).values.length := by
  have outlines := outlines_queryClauses shape kind
  refine ⟨?_, ?_⟩
  · have conditions : conditionText (f.queryClauses kind) = conditionText (g.queryClauses kind) := by
      rw [conditionText, conditionText, Clause.place_eq_of_outlines outlines]
    simp only [query, conditions, shape.limit]
  · change (Clause.allValues _).length = (Clause.allValues _).length
    exact Clause.length_allValues_eq_of_outlines outlines

def plainSearch : Filters where
  dataset := ["tree"]
  curie := ["wikidata:Q42"]
  startDate := { date := some "2020-01-31", matching := some .before }
  longitude := some "-0.1"
  latitude := some "51.5"
  nextEntity := some "7"

def hostileSearch : Filters where
  dataset := ["' OR 1=1 --"]
  curie := [":p1"]
  startDate := { year := some "1999", matching := some .before }
  longitude := some " 2 "
  latitude := some "3"
  nextEntity := some "0; DROP TABLE entity"

theorem plainSearch_sameShape_hostileSearch : SameShape plainSearch hostileSearch where
  lists key := by cases key <;> rfl
  lifecycle := rfl
  relation := rfl
  limit := rfl
  matching column := by cases column <;> rfl
  resolved column := by cases column <;> decide
  point := by decide
  nextEntity := rfl

theorem hostileSearch_sql :
    SameShape plainSearch hostileSearch ∧ (plainSearch.query .rows).sql = (hostileSearch.query .rows).sql ∧
      (plainSearch.query .rows).values.length = (hostileSearch.query .rows).values.length :=
  ⟨plainSearch_sameShape_hostileSearch, query_sql_eq_of_sameShape plainSearch_sameShape_hostileSearch .rows⟩

end Filters

end Gazetteer

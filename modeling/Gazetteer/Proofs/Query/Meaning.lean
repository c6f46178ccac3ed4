import Mathlib.Data.List.Forall2
import Gazetteer.Proofs.Query.Binding
import Gazetteer.Proofs.Query.Restriction

/-!
The condition of a statement means what its filters ask for.  Read by the precedence of SQL, with the values
of its placeholders, it has the truth value of the restrictions, whatever the truth of single comparisons.
-/

namespace Gazetteer

open Gazetteer.Filter Sql

/-! ### The truth of clauses -/

namespace Sql.Clause

def Means (truth : List Word → Truth) (c : Clause) (value : Truth) : Prop :=
  ∀ before after : List String,
    (c.condition before.length).eval (Test.holds truth (before ++ c.values ++ after)) = value

variable {truth : List Word → Truth}

theorem eval_place {clauses : List Clause} {values : List Truth} (means : List.Forall₂ (Means truth) clauses values)
    (before after : List String) :
    (place before.length clauses).map (Condition.eval (Test.holds truth (before ++ allValues clauses ++ after))) =
      values := by
  induction means generalizing before with
  | nil => rfl
  | @cons c value clauses values head _ ih =>
    -- the values of the clauses behind this one stand after it, those of this one before them
    have here := head before (allValues clauses ++ after)
    have later := ih (before ++ c.values)
    have all : allValues (c :: clauses) = c.values ++ allValues clauses := rfl
    rw [place, List.map_cons, all]
    simp only [List.append_assoc, List.length_append] at here later ⊢
    rw [here, later]

theorem getElem?_window {values : List String} {index : Nat} {text : String} (found : values[index]? = some text)
    (before after : List String) : (before ++ values ++ after)[before.length + index]? = some text := by
  have small : index < values.length := (List.getElem?_eq_some_iff.mp found).1
  rw [List.append_assoc, List.getElem?_append_right (Nat.le_add_right _ _), Nat.add_sub_cancel_left,
    List.getElem?_append_left small, found]

end Sql.Clause

namespace Filters

variable {truth : List Word → Truth}

theorem means_oneIfAny {α : Type} {members : List α} {c : Clause} {value : α → Truth}
    (means : c.Means truth (Truth.any (members.map value))) :
    List.Forall₂ (Clause.Means truth) (if members.isEmpty then [] else [c]) (oneIfAny (members.map value)) := by
  rw [oneIfAny, List.isEmpty_map]
  split
  · exact .nil
  · exact .cons means .nil

theorem means_oneOf (column : Column) (values : List String) :
    (oneOf column values).Means truth
      (Truth.any (values.map fun text => compared truth (Test.equals column 0).sql [text])) := by
  intro before after
  rw [oneOf, Condition.eval, Condition.fold_any, List.map_map]
  congr 1
  refine List.ext_getElem (by simp) fun index _ small => ?_
  have inside : index < values.length := by simpa using small
  have found := Clause.getElem?_window (List.getElem?_eq_getElem inside) before after
  simpa using Test.holds_equals truth column found

theorem getElem?_flatMap_pair {α : Type} (xs : List α) (first second : α → String) (index : Nat) :
    (xs.flatMap fun x => [first x, second x])[2 * index]? = xs[index]?.map first ∧
      (xs.flatMap fun x => [first x, second x])[2 * index + 1]? = xs[index]?.map second := by
  induction xs generalizing index with
  | nil => simp
  | cons x rest ih =>
    cases index with
    | zero => simp
    | succ index => simpa [Nat.mul_succ] using ih index

theorem curieHolds_eq (curie : String) : curieHolds truth curie =
    (compared truth (Test.equals .curiePrefix 0).sql [(splitCurie curie).1]).and
      (compared truth (Test.equals .reference 0).sql [(splitCurie curie).2]) := by
  have first_text : (Test.equals .curiePrefix 0).sql = "entity.prefix = :p0" := rfl
  have second_text : (Test.equals .reference 0).sql = "entity.reference = :p0" := rfl
  rw [first_text, second_text]
  simp only [curieHolds, splitCurie, Text.splitOn_first, Text.splitOn_second, Option.getD_some]

theorem means_oneOfCuries (curies : List String) :
    (oneOfCuries curies).Means truth (Truth.any (curies.map (curieHolds truth))) := by
  intro before after
  rw [oneOfCuries, Condition.eval, Condition.fold_any, List.map_map]
  congr 1
  -- curie number `index` has the values `2 * index` and `2 * index + 1` of the clause
  refine List.ext_getElem (by simp) fun index _ small => ?_
  have inside : index < curies.length := by simpa using small
  obtain ⟨first, second⟩ :=
    getElem?_flatMap_pair curies (fun curie => (splitCurie curie).1) (fun curie => (splitCurie curie).2) index
  rw [List.getElem?_eq_getElem inside] at first second
  have prefixed := Test.holds_equals truth .curiePrefix (Clause.getElem?_window first before after)
  have referenced := Test.holds_equals truth .reference (Clause.getElem?_window second before after)
  simp only [List.getElem_map, List.getElem_range, Function.comp_apply, Condition.fold_all, Condition.fold_test,
    List.map_cons, List.map_nil, Nat.add_assoc, prefixed, referenced, curieHolds_eq]
  simp [Truth.all]

theorem means_lifecycle (f : Filters) :
    List.Forall₂ (Clause.Means truth) f.lifecycleClauses (f.lifecycleRestrictions truth) := by
  have current : Clause.Means truth ⟨[], fun _ => .test .current⟩ (compared truth "entity.end_date is ''" []) :=
    fun _ _ => Test.holds_constant trivial rfl
  have historical :
      Clause.Means truth ⟨[], fun _ => .test .historical⟩ (compared truth "entity.end_date is not ''" []) :=
    fun _ _ => Test.holds_constant trivial rfl
  rw [lifecycleClauses, lifecycleRestrictions]
  cases f.lifecycle with
  | none => exact .nil
  | some choice =>
    cases choice with
    | all => exact .nil
    | current => exact .cons current .nil
    | historical => exact .cons historical .nil

/-! ### Dates -/

theorem means_compares {column : DateColumn} {operator : String} (known : operator ∈ ["=", "<", ">="])
    (date : String) : Clause.Means truth
      ⟨[date], fun first => .all [.test (.dateRecorded column), .test (.dateCompares column operator first)]⟩
      ((compared truth (Test.dateRecorded column).sql []).and
        (compared truth (Test.dateCompares column operator 0).sql [date])) := by
  intro before after
  have found := Clause.getElem?_window (show [date][0]? = some date from rfl) before after
  have sound : (Test.dateCompares column operator 0).Sound := known
  have recorded : (Test.dateRecorded column).holds truth (before ++ [date] ++ after) =
      compared truth (Test.dateRecorded column).sql [] := Test.holds_constant trivial rfl
  have compares : (Test.dateCompares column operator before.length).holds truth (before ++ [date] ++ after) =
      compared truth (Test.dateCompares column operator 0).sql [date] :=
    Test.holds_value sound found rfl rfl rfl rfl
  simp only [Condition.eval, Condition.fold_all, Condition.fold_test, List.map_cons, List.map_nil, recorded, compares]
  simp [Truth.all]

theorem sql_dateCompares (column : DateColumn) {operator : String} (known : operator ∈ ["=", "<", ">="]) :
    (Test.dateCompares column operator 0).sql = "entity." ++ column.name ++ (" " ++ operator ++ " :p0") := by
  have choice : operator = "=" ∨ operator = "<" ∨ operator = ">=" := by simpa using known
  rcases choice with rfl | rfl | rfl <;> cases column <;> rfl

theorem means_dateClause (column : DateColumn) (d : DateFilter) :
    List.Forall₂ (Clause.Means truth) (dateClause? column d).toList
      (dateRestrictions truth ("entity." ++ column.name) d) := by
  have compares : ∀ operator ∈ ["=", "<", ">="], List.Forall₂ (Clause.Means truth)
      (d.resolve?.map fun date => Clause.mk [date.iso] fun first =>
        .all [.test (.dateRecorded column), .test (.dateCompares column operator first)]).toList
      (dateRestrictions.compares truth ("entity." ++ column.name) d (" " ++ operator ++ " :p0")) := by
    intro operator known
    rw [dateRestrictions.compares, ← sql_dateCompares column known]
    cases d.resolve? with
    | none => exact .nil
    | some date => exact .cons (means_compares known date.iso) .nil
  rw [dateClause?, dateRestrictions]
  cases d.matching with
  | none => exact .nil
  | some choice =>
    cases choice with
    | empty => exact .cons (fun _ _ => Test.holds_constant trivial rfl) .nil
    | exact => exact compares "=" (by decide)
    | before => exact compares "<" (by decide)
    | since => exact compares ">=" (by decide)

theorem means_dates (f : Filters) : List.Forall₂ (Clause.Means truth) f.dateClauses
    (dateRestrictions truth "entity.start_date" f.startDate ++ dateRestrictions truth "entity.end_date" f.endDate
      ++ dateRestrictions truth "entity.entry_date" f.entryDate) := by
  have columns : f.dateClauses = (dateClause? .start f.startDate).toList ++ (dateClause? .finish f.endDate).toList ++
      (dateClause? .entry f.entryDate).toList := by
    simp [dateClauses, List.filterMap_eq_flatMap_toList, DateColumn.all, date]
  rw [columns]
  have start : "entity.start_date" = "entity." ++ DateColumn.start.name := rfl
  have finish : "entity.end_date" = "entity." ++ DateColumn.finish.name := rfl
  have entry : "entity.entry_date" = "entity." ++ DateColumn.entry.name := rfl
  rw [start, finish, entry]
  exact List.rel_append (List.rel_append (means_dateClause _ _) (means_dateClause _ _)) (means_dateClause _ _)

/-! ### Shapes -/

theorem geometries_eq (f : Filters) :
    f.geometries = f.candidates.map fun candidate => (candidate.1.sql 0, candidate.2) := by
  have text : Source.wellKnownText.sql 0 = "GeomFromText(:p0)" := rfl
  have entity : Source.entity.sql 0 = "(SELECT geometry_geom FROM geometry WHERE entity = :p0)" := rfl
  have reference : Source.reference.sql 0 = "(SELECT geometry_geom FROM geometry WHERE entity = " ++
      "(SELECT entity FROM entity WHERE reference = :p0 GROUP BY entity))" := rfl
  simp only [geometries, candidates, List.map_append, List.map_map, Function.comp_def, text, entity, reference]

theorem sql_related (relation : Relation) (source : Source) :
    (Test.related relation .polygon source 0).sql =
        spatialFunction relation ++ "(geometry.geometry_geom, " ++ source.sql 0 ++ ")" ∧
      (Test.related relation .point source 0).sql =
        spatialFunction relation ++ "(geometry.point_geom, " ++ source.sql 0 ++ ")" := by
  have function : spatialFunction relation = relation.sqlFunction := by cases relation <;> rfl
  have polygon : ("(geometry.geometry_geom, " : String) = "(" ++ Shape.polygon.column ++ ", " := rfl
  have point : ("(geometry.point_geom, " : String) = "(" ++ Shape.point.column ++ ", " := rfl
  rw [function, polygon, point, ← String.append_assoc, ← String.append_assoc, ← String.append_assoc, ← String.append_assoc]
  exact ⟨rfl, rfl⟩

theorem eval_relatesTo (relation : Relation) (source : Source) {values : List String} {index : Nat} {text : String}
    (found : values[index]? = some text) :
    (relatesTo relation source index).eval (Test.holds truth values) =
      relates truth relation (source.sql 0, text) := by
  have polygon_sound : (Test.related relation .polygon source 0).Sound := trivial
  have point_sound : (Test.related relation .point source 0).Sound := trivial
  have guard : Test.hasPolygon.holds truth values = compared truth "geometry.geometry_geom IS NOT NULL" [] :=
    Test.holds_constant trivial rfl
  have polygon : (Test.related relation .polygon source index).holds truth values =
      compared truth (Test.related relation .polygon source 0).sql [text] :=
    Test.holds_value polygon_sound found rfl rfl rfl rfl
  have point : (Test.related relation .point source index).holds truth values =
      compared truth (Test.related relation .point source 0).sql [text] :=
    Test.holds_value point_sound found rfl rfl rfl rfl
  rw [relates, ← (sql_related relation source).1, ← (sql_related relation source).2, ← guard, ← polygon, ← point]
  simp [relatesTo, Condition.eval, Truth.any, Truth.all]

theorem means_shapeClause (relation : Relation) (candidates : List (Source × String)) :
    (shapeClause relation candidates).Means truth
      ((compared truth "entity.entity = geometry.entity" []).and
        (Truth.any (candidates.map fun candidate => relates truth relation (candidate.1.sql 0, candidate.2)))) := by
  intro before after
  have joined : Test.joined.holds truth (before ++ (shapeClause relation candidates).values ++ after) =
      compared truth "entity.entity = geometry.entity" [] := Test.holds_constant trivial rfl
  have related : ((candidates.map (·.1)).mapIdx fun i source => relatesTo relation source (before.length + i)).map
        (Condition.eval (Test.holds truth (before ++ (shapeClause relation candidates).values ++ after))) =
      candidates.map fun candidate => relates truth relation (candidate.1.sql 0, candidate.2) := by
    refine List.ext_getElem (by simp) fun index _ small => ?_
    have inside : index < candidates.length := by simpa using small
    have bound : (shapeClause relation candidates).values[index]? = some candidates[index].2 := by
      simp [shapeClause, List.getElem?_eq_getElem inside]
    simpa using eval_relatesTo relation candidates[index].1 (Clause.getElem?_window bound before after)
  have sides : (shapeClause relation candidates).condition before.length = .all [.test .joined,
      .any ((candidates.map (·.1)).mapIdx fun i source => relatesTo relation source (before.length + i))] := rfl
  rw [sides, Condition.eval, Condition.fold_all, List.map_cons, List.map_cons, Condition.fold_any, Condition.fold_test,
    joined]
  change Truth.all [_, Truth.any (List.map (Condition.eval _) _)] = _
  rw [related]
  simp [Truth.all]

theorem means_shapes (f : Filters) :
    List.Forall₂ (Clause.Means truth) f.shapeClauses (f.shapeRestrictions truth) := by
  rw [shapeClauses, shapeRestrictions, geometries_eq, List.isEmpty_map, List.map_map]
  split
  · exact .nil
  · exact .cons (means_shapeClause _ _) .nil

/-! ### All clauses -/

theorem means_membership (f : Filters) :
    List.Forall₂ (Clause.Means truth) f.membershipClauses (f.membershipRestrictions truth) := by
  have columns : f.membershipClauses = Column.all.flatMap fun column =>
      if (f.membership column).isEmpty then [] else [oneOf column (f.membership column)] := by
    rw [membershipClauses]
    induction Column.all with
    | nil => rfl
    | cons column rest ih =>
      by_cases empty : f.membership column = []
      · simpa [empty] using ih
      · simpa [empty] using ih
  have each : ∀ {column : Column} {text : String}, (Test.equals column 0).sql = text →
      List.Forall₂ (Clause.Means truth)
        (if (f.membership column).isEmpty then [] else [oneOf column (f.membership column)])
        (oneIfAny ((f.membership column).map fun value => compared truth text [value])) := by
    rintro column _ rfl
    exact means_oneIfAny (means_oneOf column _)
  rw [columns]
  simp only [Column.all, List.flatMap_cons, List.flatMap_nil, List.append_nil, ← List.append_assoc]
  exact List.rel_append (List.rel_append (List.rel_append (List.rel_append (each rfl)
    (each rfl)) (each rfl)) (each rfl)) (each rfl)

theorem means_cursor (f : Filters) :
    List.Forall₂ (Clause.Means truth) f.cursorClauses (f.cursorRestrictions truth .rows) := by
  have text : (Test.after 0).sql = "entity.entity > :p0" := rfl
  have sound : (Test.after 0).Sound := trivial
  rw [cursorClauses, cursorRestrictions, ← text]
  cases f.nextEntity with
  | none => exact .nil
  | some cursor =>
    refine .cons (fun before after => ?_) .nil
    have found := Clause.getElem?_window (show [cursor][0]? = some cursor from rfl) before after
    exact Test.holds_value sound found rfl rfl rfl rfl

/-- Each clause of a query is one restriction of its filters. -/
theorem means_queryClauses (f : Filters) (kind : QueryKind) :
    List.Forall₂ (Clause.Means truth) (f.queryClauses kind) (f.restrictions truth kind) := by
  have curies : List.Forall₂ (Clause.Means truth) f.curieClauses (f.curieRestrictions truth) :=
    means_oneIfAny (means_oneOfCuries f.curie)
  have selecting := List.rel_append (List.rel_append (List.rel_append (List.rel_append (means_membership f) curies)
    (means_lifecycle f)) (means_dates f)) (means_shapes f)
  cases kind with
  | count => simpa [queryClauses, clauses, restrictions, cursorRestrictions] using selecting
  | rows =>
    have paged := List.rel_append selecting (means_cursor f)
    simpa [queryClauses, clauses, restrictions] using paged

end Filters

end Gazetteer

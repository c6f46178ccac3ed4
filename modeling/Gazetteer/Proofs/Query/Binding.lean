import Mathlib.Data.List.Basic
import Gazetteer.Proofs.Query.Statement
import Gazetteer.Proofs.Text.Split

/-!
Binding values one group of clauses after another.  Each group binds its values behind those that are bound
already and names these and no others, so that the statement names every value of its query by its place.
-/

namespace Gazetteer

open Gazetteer.Filter Sql

namespace Sql.Clause

/-- Conditions of clauses, each placed where its values are bound, with all values that are bound then. -/
def bindAll : (bound : List String) → List Clause → List Condition × List String
  | bound, [] => ([], bound)
  | bound, c :: rest =>
    let (conditions, values) := bindAll (bound ++ c.values) rest
    (c.condition bound.length :: conditions, values)

theorem bindAll_eq (bound : List String) (clauses : List Clause) :
    bindAll bound clauses = (place bound.length clauses, bound ++ allValues clauses) := by
  induction clauses generalizing bound with
  | nil => simp [bindAll, place, allValues]
  | cons c rest ih => simp [bindAll, place, allValues, ih]

end Sql.Clause

namespace Filters

def build (f : Filters) (group : Group) (bound : List String) : Option String × List String :=
  let (conditions, values) := Clause.bindAll bound (group.clauses f)
  (conjunction? conditions, values)

def buildAll (f : Filters) : (bound : List String) → List Group → List String × List String
  | bound, [] => ([], bound)
  | bound, group :: rest =>
    let (fragment, values) := f.build group bound
    let (fragments, all) := f.buildAll values rest
    (fragment.toList ++ fragments, all)

/-- What a builder does with values that are bound: it leaves them, appends others, and names each of these
so often, in order, and nothing else. -/
structure Appends (times : Nat) (bound appended : List String) (built : Option String × List String) : Prop where
  values : built.2 = bound ++ appended
  skipped : built.1 = none → appended = []
  named : ∀ text, built.1 = some text →
    mentions text.toList = (List.range' bound.length appended.length).flatMap (List.replicate times ·)

end Filters

theorem Sql.mentions_conjunction {cs : List Condition} (sound : ∀ c ∈ cs, c.Sound) :
    mentions (" AND ".intercalate (cs.map Condition.sql)).toList = cs.flatMap Condition.indices := by
  rw [← spell_conjunctionTokens sound, mentions_spell (template_conjunctionTokens sound),
    placeholders_conjunctionTokens sound, map_digitsValue]

namespace Filters

theorem build_eq (f : Filters) (group : Group) (bound : List String) :
    f.build group bound =
      (conjunction? (Clause.place bound.length (group.clauses f)), bound ++ Clause.allValues (group.clauses f)) := by
  rw [build, Clause.bindAll_eq]

theorem build_appends (f : Filters) (group : Group) (bound : List String) :
    Appends group.times bound (Clause.allValues (group.clauses f)) (f.build group bound) := by
  have placed_sound : ∀ c ∈ Clause.place bound.length (group.clauses f), c.Sound :=
    fun _ member => Clause.sound_of_mem_place (fun _ => Group.sound) member
  rw [build_eq]
  refine ⟨rfl, ?_, ?_⟩
  · intro nothing
    cases clauses : group.clauses f with
    | nil => rfl
    | cons c rest => simp [clauses, Clause.place, conjunction?] at nothing
  · intro text built
    have some_condition : Clause.place bound.length (group.clauses f) ≠ [] := by
      intro empty
      simp [empty, conjunction?] at built
    rw [conjunction?_eq some_condition] at built
    obtain rfl := Option.some.inj built
    rw [mentions_conjunction placed_sound, Clause.indices_place fun _ => Group.numbered]

/-! ### Groups in a row -/

def joined (fragments : List String) : String :=
  if fragments.isEmpty then "1=1" else " AND ".intercalate fragments

theorem conditionText_eq (clauses : List Clause) :
    conditionText clauses = joined ((Clause.place 0 clauses).map Condition.sql) := by
  simp only [conditionText, conjunction?, joined, List.isEmpty_map]
  split <;> rfl

structure SameJoined (xs ys : List String) : Prop where
  empty : xs = [] ↔ ys = []
  text : " AND ".intercalate xs = " AND ".intercalate ys

theorem SameJoined.append {xs ys xs' ys' : List String} (left : SameJoined xs ys) (right : SameJoined xs' ys') :
    SameJoined (xs ++ xs') (ys ++ ys') := by
  refine ⟨by rw [List.append_eq_nil_iff, List.append_eq_nil_iff, left.empty, right.empty], ?_⟩
  -- the text between the two sides is there only if neither is empty
  by_cases none_left : xs = []
  · rw [none_left, left.empty.mp none_left]
    exact right.text
  · by_cases none_right : xs' = []
    · rw [none_right, right.empty.mp none_right, List.append_nil, List.append_nil]
      exact left.text
    · rw [String.intercalate_append_of_ne_nil none_left none_right,
        String.intercalate_append_of_ne_nil (mt left.empty.mpr none_left) (mt right.empty.mpr none_right),
        left.text, right.text]

theorem SameJoined.conjunction (cs : List Condition) :
    SameJoined (conjunction? cs).toList (cs.map Condition.sql) := by
  cases cs with
  | nil => exact ⟨Iff.rfl, rfl⟩
  | cons c rest =>
    rw [conjunction?_eq (List.cons_ne_nil c rest)]
    exact ⟨by simp, String.intercalate_singleton⟩

theorem SameJoined.joined {xs ys : List String} (same : SameJoined xs ys) : Filters.joined xs = Filters.joined ys := by
  simp only [Filters.joined, List.isEmpty_iff, same.empty, same.text]

/-- Building the groups one after another gives the conditions of all their clauses, and binds all their values. -/
theorem buildAll_eq (f : Filters) (bound : List String) (groups : List Group) :
    SameJoined (f.buildAll bound groups).1
        ((Clause.place bound.length (groups.flatMap (Group.clauses f))).map Condition.sql) ∧
      (f.buildAll bound groups).2 = bound ++ Clause.allValues (groups.flatMap (Group.clauses f)) := by
  induction groups generalizing bound with
  | nil => exact ⟨⟨Iff.rfl, rfl⟩, (List.append_nil bound).symm⟩
  | cons group rest ih =>
    obtain ⟨texts, values⟩ := ih (bound ++ Clause.allValues (group.clauses f))
    rw [List.length_append] at texts
    simp only [buildAll, build_eq, List.flatMap_cons, Clause.place_append, List.map_append]
    refine ⟨(SameJoined.conjunction _).append texts, ?_⟩
    rw [values, List.append_assoc, Clause.allValues, Clause.allValues, Clause.allValues, List.flatMap_append]

theorem query_built (f : Filters) (kind : QueryKind) :
    (f.query kind).sql = head kind ++ joined (f.buildAll [] (Group.ofKind kind)).1 ++ kind.page f.limit ∧
      (f.query kind).values = (f.buildAll [] (Group.ofKind kind)).2 := by
  obtain ⟨texts, values⟩ := buildAll_eq f [] (Group.ofKind kind)
  rw [Group.flatMap_clauses] at texts values
  refine ⟨?_, values.symm⟩
  rw [texts.joined, List.length_nil, ← conditionText_eq]
  rfl

theorem mem_mentions_query (f : Filters) (kind : QueryKind) (index : Nat) :
    index ∈ mentions (f.query kind).sql.toList ↔ index < (f.query kind).values.length := by
  rw [← spell_queryTokens, mentions_spell (template_queryTokens f kind), placeholders_queryTokens,
    map_digitsValue, mem_indices_queryClauses]

/-! ### The values of a query -/

/-- The prefix and the reference of a curie: its first two parts, the second empty if there is none. -/
def curieParts (curie : String) : List String :=
  let parts := curie.toList.splitOn ':'
  [.ofList (parts[0]?.getD []), .ofList (parts[1]?.getD [])]

end Filters

def Filter.DateFilter.operand? (d : DateFilter) : Option String :=
  match d.matching with
  | none | some .empty => none
  | some .exact | some .before | some .since => d.resolve?.map Date.iso

namespace Filters

def boundValues (f : Filters) (kind : QueryKind) : List String :=
  f.typology ++ f.dataset ++ f.entity ++ f.curiePrefix ++ f.reference
    ++ f.curie.flatMap curieParts
    ++ DateColumn.all.filterMap (fun column => (f.date column).operand?)
    ++ (point? f.longitude f.latitude).toList ++ f.geometry ++ f.geometryEntity ++ f.geometryReference
    ++ match kind with
      | .rows => f.nextEntity.toList
      | .count => []

theorem curieParts_eq (curie : String) : curieParts curie = [(splitCurie curie).1, (splitCurie curie).2] := by
  simp only [curieParts, splitCurie, Text.splitOn_first, Text.splitOn_second, Option.getD_some]

theorem allValues_membershipClauses (f : Filters) :
    Clause.allValues f.membershipClauses = f.typology ++ f.dataset ++ f.entity ++ f.curiePrefix ++ f.reference := by
  have each : ∀ columns : List Column,
      Clause.allValues ((columns.filter fun column => !(f.membership column).isEmpty).map fun column =>
        oneOf column (f.membership column)) = columns.flatMap f.membership := by
    intro columns
    induction columns with
    | nil => rfl
    | cons column rest ih =>
      by_cases empty : f.membership column = []
      · simpa [empty] using ih
      · simpa [empty, Clause.allValues, oneOf] using ih
  rw [membershipClauses, each]
  simp [Column.all, membership]

theorem allValues_curieClauses (f : Filters) : Clause.allValues f.curieClauses = f.curie.flatMap curieParts := by
  have parts : curieParts = fun curie => [(splitCurie curie).1, (splitCurie curie).2] := funext curieParts_eq
  rw [curieClauses, parts]
  split
  · rename_i empty
    rw [List.isEmpty_iff.mp empty]
    rfl
  · simp [Clause.allValues, oneOfCuries]

theorem values_dateClause (column : DateColumn) (d : DateFilter) :
    (dateClause? column d).toList.flatMap (·.values) = d.operand?.toList := by
  cases matching : d.matching with
  | none => simp [dateClause?, DateFilter.operand?, matching]
  | some choice =>
    cases choice with
    | empty => simp [dateClause?, DateFilter.operand?, matching, DateMatch.operator?]
    | exact | before | since =>
      cases resolved : d.resolve? with
      | none | some date => simp [dateClause?, DateFilter.operand?, matching, DateMatch.operator?, resolved]

theorem allValues_dateClauses (f : Filters) :
    Clause.allValues f.dateClauses = DateColumn.all.filterMap fun column => (f.date column).operand? := by
  rw [Clause.allValues, dateClauses, List.filterMap_eq_flatMap_toList, List.filterMap_eq_flatMap_toList,
    List.flatMap_assoc]
  simp only [values_dateClause]

theorem allValues_shapeClauses (f : Filters) : Clause.allValues f.shapeClauses =
    (point? f.longitude f.latitude).toList ++ f.geometry ++ f.geometryEntity ++ f.geometryReference := by
  have values : Clause.allValues f.shapeClauses = f.candidates.map (·.2) := by
    rw [shapeClauses]
    split
    · rename_i empty
      rw [List.isEmpty_iff.mp empty]
      rfl
    · simp [Clause.allValues, shapeClause]
  simp [values, candidates, Function.comp_def]

theorem allValues_lifecycleClauses (f : Filters) : Clause.allValues f.lifecycleClauses = [] := by
  rw [lifecycleClauses]
  split <;> rfl

theorem allValues_cursorClauses (f : Filters) : Clause.allValues f.cursorClauses = f.nextEntity.toList := by
  cases next : f.nextEntity with
  | none | some cursor => simp [cursorClauses, Clause.allValues, next]

theorem query_values (f : Filters) (kind : QueryKind) : (f.query kind).values = f.boundValues kind := by
  have groups : Clause.allValues f.clauses = Clause.allValues f.membershipClauses ++ Clause.allValues f.curieClauses
      ++ Clause.allValues f.lifecycleClauses ++ Clause.allValues f.dateClauses ++ Clause.allValues f.shapeClauses := by
    simp only [clauses, Clause.allValues, List.flatMap_append]
  rw [allValues_membershipClauses, allValues_curieClauses, allValues_lifecycleClauses, allValues_dateClauses,
    allValues_shapeClauses, List.append_nil] at groups
  cases kind with
  | count =>
    change Clause.allValues f.clauses = _
    rw [groups, boundValues, List.append_nil]
    simp only [List.append_assoc]
  | rows =>
    change Clause.allValues (f.clauses ++ f.cursorClauses) = _
    have cursor := allValues_cursorClauses f
    rw [Clause.allValues, List.flatMap_append]
    change Clause.allValues f.clauses ++ Clause.allValues f.cursorClauses = _
    rw [groups, cursor, boundValues]
    simp only [List.append_assoc]

end Filters

/-- Placeholders and values match one to one: each builder names what it appends, and a query, which is what
its builders give in a row, names all its values and nothing else. -/
theorem placeholders_match_values :
    (∀ (f : Filters) (group : Filters.Group) (bound : List String),
      ∃ appended, Filters.Appends group.times bound appended (f.build group bound)) ∧
    ∀ (f : Filters) (kind : QueryKind),
      ((f.query kind).sql =
          Filters.head kind ++ Filters.joined (f.buildAll [] (Filters.Group.ofKind kind)).1 ++ kind.page f.limit ∧
        (f.query kind).values = (f.buildAll [] (Filters.Group.ofKind kind)).2) ∧
      (∀ index, index ∈ mentions (f.query kind).sql.toList ↔ index < (f.query kind).values.length) ∧
      (f.query kind).values = f.boundValues kind :=
  ⟨fun f group bound => ⟨_, f.build_appends group bound⟩,
    fun f kind => ⟨f.query_built kind, f.mem_mentions_query kind, f.query_values kind⟩⟩

end Gazetteer

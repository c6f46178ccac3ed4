import Gazetteer.Query
import Gazetteer.Proofs.Sql.Numbering

/-!
The clauses of filters, one spec for each builder: its conditions can be read back, and they name the
clause's values in order, once each, or twice where a candidate is tested against both shapes.
-/

namespace Gazetteer

open Gazetteer.Filter Sql

theorem Sql.Condition.Sound.pair {a b : Condition} (ha : a.Sound) (hb : b.Sound) : ∀ c ∈ [a, b], c.Sound := by
  simpa using And.intro ha hb

namespace Sql.Clause

def Sound (c : Clause) : Prop := ∀ first, (c.condition first).Sound

theorem mem_place {clauses : List Clause} {first : Nat} {condition : Condition}
    (member : condition ∈ place first clauses) : ∃ c ∈ clauses, ∃ index, condition = c.condition index := by
  induction clauses generalizing first with
  | nil => simp [place] at member
  | cons c rest ih =>
    rcases List.mem_cons.mp member with rfl | later
    · exact ⟨c, List.mem_cons_self, first, rfl⟩
    · obtain ⟨d, present, index, same⟩ := ih later
      exact ⟨d, List.mem_cons_of_mem _ present, index, same⟩

theorem sound_of_mem_place {clauses : List Clause} (sound : ∀ c ∈ clauses, c.Sound) {first : Nat}
    {condition : Condition} (member : condition ∈ place first clauses) : condition.Sound := by
  obtain ⟨c, present, index, rfl⟩ := mem_place member
  exact sound c present index

theorem flatMap_once (indices : List Nat) : indices.flatMap (List.replicate 1 ·) = indices := by
  simp

end Sql.Clause

namespace Filters

/-! ### Membership -/

theorem mem_membershipClauses {f : Filters} {c : Clause} (member : c ∈ f.membershipClauses) :
    ∃ column, f.membership column ≠ [] ∧ c = oneOf column (f.membership column) := by
  obtain ⟨column, kept, rfl⟩ := List.mem_map.mp member
  refine ⟨column, ?_, rfl⟩
  simpa using (List.mem_filter.mp kept).2

theorem sound_oneOf {column : Column} {values : List String} (some_value : values ≠ []) :
    (oneOf column values).Sound := by
  intro first
  refine .any ?_ ?_
  · simpa using some_value
  · intro c member
    obtain ⟨i, -, rfl⟩ := List.mem_map.mp member
    exact .test trivial

theorem numbered_oneOf (column : Column) (values : List String) : (oneOf column values).Numbered 1 := by
  intro first
  rw [Clause.flatMap_once, List.range'_eq_map_range, List.map_eq_flatMap]
  simp [oneOf, Condition.indices, Test.layout, Operand.index?, Function.comp_def, ← List.flatMap_def]

/-! ### Curies -/

theorem sound_oneOfCuries {curies : List String} (some_curie : curies ≠ []) : (oneOfCuries curies).Sound := by
  intro first
  refine .any ?_ ?_
  · simpa using some_curie
  · intro c member
    obtain ⟨i, -, rfl⟩ := List.mem_map.mp member
    exact .all (by simp) (.pair (.test trivial) (.test trivial))

theorem length_oneOfCuries (curies : List String) : (oneOfCuries curies).values.length = 2 * curies.length := by
  simp only [oneOfCuries, List.length_flatMap, List.length_cons, List.length_nil, List.map_const',
    List.sum_replicate_nat, Nat.mul_comm]

theorem flatMap_pairs (first n : Nat) :
    (List.range n).flatMap (fun i => [first + 2 * i, first + 2 * i + 1]) = List.range' first (2 * n) := by
  induction n with
  | zero => rfl
  | succ n ih =>
    rw [List.range_succ, List.flatMap_append, ih, Nat.mul_succ, ← List.range'_append_1]
    rfl

theorem numbered_oneOfCuries (curies : List String) : (oneOfCuries curies).Numbered 1 := by
  intro first
  rw [Clause.flatMap_once, length_oneOfCuries, ← flatMap_pairs]
  simp [oneOfCuries, Condition.indices, Test.layout, Operand.index?, Function.comp_def, ← List.flatMap_def]

theorem mem_curieClauses {f : Filters} {c : Clause} (member : c ∈ f.curieClauses) :
    f.curie ≠ [] ∧ c = oneOfCuries f.curie := by
  unfold curieClauses at member
  split at member
  · simp at member
  · rename_i present
    exact ⟨by simpa using present, List.mem_singleton.mp member⟩

/-! ### Lifecycle and dates -/

theorem mem_lifecycleClauses {f : Filters} {c : Clause} (member : c ∈ f.lifecycleClauses) :
    c = ⟨[], fun _ => .test .current⟩ ∨ c = ⟨[], fun _ => .test .historical⟩ := by
  unfold lifecycleClauses at member
  split at member
  · simp at member
  · exact .inl (List.mem_singleton.mp member)
  · exact .inr (List.mem_singleton.mp member)

theorem mem_dateClauses {f : Filters} {c : Clause} (member : c ∈ f.dateClauses) :
    ∃ column, dateClause? column (f.date column) = some c := by
  obtain ⟨column, -, same⟩ := List.mem_filterMap.mp member
  exact ⟨column, same⟩

/-- A date clause looks for empty dates, or compares recorded ones with the date that the filter means. -/
theorem dateClause?_cases {column : DateColumn} {d : DateFilter} {c : Clause}
    (same : dateClause? column d = some c) :
    (d.matching = some .empty ∧ c = ⟨[], fun _ => .test (.dateEmpty column)⟩) ∨
    ∃ matching operator date, d.matching = some matching ∧ matching.operator? = some operator ∧
      d.resolve? = some date ∧ c = ⟨[date.iso], fun first =>
        .all [.test (.dateRecorded column), .test (.dateCompares column operator first)]⟩ := by
  obtain ⟨matching, chosen, same⟩ := Option.bind_eq_some_iff.mp same
  cases compares : matching.operator? with
  | none =>
    rw [compares] at same
    cases matching with
    | empty => exact .inl ⟨chosen, (Option.some.inj same).symm⟩
    | _ => simp [DateMatch.operator?] at compares
  | some operator =>
    rw [compares] at same
    obtain ⟨date, resolved, rfl⟩ := Option.map_eq_some_iff.mp same
    exact .inr ⟨matching, operator, date, chosen, compares, resolved, rfl⟩

theorem operator?_mem {matching : DateMatch} {operator : String} (compares : matching.operator? = some operator) :
    operator ∈ ["=", "<", ">="] := by
  cases matching <;> simp_all [DateMatch.operator?]

/-! ### Shapes -/

theorem sound_relatesTo (relation : Relation) (source : Source) (index : Nat) :
    (relatesTo relation source index).Sound := by
  exact .any (by simp) (.pair (.all (by simp) (.pair (.test trivial) (.test trivial))) (.test trivial))

theorem sound_shapeClause {relation : Relation} {candidates : List (Source × String)}
    (some_candidate : candidates ≠ []) : (shapeClause relation candidates).Sound := by
  intro first
  refine .all (by simp) (.pair (.test trivial) ?_)
  refine .any (by simpa [List.mapIdx_eq_nil_iff] using some_candidate) ?_
  intro c member
  obtain ⟨i, small, rfl⟩ := List.mem_mapIdx.mp member
  exact sound_relatesTo _ _ _

theorem indices_relatesTo (relation : Relation) (source : Source) (index : Nat) :
    (relatesTo relation source index).indices = List.replicate 2 index := rfl

theorem flatten_mapIdx_relatesTo (relation : Relation) (sources : List Source) (first : Nat) :
    ((sources.mapIdx fun i source => relatesTo relation source (first + i)).map Condition.indices).flatten =
      (List.range' first sources.length).flatMap (List.replicate 2 ·) := by
  induction sources generalizing first with
  | nil => rfl
  | cons source rest ih =>
    have later := ih (first + 1)
    simp only [Nat.add_assoc, Nat.add_comm 1] at later
    rw [List.mapIdx_cons, List.map_cons, List.flatten_cons, later, List.length_cons, List.range'_succ,
      List.flatMap_cons, indices_relatesTo, Nat.add_zero]

theorem numbered_shapeClause (relation : Relation) (candidates : List (Source × String)) :
    (shapeClause relation candidates).Numbered 2 := by
  intro first
  have each := flatten_mapIdx_relatesTo relation (candidates.map (·.1)) first
  rw [List.length_map] at each
  simpa [shapeClause, Condition.indices, Test.layout, Operand.index?] using each

theorem mem_shapeClauses {f : Filters} {c : Clause} (member : c ∈ f.shapeClauses) :
    f.candidates ≠ [] ∧ c = shapeClause (f.relation.getD .within) f.candidates := by
  unfold shapeClauses at member
  split at member
  · simp at member
  · rename_i present
    exact ⟨by simpa using present, List.mem_singleton.mp member⟩

/-! ### Groups -/

theorem mem_cursorClauses {f : Filters} {c : Clause} (member : c ∈ f.cursorClauses) :
    ∃ cursor, f.nextEntity = some cursor ∧ c = ⟨[cursor], fun first => .test (.after first)⟩ := by
  obtain ⟨cursor, present, rfl⟩ := List.mem_map.mp member
  exact ⟨cursor, Option.mem_toList.mp present, rfl⟩

inductive Group where
  | membership
  | curies
  | lifecycle
  | dates
  | shapes
  | cursor
  deriving DecidableEq, Repr

namespace Group

def ofKind : QueryKind → List Group
  | .rows => [.membership, .curies, .lifecycle, .dates, .shapes, .cursor]
  | .count => [.membership, .curies, .lifecycle, .dates, .shapes]

def clauses (f : Filters) : Group → List Clause
  | .membership => f.membershipClauses
  | .curies => f.curieClauses
  | .lifecycle => f.lifecycleClauses
  | .dates => f.dateClauses
  | .shapes => f.shapeClauses
  | .cursor => f.cursorClauses

/-- How often a value is named: a candidate geometry stands against both shapes. -/
def times : Group → Nat
  | .shapes => 2
  | _ => 1

theorem times_ne_zero (group : Group) : group.times ≠ 0 := by
  cases group <;> decide

theorem flatMap_clauses (f : Filters) (kind : QueryKind) : (ofKind kind).flatMap (clauses f) = f.queryClauses kind := by
  cases kind with
  | rows | count => simp [ofKind, clauses, queryClauses, Filters.clauses]

variable {f : Filters} {group : Group} {c : Clause}

theorem sound (member : c ∈ group.clauses f) : c.Sound := by
  cases group with
  | membership =>
    obtain ⟨column, some_value, rfl⟩ := mem_membershipClauses member
    exact sound_oneOf some_value
  | curies =>
    obtain ⟨some_curie, rfl⟩ := mem_curieClauses member
    exact sound_oneOfCuries some_curie
  | lifecycle => rcases mem_lifecycleClauses member with rfl | rfl <;> exact fun _ => .test trivial
  | dates =>
    obtain ⟨column, same⟩ := mem_dateClauses member
    obtain ⟨-, rfl⟩ | ⟨matching, operator, date, -, compares, -, rfl⟩ := dateClause?_cases same
    · exact fun _ => .test trivial
    · exact fun _ => .all (by simp) (.pair (.test trivial) (.test (operator?_mem compares)))
  | shapes =>
    obtain ⟨some_candidate, rfl⟩ := mem_shapeClauses member
    exact sound_shapeClause some_candidate
  | cursor =>
    obtain ⟨_, -, rfl⟩ := mem_cursorClauses member
    exact fun _ => .test trivial

theorem numbered (member : c ∈ group.clauses f) : c.Numbered group.times := by
  cases group with
  | membership =>
    obtain ⟨column, -, rfl⟩ := mem_membershipClauses member
    exact numbered_oneOf column _
  | curies =>
    obtain ⟨-, rfl⟩ := mem_curieClauses member
    exact numbered_oneOfCuries _
  | lifecycle => rcases mem_lifecycleClauses member with rfl | rfl <;> exact fun _ => rfl
  | dates =>
    obtain ⟨column, same⟩ := mem_dateClauses member
    obtain ⟨-, rfl⟩ | ⟨_, _, _, -, -, -, rfl⟩ := dateClause?_cases same <;> exact fun _ => rfl
  | shapes =>
    obtain ⟨-, rfl⟩ := mem_shapeClauses member
    exact numbered_shapeClause _ _
  | cursor =>
    obtain ⟨_, -, rfl⟩ := mem_cursorClauses member
    exact fun _ => rfl

end Group

theorem mem_queryClauses {f : Filters} {kind : QueryKind} {c : Clause} (member : c ∈ f.queryClauses kind) :
    ∃ group : Group, c ∈ group.clauses f := by
  rw [← Group.flatMap_clauses] at member
  obtain ⟨group, -, present⟩ := List.mem_flatMap.mp member
  exact ⟨group, present⟩

theorem sound_queryClauses (f : Filters) (kind : QueryKind) : ∀ c ∈ f.queryClauses kind, c.Sound := by
  intro c member
  obtain ⟨group, present⟩ := mem_queryClauses member
  exact Group.sound present

/-- The condition of a query names every value and nothing else. -/
theorem mem_indices_queryClauses (f : Filters) (kind : QueryKind) (index : Nat) :
    index ∈ (Clause.place 0 (f.queryClauses kind)).flatMap Condition.indices ↔ index < (f.query kind).values.length := by
  have covers : ∀ c ∈ f.queryClauses kind, c.Covers := by
    intro c member
    obtain ⟨group, present⟩ := mem_queryClauses member
    exact (Group.numbered present).covers group.times_ne_zero
  rw [Clause.mem_indices_place covers 0 index, Nat.zero_add]
  exact and_iff_right (Nat.zero_le index)

end Filters

end Gazetteer

import Gazetteer.Proofs.Query.Selection
import Gazetteer.Search

/-!
Pages and the number of all rows are asked for under one condition.  The condition of a page is that of the
count, behind which comes the comparison with the cursor if there is one; order, length and cursor stand in
the statement of a page alone.
-/

namespace Gazetteer

open Gazetteer.Filter Sql

namespace Sql

def Word.ofPage (w : Word) : Bool := w.isKeyword "ORDER" || w.isKeyword "LIMIT" || w == .run ['>']

def Test.isCursor : Test → Bool
  | .after _ => true
  | _ => false

/-! ### Statements without pages -/

theorem unpaged_operand (o : Operand) : o.words.all (!·.ofPage) = true := by
  cases o with
  | absent | blank | value index => rfl

theorem unpaged_layout {l : Layout} (before : (words (plain l.before)).all (!·.ofPage) = true)
    (after : (words (plain l.after)).all (!·.ofPage) = true) : l.words.all (!·.ofPage) = true := by
  rw [Layout.words, List.all_append, List.all_append, before, unpaged_operand, after]
  rfl

theorem unpaged_spelled {s : String} {cs : List Char} (spelled : s = .ofList cs)
    (unpaged : (words (cs.map .char)).all (!·.ofPage) = true) : (words (plain s)).all (!·.ofPage) = true := by
  rwa [plain_spelled spelled]

theorem unpaged_related (relation : Relation) (shape : Shape) (source : Source) (index : Nat) :
    (words (Test.related relation shape source index).tokens).all (!·.ofPage) = true := by
  have function : (words (plain relation.sqlFunction)).all (!·.ofPage) = true := by
    cases relation <;> exact unpaged_spelled rfl (by decide)
  have column : (words (plain shape.column)).all (!·.ofPage) = true := by
    cases shape <;> exact unpaged_spelled rfl (by decide)
  have candidate : (words (plain source.opening)).all (!·.ofPage) = true ∧
      (words (plain (source.closing ++ ")"))).all (!·.ofPage) = true := by
    cases source <;> exact ⟨unpaged_spelled rfl (by decide), unpaged_spelled (spelled_append rfl rfl) (by decide)⟩
  rw [Test.words_tokens]
  refine unpaged_layout ?_ candidate.2
  change (words (plain (relation.sqlFunction ++ "(" ++ shape.column ++ ", " ++ source.opening))).all _ = true
  rw [words_related_before, List.all_append, function, List.all_cons, List.all_append, column, List.all_cons,
    candidate.1]
  rfl

theorem unpaged_test {t : Test} (sound : t.Sound) (selecting : t.isCursor = false) :
    (words t.tokens).all (!·.ofPage) = true := by
  cases t with
  | related relation shape source index => exact unpaged_related relation shape source index
  | after index => cases selecting
  | equals column index =>
    have before : (words (plain ("entity." ++ column.name ++ " = "))).all (!·.ofPage) = true := by
      cases column <;> exact unpaged_spelled (spelled_append (spelled_append rfl rfl) rfl) (by decide)
    rw [Test.words_tokens]
    exact unpaged_layout before rfl
  | dateEmpty column =>
    have before : (words (plain ("entity." ++ column.name ++ " = "))).all (!·.ofPage) = true := by
      cases column <;> exact unpaged_spelled (spelled_append (spelled_append rfl rfl) rfl) (by decide)
    rw [Test.words_tokens]
    exact unpaged_layout before rfl
  | dateRecorded column =>
    have before : (words (plain ("entity." ++ column.name ++ " != "))).all (!·.ofPage) = true := by
      cases column <;> exact unpaged_spelled (spelled_append (spelled_append rfl rfl) rfl) (by decide)
    rw [Test.words_tokens]
    exact unpaged_layout before rfl
  | dateCompares column operator index =>
    have choice : operator = "=" ∨ operator = "<" ∨ operator = ">=" := by simpa [Test.Sound] using sound
    have before : (words (plain ("entity." ++ column.name ++ " " ++ operator ++ " "))).all (!·.ofPage) = true := by
      rcases choice with rfl | rfl | rfl <;> cases column <;>
        exact unpaged_spelled
          (spelled_append (spelled_append (spelled_append (spelled_append rfl rfl) rfl) rfl) rfl) (by decide)
    rw [Test.words_tokens]
    exact unpaged_layout before rfl
  | current | historical | joined | hasPolygon =>
    rw [Test.words_tokens]
    exact unpaged_layout (unpaged_spelled rfl (by decide)) rfl

end Sql

namespace Filters

theorem Group.selecting {f : Filters} {group : Group} (other : group ≠ .cursor) {c : Clause}
    (member : c ∈ group.clauses f) (first : Nat) : ∀ t ∈ (c.condition first).tests, t.isCursor = false := by
  cases group with
  | cursor => exact absurd rfl other
  | membership =>
    obtain ⟨column, -, rfl⟩ := mem_membershipClauses member
    intro t inside
    simp only [oneOf, Condition.tests_any, List.flatMap_map, Condition.tests_test, List.mem_flatMap,
      List.mem_singleton] at inside
    obtain ⟨i, -, rfl⟩ := inside
    rfl
  | curies =>
    obtain ⟨-, rfl⟩ := mem_curieClauses member
    intro t inside
    simp only [oneOfCuries, Condition.tests_any, List.flatMap_map, Condition.tests_all, List.flatMap_cons,
      List.flatMap_nil, Condition.tests_test, List.mem_flatMap] at inside
    obtain ⟨i, -, pair⟩ := inside
    rcases List.mem_cons.mp pair with rfl | second
    · rfl
    · obtain rfl := List.mem_singleton.mp second
      rfl
  | lifecycle =>
    rcases mem_lifecycleClauses member with rfl | rfl <;> simp [Test.isCursor]
  | dates =>
    obtain ⟨column, same⟩ := mem_dateClauses member
    obtain ⟨-, rfl⟩ | ⟨_, _, _, -, -, -, rfl⟩ := dateClause?_cases same <;> simp [Test.isCursor]
  | shapes =>
    obtain ⟨-, rfl⟩ := mem_shapeClauses member
    intro t inside
    simp only [shapeClause, Condition.tests_all, List.flatMap_cons, Condition.tests_test, Condition.tests_any,
      List.flatMap_nil, List.append_nil, List.singleton_append, List.mem_cons, List.mem_flatMap] at inside
    obtain rfl | ⟨candidate, present, inside⟩ := inside
    · rfl
    · obtain ⟨i, small, rfl⟩ := List.mem_mapIdx.mp present
      simp only [relatesTo, Condition.tests_any, Condition.tests_all, Condition.tests_test, List.flatMap_cons,
        List.flatMap_nil, List.append_nil, List.cons_append, List.nil_append, List.mem_cons, List.not_mem_nil,
        or_false] at inside
      rcases inside with rfl | rfl | rfl <;> rfl

theorem count_unpaged (f : Filters) : (wordsOf (f.query .count).sql).any Word.ofPage = false := by
  have selecting : ∀ c ∈ f.queryClauses .count, ∀ first, ∀ t ∈ (c.condition first).tests,
      (words t.tokens).all (!·.ofPage) = true := by
    intro c member first t inside
    have sound := (sound_queryClauses f .count c member first).tests t inside
    rw [← Group.flatMap_clauses] at member
    obtain ⟨group, listed, present⟩ := List.mem_flatMap.mp member
    have other : group ≠ .cursor := by
      rintro rfl
      exact absurd listed (by decide)
    exact unpaged_test sound (Group.selecting other present first t inside)
  have condition : (words (conditionTokens (f.queryClauses .count))).all (!·.ofPage) = true :=
    all_words_conditionTokens ⟨rfl, rfl, rfl, rfl⟩ (by decide) (sound_queryClauses f .count) selecting
  have opening : (words (plain QueryKind.count.selection ++ plain source)).all (!·.ofPage) = true := by
    rw [← plain_append]
    exact unpaged_spelled (spelled_append (spelled_append rfl rfl) rfl) (by decide)
  have whole : (wordsOf (f.query .count).sql).all (!·.ofPage) = true := by
    rw [wordsOf_query, List.all_append, opening, List.all_cons, List.all_append, condition]
    rfl
  simpa using whole

/-! ### The condition of a page -/

end Filters

namespace Sql

/-- No condition begins like the one that always holds. -/
theorem Condition.head_no_digit {c : Condition} (sound : c.Sound) :
    c.sql.toList.head?.any (!Text.isDecimalDigit ·) = true := by
  cases sound with
  | @test t sound =>
    have before := (Bool.and_eq_true_iff.mp (Test.isFrame_before sound)).2
    change t.sql.toList.head?.any _ = true
    rw [← Test.sql_layout, Layout.sql, String.toList_append]
    cases start : t.layout.before.toList with
    | nil => simp [start] at before
    | cons d ds => simpa [start] using before
  | all =>
    rw [sql_all, String.append_assoc, String.toList_append]
    rfl
  | any =>
    rw [sql_any, String.append_assoc, String.toList_append]
    rfl

end Sql

namespace Filters

theorem conditionText_eq_neutral_iff {clauses : List Clause} (sound : ∀ c ∈ clauses, c.Sound) :
    conditionText clauses = "1=1" ↔ clauses = [] := by
  constructor
  · intro neutral
    cases clauses with
    | nil => rfl
    | cons c rest =>
      have first := Condition.head_no_digit (sound c List.mem_cons_self 0)
      rw [conditionText_eq, Clause.place, List.map_cons, joined, List.isEmpty_cons, if_neg (by decide)] at neutral
      -- what is joined begins with its first part, and `1` is a digit
      have starts : ∃ behind : String, (c.condition 0).sql ++ behind = "1=1" := by
        cases later : (Clause.place (0 + c.values.length) rest).map Condition.sql with
        | nil =>
          rw [later, String.intercalate_singleton] at neutral
          exact ⟨"", by rw [String.append_empty, neutral]⟩
        | cons second others =>
          rw [later, String.intercalate_cons_cons, String.append_assoc] at neutral
          exact ⟨_, neutral⟩
      obtain ⟨behind, whole⟩ := starts
      have chars : (c.condition 0).sql.toList ++ behind.toList = ['1', '=', '1'] := by
        rw [← String.toList_append, whole]
        rfl
      cases text : (c.condition 0).sql.toList with
      | nil => simp [text] at first
      | cons d ds =>
        rw [text] at chars first
        obtain rfl := (List.cons.inj chars).1
        cases first
  · rintro rfl
    rfl

/-- A condition and, behind it, the comparison with a cursor whose value is bound at a place.  The condition that
always holds gives way to it. -/
def behindCursor (condition : String) (place : Nat) : Option String → String
  | none => condition
  | some _ =>
    if condition = "1=1" then "entity.entity > " ++ placeholder place
    else condition ++ " AND entity.entity > " ++ placeholder place

theorem conditionText_cursor (f : Filters) : conditionText (f.queryClauses .rows) =
    behindCursor (conditionText f.clauses) (Clause.allValues f.clauses).length f.nextEntity := by
  have neutral : conditionText f.clauses = "1=1" ↔ f.clauses = [] :=
    conditionText_eq_neutral_iff (sound_queryClauses f .count)
  rw [queryClauses, cursorClauses]
  cases f.nextEntity with
  | none => exact congrArg conditionText (List.append_nil f.clauses)
  | some cursor =>
    rw [behindCursor, conditionText_eq (f.clauses ++ _), Clause.place_append, Nat.zero_add, List.map_append]
    change joined (_ ++ ["entity.entity > " ++ placeholder _]) = _
    by_cases none_before : f.clauses = []
    · rw [if_pos (neutral.mpr none_before), none_before]
      exact String.intercalate_singleton (s := " AND ")
    · have placed : (Clause.place 0 f.clauses).map Condition.sql ≠ [] := by
        simpa using place_ne_nil none_before 0
      have comparison : " AND entity.entity > " = " AND " ++ "entity.entity > " := rfl
      rw [if_neg (mt neutral.mp none_before), conditionText_eq, joined, joined, if_neg (by simp),
        if_neg (by simpa using placed), String.intercalate_append_of_ne_nil placed (List.cons_ne_nil _ _),
        String.intercalate_singleton, comparison]
      simp only [String.append_assoc]

/-- The queries of a page begin with the count, and the count alone is that query, under every cursor and limit. -/
theorem count_sent (f : Filters) (backend : Backend) (before : List Query) (cursor : Option String) (limit : Nat) :
    ((Search.page { f with nextEntity := cursor, limit }).run backend before).2.head? = some (f.query .count) ∧
      ((Search.count { f with nextEntity := cursor, limit }).run backend before).2 = [f.query .count] :=
  ⟨rfl, rfl⟩

/-- The rows of a page are asked for under the condition of the count, continued by the cursor, with the values
of the count, continued by the cursor's. -/
theorem page_continues_count (f : Filters) : ∃ condition : String,
    (f.query .count).sql = "SELECT DISTINCT COUNT(*) AS _count FROM entity LEFT OUTER JOIN geometry ON "
        ++ "entity.entity = geometry.entity WHERE " ++ condition ∧
      (f.query .rows).sql = "SELECT entity.*, geometry.geojson FROM entity LEFT OUTER JOIN geometry ON "
        ++ "entity.entity = geometry.entity WHERE "
        ++ behindCursor condition (f.query .count).values.length f.nextEntity
        ++ " ORDER BY entity.entity LIMIT " ++ toString f.limit ∧
      (f.query .rows).values = (f.query .count).values ++ f.nextEntity.toList ∧
      (wordsOf (f.query .count).sql).any Word.ofPage = false ∧
      (∀ (cursor : Option String) (limit : Nat),
        { f with nextEntity := cursor, limit }.query .count = f.query .count) ∧
      ∀ (backend : Backend) (before : List Query) (cursor : Option String) (limit : Nat),
        ((Search.page { f with nextEntity := cursor, limit }).run backend before).2.head? = some (f.query .count) ∧
          ((Search.count { f with nextEntity := cursor, limit }).run backend before).2 = [f.query .count] := by
  refine ⟨conditionText f.clauses, ?_, ?_, ?_, f.count_unpaged, fun _ _ => rfl, f.count_sent⟩
  · have opening : "SELECT DISTINCT COUNT(*) AS _count FROM entity LEFT OUTER JOIN geometry ON "
        ++ "entity.entity = geometry.entity WHERE " = head .count := rfl
    rw [opening]
    exact String.append_empty
  · have opening : "SELECT entity.*, geometry.geojson FROM entity LEFT OUTER JOIN geometry ON "
        ++ "entity.entity = geometry.entity WHERE " = head .rows := rfl
    have values : (f.query .count).values = Clause.allValues f.clauses := rfl
    rw [opening, values, ← conditionText_cursor, String.append_assoc]
    rfl
  · change Clause.allValues (f.clauses ++ f.cursorClauses) = _
    rw [Clause.allValues, List.flatMap_append]
    exact congrArg _ (allValues_cursorClauses f)

end Filters

end Gazetteer

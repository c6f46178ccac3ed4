import Gazetteer.Proofs.Query.Selection

/-!
The parts of a SELECT statement: what it selects from which tables, under which condition, and in what order
and number.  `conditionWords` cuts out the condition; here are the words before it and behind it.
-/

namespace Gazetteer

namespace Sql

def openingWords (sql : String) : List Word := (wordsOf sql).takeWhile (!·.isKeyword "WHERE")

def pageWords (sql : String) : List Word :=
  ((wordsOf sql).dropWhile (!·.isKeyword "WHERE")).dropWhile (!·.isKeyword "ORDER")

/-- What stands before WHERE: the rows of entities with their geometries are selected, or the number of these. -/
def opening : QueryKind → String
  | .rows => "SELECT entity.*, geometry.geojson FROM entity LEFT OUTER JOIN geometry ON "
      ++ "entity.entity = geometry.entity"
  | .count => "SELECT DISTINCT COUNT(*) AS _count FROM entity LEFT OUTER JOIN geometry ON "
      ++ "entity.entity = geometry.entity"

def selected? (ws : List Word) : Option QueryKind := [.rows, .count].find? fun kind => ws = wordsOf (opening kind)

/-- The greatest number of rows, if there is one; they are then in the order of their entities. -/
def limit? : List Word → Option (Option Nat)
  | [] => some none
  | [order, by_, column, limit, .run digits] =>
    if [order, by_, column, limit] = wordsOf "ORDER BY entity.entity LIMIT" then (Text.natural? digits).map some
    else none
  | _ => none

theorem pending_append {run : List Char} (some_char : run ≠ []) : pending run = [.run run] := by
  simp [pending, some_char]

/-- Characters of names make one word. -/
theorem wordsFrom_name {run cs : List Char} (before : run.head?.all isNameChar = true)
    (names : ∀ c ∈ cs, isNameChar c = true ∧ (Token.char c).breaks = false) :
    wordsFrom run (cs.map .char) = pending (run ++ cs) := by
  induction cs generalizing run with
  | nil => rw [List.append_nil]; rfl
  | cons c cs ih =>
    obtain ⟨name, whole⟩ := names c List.mem_cons_self
    have same_kind : run.head?.all (isNameChar · == isNameChar c) = true := by
      rw [name]
      cases run with
      | nil => rfl
      | cons d ds => simpa using before
    have grown : (run ++ [c]).head?.all isNameChar = true := by
      cases run with
      | nil => simpa using name
      | cons d ds => simpa using before
    rw [List.map_cons, wordsFrom, whole, if_neg Bool.false_ne_true, if_pos same_kind,
      ih grown fun d member => names d (List.mem_cons_of_mem _ member), List.append_assoc, List.singleton_append]

theorem isNameChar_of_isDigit {c : Char} (digit : c.isDigit = true) :
    isNameChar c = true ∧ (Token.char c).breaks = false := by
  have inside : 48 ≤ c.toNat ∧ c.toNat ≤ 57 := by
    simp only [Char.isDigit, Bool.and_eq_true, decide_eq_true_eq, ge_iff_le, UInt32.le_iff_toNat_le] at digit
    exact digit
  have other : ∀ d : Char, (d.toNat < 48 ∨ 57 < d.toNat) → c ≠ d := by
    rintro d outside rfl
    omega
  refine ⟨by simp [isNameChar, Char.isAlphanum, digit], ?_⟩
  simp [Token.breaks, Char.isWhitespace, other]

theorem words_number (n : Nat) : words (plain (toString n)) = [.run (toString n).toList] := by
  have names : ∀ c ∈ (toString n).toList, isNameChar c = true ∧ (Token.char c).breaks = false :=
    fun c member => isNameChar_of_isDigit (Text.isDigit_of_mem_toString member)
  have read : wordsFrom [] (plain (toString n)) = pending ([] ++ (toString n).toList) := wordsFrom_name rfl names
  rw [words, read, List.nil_append, pending_append (Text.toString_toList_ne_nil n)]

end Sql

open Sql

namespace Filters

variable (f : Filters) (kind : QueryKind)

theorem openingWords_query :
    openingWords (f.query kind).sql = words (plain kind.selection ++ plain source) := by
  rw [openingWords, wordsOf_query, List.takeWhile_append_of_pos (List.all_eq_true.mp (no_where_head kind))]
  exact List.append_nil _

theorem wordsOf_opening : wordsOf (opening kind) = words (plain kind.selection ++ plain source) := by
  have same : opening kind = kind.selection ++ source := by cases kind <;> rfl
  have quiet : isPlain (kind.selection ++ source) = true := by
    have whole := isPlain_head kind
    rw [head, isPlain_append, Bool.and_eq_true] at whole
    exact whole.1
  rw [same, wordsOf_plain quiet, plain_append]

theorem selected?_query : selected? (openingWords (f.query kind).sql) = some kind := by
  have second : (words (plain QueryKind.count.selection ++ plain source))[1]? ≠
      (words (plain QueryKind.rows.selection ++ plain source))[1]? := by
    rw [plain_spelled (s := source) rfl, plain_spelled (s := QueryKind.count.selection) (spelled_append rfl rfl),
      plain_spelled (s := QueryKind.rows.selection) rfl]
    decide
  have different : words (plain QueryKind.count.selection ++ plain source) ≠
      words (plain QueryKind.rows.selection ++ plain source) := fun same => second (congrArg (·[1]?) same)
  rw [openingWords_query, selected?]
  simp only [wordsOf_opening]
  cases kind with
  | rows => simp
  | count => simp [different]

theorem pageWords_query : pageWords (f.query kind).sql = words (plain (kind.page f.limit)) := by
  have no_order := List.all_eq_true.mp (no_order_conditionTokens (sound_queryClauses f kind))
  have starts : (words (plain (kind.page f.limit))).dropWhile (!·.isKeyword "ORDER") =
      words (plain (kind.page f.limit)) := by
    have before := List.takeWhile_append_dropWhile (p := (!·.isKeyword "ORDER"))
      (l := words (plain (kind.page f.limit)))
    rwa [(words_page kind f.limit).2, List.nil_append] at before
  rw [pageWords, wordsOf_query, List.dropWhile_append_of_pos (List.all_eq_true.mp (no_where_head kind))]
  change (words (conditionTokens (f.queryClauses kind)) ++ words (plain (kind.page f.limit))).dropWhile _ = _
  rw [List.dropWhile_append_of_pos no_order, starts]

theorem limit?_rows : limit? (pageWords (f.query .rows).sql) = some (some f.limit) := by
  have ordering : ∀ ts, words (plain " ORDER BY entity.entity LIMIT " ++ ts) =
      .run "ORDER".toList :: .run "BY".toList :: .run "entity.entity".toList :: .run "LIMIT".toList :: words ts :=
    fun _ => rfl
  have page : QueryKind.rows.page f.limit = " ORDER BY entity.entity LIMIT " ++ toString f.limit := rfl
  have keywords : [Word.run "ORDER".toList, .run "BY".toList, .run "entity.entity".toList, .run "LIMIT".toList] =
      wordsOf "ORDER BY entity.entity LIMIT" := by
    rw [wordsOf_plain (by decide), plain_spelled rfl]
    rfl
  rw [pageWords_query, page, plain_append, ordering, words_number, limit?, if_pos keywords, Text.natural?_toString]
  rfl

theorem limit?_count : limit? (pageWords (f.query .count).sql) = some none := by
  rw [pageWords_query]
  rfl

end Filters

end Gazetteer

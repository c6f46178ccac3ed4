import Gazetteer.Proofs.Query.Meaning

/-!
What a statement selects.  The words between WHERE and ORDER are the condition of its clauses; read by the
precedence of SQL, with the values of its placeholders, they ask for what the filters ask for.
-/

namespace Gazetteer

open Sql

namespace Sql

/-- The words after WHERE, up to ORDER if there is one. -/
def conditionWords (sql : String) : List Word :=
  (((wordsOf sql).dropWhile (!·.isKeyword "WHERE")).drop 1).takeWhile (!·.isKeyword "ORDER")

variable {truth : List Word → Truth}

theorem words_conjunctionTokens (cs : List Condition) :
    words (conjunctionTokens cs) = [.andKeyword].intercalate (cs.map fun c => words c.tokens) := by
  rw [conjunctionTokens, separates_and.intercalate, List.map_map]
  rfl

theorem readFormula_conjunctionTokens {cs : List Condition} (sound : ∀ c ∈ cs, c.Sound) (some_condition : cs ≠ [])
    (values : List String) :
    (readFormula (words (conjunctionTokens cs))).map
        (Formula.eval fun ws => truth (ws.map (Word.bound (bindings values)))) =
      some (Truth.all (cs.map (Condition.eval (Test.holds truth values)))) := by
  rw [words_conjunctionTokens]
  exact readFormula_and (fun c member => Condition.reads (sound c member)) some_condition

end Sql

namespace Filters

/-- What holds of connectives, of `1=1` and of the words of its tests holds of all words of a statement's condition. -/
theorem all_words_conditionTokens {p : Word → Bool} (passes : Condition.Passes p)
    (neutral : (words (plain "1=1")).all p = true) {clauses : List Clause} (sound : ∀ c ∈ clauses, c.Sound)
    (each : ∀ c ∈ clauses, ∀ first, ∀ t ∈ (c.condition first).tests, (words t.tokens).all p = true) :
    (words (conditionTokens clauses)).all p = true := by
  cases clauses with
  | nil => exact neutral
  | cons c rest =>
    change (words (conjunctionTokens (Clause.place 0 (c :: rest)))).all p = true
    rw [words_conjunctionTokens]
    refine Condition.all_intercalate passes.andKeyword fun condition member => ?_
    obtain ⟨d, present, first, rfl⟩ := Clause.mem_place member
    exact Condition.all_words passes (sound d present first) (each d present first)

theorem no_order_conditionTokens {clauses : List Clause} (sound : ∀ c ∈ clauses, c.Sound) :
    (words (conditionTokens clauses)).all (!·.isKeyword "ORDER") = true := by
  refine all_words_conditionTokens ⟨rfl, rfl, rfl, rfl⟩ (by decide) sound fun c member first t inside => ?_
  exact (Test.leads ((sound c member first).tests t inside)).no_order

theorem no_where_head (kind : QueryKind) :
    (words (plain kind.selection ++ plain source)).all (!·.isKeyword "WHERE") = true := by
  rw [plain_spelled (s := source) rfl]
  cases kind with
  | rows => rw [plain_spelled (s := QueryKind.rows.selection) rfl]; decide
  | count => rw [plain_spelled (s := QueryKind.count.selection) (spelled_append rfl rfl)]; decide

theorem words_page (kind : QueryKind) (limit : Nat) :
    (plain (kind.page limit)).head?.all Token.breaks = true ∧
      (words (plain (kind.page limit))).takeWhile (!·.isKeyword "ORDER") = [] := by
  cases kind with
  | count => exact ⟨rfl, rfl⟩
  | rows =>
    have ordering : " ORDER BY entity.entity LIMIT " = " ORDER " ++ "BY entity.entity LIMIT " := rfl
    have begins : ∀ ts, words (plain " ORDER " ++ ts) = .run "ORDER".toList :: words ts := fun _ => rfl
    have page : QueryKind.rows.page limit = " ORDER " ++ ("BY entity.entity LIMIT " ++ toString limit) := by
      rw [← String.append_assoc, ← ordering]
      rfl
    rw [page, plain_append, begins]
    exact ⟨rfl, rfl⟩

theorem wordsOf_query (f : Filters) (kind : QueryKind) : wordsOf (f.query kind).sql =
    words (plain kind.selection ++ plain source) ++
      .run "WHERE".toList :: (words (conditionTokens (f.queryClauses kind)) ++ words (plain (kind.page f.limit))) := by
  have reads_where : ∀ ts, words (plain " WHERE " ++ ts) = .run "WHERE".toList :: words ts := fun _ => rfl
  rw [wordsOf, ← spell_queryTokens, tokens_spell (template_queryTokens f kind).readable, queryTokens, head,
    plain_append, plain_append, List.append_assoc, words_append (by rfl), reads_where,
    words_append (words_page kind f.limit).1]

theorem conditionWords_query (f : Filters) (kind : QueryKind) :
    conditionWords (f.query kind).sql = words (conditionTokens (f.queryClauses kind)) := by
  have no_order := no_order_conditionTokens (sound_queryClauses f kind)
  rw [conditionWords, wordsOf_query, List.dropWhile_append_of_pos (List.all_eq_true.mp (no_where_head kind))]
  change (words _ ++ words _).takeWhile _ = _
  rw [List.takeWhile_append_of_pos (List.all_eq_true.mp no_order), (words_page kind f.limit).2, List.append_nil]

/-- The condition of a query is read as the restrictions of its filters, or as one comparison without any. -/
theorem readFormula_conditionTokens (truth : List Word → Truth) (f : Filters) (kind : QueryKind) :
    (readFormula (words (conditionTokens (f.queryClauses kind)))).map
        (Formula.eval fun ws => truth (ws.map (Word.bound (f.query kind).named))) = some (f.selects truth kind) := by
  -- there are as many clauses as restrictions, so both are empty or neither is
  have means : List.Forall₂ (Clause.Means truth) (f.queryClauses kind) (f.restrictions truth kind) :=
    means_queryClauses f kind
  have sound := sound_queryClauses f kind
  have values := Clause.eval_place means [] []
  change (readFormula _).map (Formula.eval fun ws =>
    truth (ws.map (Word.bound (bindings (Clause.allValues (f.queryClauses kind)))))) = _
  rw [selects]
  generalize f.queryClauses kind = clauses at means sound values ⊢
  generalize f.restrictions truth kind = restrictions at means values ⊢
  cases means with
  | nil =>
    have neutral : wordsOf "1=1" = words (plain "1=1") := wordsOf_plain (by decide)
    have reads : readFormula (words (plain "1=1")) = some (.comparison (words (plain "1=1"))) := by decide
    change (readFormula (words (plain "1=1"))).map _ = some (compared truth "1=1" [])
    rw [reads, compared, neutral, Option.map_some, Formula.eval, bound_words, bound_words]
  | @cons c _ rest _ head tail =>
    have placed_sound : ∀ d ∈ Clause.place 0 (c :: rest), d.Sound :=
      fun _ member => Clause.sound_of_mem_place sound member
    have some_condition := place_ne_nil (List.cons_ne_nil c rest) 0
    rw [List.nil_append, List.append_nil, List.length_nil] at values
    change (readFormula (words (conjunctionTokens (Clause.place 0 (c :: rest))))).map _ = some (Truth.all _)
    rw [readFormula_conjunctionTokens placed_sound some_condition, values]

/-- A statement selects what its filters ask for: whatever the truth of single comparisons, its condition has
the truth of their restrictions. -/
theorem condition_selects (truth : List Word → Truth) (f : Filters) (kind : QueryKind) :
    (readFormula (conditionWords (f.query kind).sql)).map
        (Formula.eval fun ws => truth (ws.map (Word.bound (f.query kind).named))) = some (f.selects truth kind) := by
  rw [conditionWords_query]
  exact readFormula_conditionTokens truth f kind

end Filters

end Gazetteer

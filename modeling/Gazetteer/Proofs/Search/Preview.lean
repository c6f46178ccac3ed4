import Gazetteer.Proofs.Datasette.Carriage
import Gazetteer.Proofs.Http.Replay

/-!
What a preview shows is what runs.  The statements that are shown for filters are those that a search sends for them, and one
entity is looked up by the statement of a search for its number.
-/

namespace Gazetteer

/-- A text is what every client that writes values into statements sends as the statement of a query. -/
def Query.SentInline (q : Query) (text : String) : Prop :=
  ∀ c : Datasette.Client, c.settings.mode = .inline →
    (c.queryUrl q).pairs = c.url.pairs ++ [("sql", text), ("_shape", "arrays")]

structure Preview.Shows (document : Json) (count rows : Query) : Prop where
  sql : document.field? "sql" = some (.text rows.sql)
  values : document.field? "params" = some (.texts rows.values)
  rows_inline : ∃ text, document.field? "inline_sql" = some (.text text) ∧ rows.SentInline text
  count_inline : ∃ text, document.field? "count_sql" = some (.text text) ∧ count.SentInline text

theorem Query.sentInline_inlined (q : Query) : q.SentInline q.inlined := by
  intro c inside
  rw [Datasette.Client.queryUrl, Datasette.pairs_addPairs, inside]
  rfl

namespace Search

theorem shows_preview (f : Filters) : Preview.Shows (preview f).toJson (f.query .count) (f.query .rows) where
  sql := rfl
  values := rfl
  rows_inline := ⟨_, rfl, (f.query .rows).sentInline_inlined⟩
  count_inline := ⟨_, rfl, (f.query .count).sentInline_inlined⟩

theorem sent_of_counted {backend : Backend} {before : List Query} {f : Filters} {n : Nat}
    (found : counted backend before f = .ok n) :
    ((page f).run backend before).2 = [f.query .count, f.query .rows] := by
  rw [run_page, found]

/-- The filters that select one entity are in normal form. -/
theorem normalize_only {entity : String} (some_text : entity ≠ "") : (only entity).normalize = only entity := by
  have kept : present [entity] = [entity] := by
    rw [present_eq]
    simp [some_text]
  have alone : ordered [entity] = [entity] := by rw [ordered, kept]; rfl
  change { only entity with entity := ordered [entity] } = only entity
  rw [alone]
  rfl

end Search

namespace Http

variable {query : List Char} {p : Filters}

theorem requestedFilters_of_read (read : readFilters query = .ok p) (inside : isLimit p.limit = true) :
    requestedFilters query = .ok p.normalize := by
  rw [requestedFilters, read]
  exact if_pos inside

/-- A search that is requested sends what the search for its filters sends. -/
theorem respond_search {r : Request} (read : requestedFilters r.target.query = .ok p)
    (routed : Route.ofPath? r.target.path = some .search) (method : r.method = .get ∨ r.method = .head)
    (backend : Backend) (before : List Query) :
    ((respond backend.name r).run backend before).2 = ((Search.page p).run backend before).2 := by
  rw [respond_of_route routed method, Dialogue.run_map, answer_search read, Lookup.dialogue, respondWith,
    Dialogue.run_map]

/-- A preview that is requested is answered without the backend. -/
theorem respond_preview {r : Request} (read : requestedFilters r.target.query = .ok p)
    (routed : Route.ofPath? r.target.path = some .preview) (get : r.method = .get) (name : String) :
    respond name r = .answer (finish r (.json 200 (Search.preview p).toJson)) := by
  rw [respond_of_route routed (.inl get), Route.answer, read]
  rfl

end Http

open Http in
/-- For filters whose count can be read, a search sends a count and then rows.  A preview of the same filters shows these two,
asked of the library or over the network, and a look-up of one entity sends the rows of the search for it. -/
theorem preview_is_sent {backend : Backend} {before : List Query} {p : Filters} {n : Nat}
    (counted : Search.counted backend before p.normalize = .ok n) :
    ∃ count rows : Query,
      ((Search.page p.normalize).run backend before).2 = [count, rows] ∧
      Preview.Shows (Search.preview p.normalize).toJson count rows ∧
      (∀ query, readFilters query = .ok p → isLimit p.limit = true →
        (∀ asked : Request, asked.target.query = query → Route.ofPath? asked.target.path = some .search →
          asked.method = .get ∨ asked.method = .head →
          ((respond backend.name asked).run backend before).2 = [count, rows]) ∧
        ∀ shown : Request, shown.target.query = query → Route.ofPath? shown.target.path = some .preview →
          shown.method = .get → ∀ name, ∃ response document, respond name shown = .answer response ∧
            response.status = 200 ∧ response.content = .json document ∧ Preview.Shows document count rows) ∧
      ∀ entity, entity ≠ "" → p = { entity := [entity], limit := 1 } →
        ∀ (other : Backend) (after : List Query), ((Search.entity? entity).run other after).2 = [rows] := by
  have sent := Search.sent_of_counted counted
  have shows := Search.shows_preview p.normalize
  refine ⟨_, _, sent, shows, fun query read inside => ⟨?_, ?_⟩, ?_⟩
  · rintro asked rfl routed method
    rw [respond_search (requestedFilters_of_read read inside) routed method, sent]
  · rintro shown rfl routed get name
    have apart : shown.method ≠ .head := by rw [get]; decide
    obtain ⟨status, content⟩ := finish_json apart (Search.preview p.normalize).toJson
    exact ⟨_, _, respond_preview (requestedFilters_of_read read inside) routed get name, status, content, shows⟩
  · rintro entity some_text rfl other after
    rw [Search.run_entity, Search.entityQuery]
    change [(Search.only entity).query .rows] = [(Search.only entity).normalize.query .rows]
    rw [Search.normalize_only some_text]

def quotedLookup : List Char := "entity=%277&limit=1".toList

theorem quotedLookup_read : Http.readFilters quotedLookup = .ok { entity := ["'7"], limit := 1 } := by
  have pairs : Text.Form.decodePairs quotedLookup = [("entity", "'7"), ("limit", "1")] := rfl
  rw [Http.readFilters, pairs]
  rfl

open Http in
theorem quotedLookup_shown :
    Search.counted (oneEntity "first") [] (Search.only "'7").normalize = .ok 1 ∧
      ∃ count rows : Query,
        ((Search.page (Search.only "'7").normalize).run (oneEntity "first") []).2 = [count, rows] ∧
        Preview.Shows (Search.preview (Search.only "'7").normalize).toJson count rows ∧
        ((respond "first" ⟨.get, ⟨"/api/v1/entity".toList, quotedLookup⟩, []⟩).run (oneEntity "first") []).2 =
          [count, rows] ∧
        (∃ response document,
          respond "second" ⟨.get, ⟨"/api/v1/entity/sql".toList, quotedLookup⟩, []⟩ = .answer response ∧
            response.status = 200 ∧ response.content = .json document ∧ Preview.Shows document count rows) ∧
        ((Search.entity? "'7").run (oneEntity "second") []).2 = [rows] := by
  have counted : Search.counted (oneEntity "first") [] (Search.only "'7").normalize = .ok 1 := rfl
  obtain ⟨count, rows, sent, shows, requested, one⟩ := preview_is_sent counted
  obtain ⟨asked, shown⟩ := requested quotedLookup quotedLookup_read rfl
  exact ⟨counted, count, rows, sent, shows, asked _ rfl rfl (.inl rfl), shown _ rfl rfl rfl "second",
    one "'7" (by decide) rfl (oneEntity "second") []⟩

end Gazetteer

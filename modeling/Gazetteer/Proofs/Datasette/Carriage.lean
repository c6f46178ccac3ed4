import Gazetteer.Datasette.Endpoint
import Gazetteer.Proofs.Query.Statement
import Gazetteer.Proofs.Sql.Bound
import Gazetteer.Proofs.Text.Form
import Mathlib.Data.List.Nodup

/-!
What the address of a request carries.  Its query is read as the pairs of the endpoint and then those of the query that
is sent, whatever its text and its values; a compiled statement names by its placeholders exactly the values that are
sent.
-/

namespace Gazetteer

open Sql

/-- The names of the values that are sent are distinct, and they are those of the placeholders of the statement, both by
the rule of quotes and by the reading that inlines. -/
structure Query.NamesMatch (q : Query) : Prop where
  distinct : (q.named.map (·.1)).Nodup
  outside : ∀ name, name ∈ q.named.map (·.1) ↔
    ∃ digits, .placeholder digits ∈ tokens q.sql.toList ∧ name = "p" ++ .ofList digits
  anywhere : ∀ name, name ∈ q.named.map (·.1) ↔
    ∃ digits, .placeholder digits ∈ pieces q.sql.toList ∧ name = "p" ++ .ofList digits

namespace Query

theorem names_named (q : Query) : q.named.map (·.1) = (List.range q.values.length).map parameterName := by
  refine List.ext_getElem (by simp [named]) fun index _ _ => ?_
  simp [named]

theorem mem_names {q : Query} {name : String} :
    name ∈ q.named.map (·.1) ↔ ∃ index < q.values.length, name = parameterName index := by
  simp only [names_named, List.mem_map, List.mem_range, eq_comm]

theorem distinct_names (q : Query) : (q.named.map (·.1)).Nodup := by
  rw [names_named]
  exact List.nodup_range.map fun _ _ => parameterName_inj

/-- A statement whose template has the placeholders of its values, and no others, is sent under their names. -/
theorem namesMatch_of_template {q : Query} {ts : List Token} (template : Template ts)
    (spelled : spell ts = q.sql.toList)
    (covered : ∀ digits, digits ∈ placeholders ts ↔ ∃ index < q.values.length, digits = digitsOf index) :
    q.NamesMatch := by
  have named : ∀ name, name ∈ q.named.map (·.1) ↔ ∃ digits ∈ placeholders ts, name = "p" ++ .ofList digits := by
    intro name
    rw [mem_names]
    constructor
    · rintro ⟨index, small, rfl⟩
      exact ⟨digitsOf index, (covered _).mpr ⟨index, small, rfl⟩, by rw [digitsOf, String.ofList_toList, parameterName]⟩
    · rintro ⟨digits, member, rfl⟩
      obtain ⟨index, small, rfl⟩ := (covered digits).mp member
      exact ⟨index, small, by rw [digitsOf, String.ofList_toList, parameterName]⟩
  refine ⟨q.distinct_names, ?_, ?_⟩
  · rw [← spelled, tokens_spell template.readable]
    simpa only [mem_placeholders] using named
  · rw [← spelled]
    simpa only [← placeholders_spell template, mem_pieces] using named

end Query

theorem Filters.query_namesMatch (f : Filters) (kind : QueryKind) : (f.query kind).NamesMatch := by
  refine Query.namesMatch_of_template (template_queryTokens f kind) (spell_queryTokens f kind) fun digits => ?_
  simp only [placeholders_queryTokens, List.mem_map, mem_indices_queryClauses, eq_comm]

theorem datasetQuery_namesMatch (dataset : Option String) : (datasetQuery dataset).NamesMatch := by
  refine Query.namesMatch_of_template (template_datasetTokens dataset) (spell_datasetTokens dataset) fun digits => ?_
  have values : (datasetQuery dataset).values = dataset.toList := rfl
  rw [placeholders_datasetTokens, values]
  cases dataset with
  | none => simp
  | some name => simp

namespace Datasette

theorem pairs_addPairs (url : Url) (pairs : List (String × String)) :
    (url.addPairs pairs).pairs = url.pairs ++ pairs := by
  have written := Text.Form.decodePairs_encodePairs pairs
  rw [Url.pairs, Url.pairs, Url.addPairs]
  cases url.query with
  | none => exact written
  | some query =>
    cases query with
    | nil => exact written
    | cons c cs =>
      change Text.Form.decodePairs ((c :: cs) ++ ['&'] ++ Text.Form.encodePairs pairs) = _
      rw [List.append_assoc, List.singleton_append, Text.Form.decodePairs_append, written]
      rfl

/-- What is sent can be read from the address of a request: the pairs of the endpoint come first, and those of the query
follow as they are.  The values of a compiled statement are sent under the names of its placeholders. -/
theorem queryUrl_carries :
    (∀ (c : Client) (q : Query), (c.queryUrl q).pairs = c.url.pairs ++
      match c.settings.mode with
      | .bound =>
        ("sql", q.sql) :: (q.values.mapIdx fun index value => ("p" ++ toString index, value)) ++ [("_shape", "arrays")]
      | .inline => [("sql", inline q.sql q.values), ("_shape", "arrays")]) ∧
    (∀ (f : Filters) (kind : QueryKind), (f.query kind).NamesMatch) ∧
    ∀ dataset : Option String, (datasetQuery dataset).NamesMatch := by
  refine ⟨fun c q => ?_, Filters.query_namesMatch, datasetQuery_namesMatch⟩
  rw [Client.queryUrl, pairs_addPairs]
  cases c.settings.mode with
  | bound | inline => rfl

end Datasette

end Gazetteer

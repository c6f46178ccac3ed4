import Gazetteer.Proofs.Query.Statement

/-!
Inlined statements carry values and nothing else of them.  However hostile a value is, the statement with
literals in place of its placeholders reads as the statement with placeholders does, literal for placeholder.
-/

namespace Gazetteer

open Sql

/-- The inlined statement reads as the statement with every placeholder replaced by the literal of its value,
less the characters that are cleaned away.  A number beyond a machine word names no value, and no list in
memory is that long. -/
structure Query.InlinesFaithfully (q : Query) : Prop where
  reads : tokens q.inlined.toList = (tokens q.sql.toList).map (Token.filled q.values)
  closed : ∀ text, .unclosed text ∉ tokens q.sql.toList
  bound : ∀ digits, .placeholder digits ∈ tokens q.sql.toList →
    ∃ index value, digits = (toString index).toList ∧ q.values[index]? = some value ∧
      (index ≤ greatestIndex → Token.filled q.values (.placeholder digits) = .literal (kept value.toList))

theorem Sql.index?_toString (index : Nat) :
    index? (toString index).toList = if index ≤ greatestIndex then some index else none := by
  rw [index?, Text.readNatural_toString]
  split <;> rfl

/-- A statement whose template names its values and no others inlines faithfully. -/
theorem Query.inlinesFaithfully_of_template {q : Query} {ts : List Token} (template : Template ts)
    (spelled : spell ts = q.sql.toList)
    (named : ∀ digits ∈ placeholders ts, ∃ index < q.values.length, digits = digitsOf index) :
    q.InlinesFaithfully := by
  have template_tokens : tokens q.sql.toList = ts := by rw [← spelled, tokens_spell template.readable]
  refine ⟨?_, ?_, ?_⟩
  · rw [Query.inlined, Sql.inline, String.toList_ofList]
    exact tokens_inlineChars template spelled q.values
  · rw [template_tokens]
    exact template.readable.no_unclosed
  · rw [template_tokens]
    intro digits member
    obtain ⟨index, small, rfl⟩ := named digits (mem_placeholders.mpr member)
    refine ⟨index, q.values[index], rfl, List.getElem?_eq_getElem small, fun word => ?_⟩
    simp only [Token.filled, digitsOf, index?_toString, if_pos word, Option.bind_some,
      List.getElem?_eq_getElem small, clean_eq_kept]

theorem Filters.query_inlinesFaithfully (f : Filters) (kind : QueryKind) : (f.query kind).InlinesFaithfully := by
  refine Query.inlinesFaithfully_of_template (template_queryTokens f kind) (spell_queryTokens f kind) ?_
  intro digits member
  rw [placeholders_queryTokens] at member
  obtain ⟨index, present, rfl⟩ := List.mem_map.mp member
  exact ⟨index, (mem_indices_queryClauses f kind index).mp present, rfl⟩

theorem datasetQuery_inlinesFaithfully (dataset : Option String) : (datasetQuery dataset).InlinesFaithfully := by
  refine Query.inlinesFaithfully_of_template (template_datasetTokens dataset) (spell_datasetTokens dataset) ?_
  intro digits member
  rw [placeholders_datasetTokens] at member
  obtain ⟨name, present, rfl⟩ := List.mem_map.mp member
  exact ⟨0, List.length_pos_of_mem present, rfl⟩

/-- Whatever the filters, the dataset and their values, inlining is faithful, and a literal reads back as its
value exactly when none of the cleaned characters is in it. -/
theorem inlining_safe :
    (∀ (f : Filters) (kind : QueryKind), (f.query kind).InlinesFaithfully) ∧
    (∀ dataset : Option String, (datasetQuery dataset).InlinesFaithfully) ∧
    ∀ text : List Char, kept text = text ↔ ∀ c ∈ text, c ∉ dropped ∧ c ∉ blanked :=
  ⟨Filters.query_inlinesFaithfully, datasetQuery_inlinesFaithfully, kept_eq_self⟩

end Gazetteer

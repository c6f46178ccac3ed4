import Gazetteer.Proofs.Entity.Table

/-!
Geometries that are no objects.  A record has one exactly if the last cell under the geometry is a text that spells JSON
other than an object: such a value is refused where it stands in a cell itself, but is kept where a text spells it.
-/

namespace Gazetteer

def Json.IsObject (value : Json) : Prop := ∃ fields, value = .object fields

theorem Json.isObject_object (fields : List (String × Json)) : (Json.object fields).IsObject := ⟨fields, rfl⟩

namespace Entity

def IsVacant (cell : Json) : Prop := cell = .null ∨ ∃ s, cell = .text s ∧ Text.blank s = true

/-- A text that spells JSON other than an object. -/
def SpellsOther (cell : Json) : Prop :=
  ∃ s value, cell = .text s ∧ Text.blank s = false ∧ Json.parse? s = some value ∧ ¬ value.IsObject

/-- JSON other than an object, in the cell itself. -/
def IsOther (cell : Json) : Prop := cell ≠ .null ∧ (∀ s, cell ≠ .text s) ∧ ¬ cell.IsObject

variable {cell geometry : Json}

theorem Spells.not_isObject_iff (spells : Spells cell geometry) : ¬ geometry.IsObject ↔ SpellsOther cell := by
  cases spells with
  | null => exact iff_of_false (not_not_intro (Json.isObject_object _)) nofun
  | object fields => exact iff_of_false (not_not_intro (Json.isObject_object _)) nofun
  | blank empty =>
    refine iff_of_false (not_not_intro (Json.isObject_object _)) ?_
    rintro ⟨s, value, same, full, -⟩
    obtain rfl := Json.text.inj same
    rw [empty] at full
    cases full
  | text full parsed =>
    constructor
    · intro other
      exact ⟨_, geometry, rfl, full, parsed, other⟩
    · rintro ⟨s, value, same, -, read, other⟩
      obtain rfl := Json.text.inj same
      obtain rfl := Option.some.inj (parsed.symm.trans read)
      exact other

theorem Spells.of_vacant (spells : Spells cell geometry) (vacant : IsVacant cell) : geometry = .object [] := by
  rcases vacant with rfl | ⟨s, rfl, empty⟩
  · exact spells.unique .null
  · exact spells.unique (.blank empty)

theorem IsOther.misspells (other : IsOther cell) : ∃ defect, Misspells cell defect := by
  obtain ⟨full, no_text, no_object⟩ := other
  cases cell with
  | null => exact absurd rfl full
  | text s => exact absurd rfl (no_text s)
  | object fields => exact absurd (Json.isObject_object fields) no_object
  | bool value => exact ⟨_, .bool value⟩
  | number value => exact ⟨_, .number value⟩
  | array items => exact ⟨_, .array items⟩

/-- The last cell under the geometry decides whether that of a record is an object. -/
theorem Record.IsRead.geometry_not_isObject_iff {record : Record} {cells : List (String × Json)}
    (read : record.IsRead cells) :
    ¬ record.geojson.IsObject ↔ ∃ cell, lastUnder "geojson" cells = some cell ∧ SpellsOther cell := by
  cases last : lastUnder "geojson" cells with
  | none =>
    rw [read.no_geometry last]
    exact iff_of_false (not_not_intro (Json.isObject_object _)) (by rintro ⟨cell, found, -⟩; cases found)
  | some cell =>
    rw [(read.geometry cell last).not_isObject_iff]
    constructor
    · intro other
      exact ⟨cell, rfl, other⟩
    · rintro ⟨found, same, other⟩
      exact Option.some.inj same ▸ other

theorem Record.IsRead.no_geometry_of_vacant {record : Record} {cells : List (String × Json)}
    (read : record.IsRead cells) (vacant : ∀ cell, lastUnder "geojson" cells = some cell → IsVacant cell) :
    record.geojson = .object [] := by
  cases last : lastUnder "geojson" cells with
  | none => exact read.no_geometry last
  | some cell => exact (read.geometry cell last).of_vacant (vacant cell last)

end Entity

namespace Table

open Entity

variable {t : Table}

/-- One cell under the geometry that is none refuses the table. -/
theorem records_refused {cell : String × Json} (member : cell ∈ t.cells) (column : cell.1 = "geojson")
    (bad : ∃ defect, Misspells cell.2 defect) : ∃ defect, t.records = .error (.malformed cellReader defect) := by
  obtain ⟨records, -, good, -⟩ | ⟨e, unread, first⟩ := t.records_cases
  · obtain ⟨defect, misspells⟩ := bad
    exact absurd ⟨column, defect, misspells, rfl⟩ (good cell member _)
  · obtain ⟨found, -, -, defect, -, rfl⟩ := first.exists_bad
    exact ⟨defect, unread⟩

/-- Each record of a table has an object for its geometry, an empty one if no cell holds any, unless the last cell under the
geometry is a text that spells other JSON.  JSON in the cell itself that is no object refuses the table. -/
theorem geometries_structured (t : Table) :
    (∀ records, t.records = .ok records →
      List.Forall₂ (fun row (record : Record) =>
        (¬ record.geojson.IsObject ↔
          ∃ cell, lastUnder "geojson" (t.columns.zip row) = some cell ∧ SpellsOther cell) ∧
        ((∀ cell, lastUnder "geojson" (t.columns.zip row) = some cell → IsVacant cell) →
          record.geojson = .object [])) t.rows records) ∧
    ∀ cell ∈ t.cells, cell.1 = "geojson" → IsOther cell.2 →
      ∃ defect, t.records = .error (.malformed cellReader defect) := by
  constructor
  · intro records read
    obtain ⟨found, also, -, all_read⟩ | ⟨e, unread, -⟩ := t.records_cases
    · obtain rfl : found = records := Except.ok.inj (also.symm.trans read)
      exact all_read.imp fun _ _ one => ⟨one.geometry_not_isObject_iff, one.no_geometry_of_vacant⟩
    · rw [read] at unread
      cases unread
  · intro cell member column other
    exact records_refused member column other.misspells

/-- A row without a geometry has an empty one, a text that spells an array leaves it, and an array itself is refused. -/
theorem geometries_of_rows :
    records ⟨["geojson"], [[.null], [.text "[]"]]⟩ = .ok [{}, { geojson := .array [] }] ∧
      List.Forall₂ (fun row (record : Record) =>
        (¬ record.geojson.IsObject ↔
          ∃ cell, lastUnder "geojson" (["geojson"].zip row) = some cell ∧ SpellsOther cell) ∧
        ((∀ cell, lastUnder "geojson" (["geojson"].zip row) = some cell → IsVacant cell) →
          record.geojson = .object [])) [[.null], [.text "[]"]] [{}, { geojson := .array [] }] ∧
      IsOther (.array []) ∧
      ∃ defect, records ⟨["geojson"], [[.array []]]⟩ = .error (.malformed cellReader defect) := by
  have read : records ⟨["geojson"], [[.null], [.text "[]"]]⟩ = .ok [{}, { geojson := .array [] }] := rfl
  have other : IsOther (.array []) := ⟨nofun, nofun, nofun⟩
  obtain ⟨structured, -⟩ := geometries_structured ⟨["geojson"], [[.null], [.text "[]"]]⟩
  obtain ⟨-, refused⟩ := geometries_structured ⟨["geojson"], [[.array []]]⟩
  exact ⟨read, structured _ read, other, refused _ (.head _) rfl other⟩

/-- An array that a text spells is kept, and the same array in a cell itself is refused. -/
theorem spelled_array_kept :
    ("geojson", Json.text "[]") ∈ cells ⟨["geojson"], [[.text "[]"]]⟩ ∧
      Json.parse? "[]" = some (.array []) ∧ ¬ (Json.array []).IsObject ∧
      records ⟨["geojson"], [[.text "[]"]]⟩ = .ok [{ geojson := .array [] }] ∧
      records ⟨["geojson"], [[.array []]]⟩ = .error (.malformed cellReader (.geojsonValue (.array []))) :=
  ⟨.head _, rfl, nofun, rfl, rfl⟩

end Table

end Gazetteer

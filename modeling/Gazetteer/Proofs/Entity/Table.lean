import Gazetteer.Proofs.Entity.Rows

/-!
The records of a table, exactly.  Every record is what the last cells of its row say, and a table is refused for its first bad
cell, row after row.
-/

namespace Gazetteer

theorem map_fst_zip_sublist {α β : Type} (xs : List α) (ys : List β) : ((xs.zip ys).map (·.1)).Sublist xs := by
  rw [List.zip_eq_zip_take_min, List.map_fst_zip (by simp)]
  exact List.take_sublist _ xs

namespace Table

open Entity

variable {t u : Table} {e : QueryError}

def cells (t : Table) : List (String × Json) := t.rows.flatMap t.columns.zip

/-- A table is refused for its first bad cell; without one each row has its record. -/
theorem records_cases (t : Table) :
    (∃ records, t.records = .ok records ∧ (∀ cell ∈ t.cells, ∀ e, ¬ IsBad cell e) ∧
      List.Forall₂ (fun row (record : Record) => record.IsRead (t.columns.zip row)) t.rows records) ∨
      ∃ e, t.records = .error e ∧ FirstBad t.cells e := by
  rw [records, cells]
  induction t.rows with
  | nil => exact .inl ⟨[], rfl, by simp, .nil⟩
  | cons row rows ih =>
    rw [mapM_cons_eq, List.flatMap_cons]
    obtain ⟨record, read, good, after⟩ | ⟨e, unread, first⟩ := Record.foldlM_setCell_cases (t.columns.zip row) {}
    · rw [readRow, read]
      obtain ⟨others, others_read, others_good, all_read⟩ | ⟨e, unread, first⟩ := ih
      · rw [others_read]
        exact .inl ⟨record :: others, rfl, List.forall_mem_append.mpr ⟨good, others_good⟩,
          .cons (Record.isAfter_iff.mp after) all_read⟩
      · rw [unread]
        exact .inr ⟨e, rfl, first.behind good⟩
    · rw [readRow, unread]
      exact .inr ⟨e, rfl, first.append _⟩

theorem records_eq_of_rows
    (same : List.Forall₂ (fun row other => readRow t.columns row = readRow u.columns other) t.rows u.rows) :
    t.records = u.records := by
  rw [records, records]
  generalize t.rows = rows at same
  generalize u.rows = others at same
  induction same with
  | nil => rfl
  | cons first _ ih => rw [mapM_cons_eq, mapM_cons_eq, first, ih]

/-- The records of a table are exactly what its cells say.  A table has them unless a cell under the geometry is none, and the
first such cell is its error.  Cells without a field do not count, nor does the order of distinct columns. -/
theorem records_exact (t : Table) :
    ((∃ records, t.records = .ok records) ↔ ∀ cell ∈ t.cells, ∀ e, ¬ IsBad cell e) ∧
    (∀ records, t.records = .ok records ↔ (∀ cell ∈ t.cells, ∀ e, ¬ IsBad cell e) ∧
      List.Forall₂ (fun row (record : Record) => record.IsRead (t.columns.zip row)) t.rows records) ∧
    (∀ e, t.records = .error e ↔ FirstBad t.cells e) ∧
    (∀ u : Table, List.Forall₂ (fun row other => listed (t.columns.zip row) = listed (u.columns.zip other)) t.rows u.rows →
      u.records = t.records) ∧
    (t.columns.Nodup → ∀ u : Table,
      List.Forall₂ (fun row other => (t.columns.zip row).Perm (u.columns.zip other)) t.rows u.rows →
      u.records = t.records) := by
  have bad_first : ∀ {e}, FirstBad t.cells e → ¬ ∀ cell ∈ t.cells, ∀ e, ¬ IsBad cell e := by
    intro e first good
    obtain ⟨cell, member, bad⟩ := first.exists_bad
    exact good cell member e bad
  refine ⟨?_, fun records => ?_, fun e => ?_, fun u same => ?_, fun distinct u same => ?_⟩
  · obtain ⟨found, read, good, -⟩ | ⟨e, unread, first⟩ := t.records_cases
    · exact iff_of_true ⟨found, read⟩ good
    · refine iff_of_false ?_ (bad_first first)
      rintro ⟨records, read⟩
      rw [unread] at read
      cases read
  · obtain ⟨found, read, good, all_read⟩ | ⟨e, unread, first⟩ := t.records_cases
    · rw [read, and_iff_right good]
      refine ⟨fun same => Except.ok.inj same ▸ all_read, fun also => ?_⟩
      rw [List.right_unique_forall₂' Record.IsRead.rightUnique all_read also]
    · rw [unread]
      exact iff_of_false nofun fun described => bad_first first described.1
  · obtain ⟨found, read, good, -⟩ | ⟨other, unread, first⟩ := t.records_cases
    · rw [read]
      exact iff_of_false nofun fun first => bad_first first good
    · rw [unread]
      exact ⟨fun same => Except.error.inj same ▸ first, fun also => congrArg Except.error (first.unique also)⟩
  · refine (records_eq_of_rows (same.imp fun row other cells => ?_)).symm
    rw [readRow, readRow, ← Record.foldlM_setCell_listed, cells, Record.foldlM_setCell_listed]
  · refine (records_eq_of_rows (same.imp fun row other cells => ?_)).symm
    exact Record.foldlM_setCell_perm cells (distinct.sublist (map_fst_zip_sublist t.columns row)) {}

/-- A null takes back what stood before it, and a cell without a column is passed over. -/
example : records ⟨["entity", "name", "entity"], [[.nat 1, .text "a", .null, .nat 2]]⟩ =
    .ok [{ name := some (.text "a") }] := rfl

/-- A number is no geometry, whatever stands under a later column of that name; columns that change places do not count. -/
theorem records_of_two_columns :
    FirstBad (cells ⟨["geojson", "geojson"], [[.nat 1, .null]]⟩)
        (.malformed cellReader (.geojsonValue (.number (.integer 1)))) ∧
      records ⟨["geojson", "geojson"], [[.nat 1, .null]]⟩ =
        .error (.malformed cellReader (.geojsonValue (.number (.integer 1)))) ∧
      ["entity", "name"].Nodup ∧
      records ⟨["name", "entity"], [[.text "a", .nat 1]]⟩ = records ⟨["entity", "name"], [[.nat 1, .text "a"]]⟩ := by
  have bad : IsBad ("geojson", .nat 1) (.malformed cellReader (.geojsonValue (.number (.integer 1)))) :=
    ⟨rfl, _, .number _, rfl⟩
  have first : FirstBad (cells ⟨["geojson", "geojson"], [[.nat 1, .null]]⟩) _ := .here bad
  have distinct : ["entity", "name"].Nodup := by decide
  obtain ⟨-, -, refused, -, -⟩ := records_exact ⟨["geojson", "geojson"], [[.nat 1, .null]]⟩
  obtain ⟨-, -, -, -, swapped⟩ := records_exact ⟨["entity", "name"], [[.nat 1, .text "a"]]⟩
  exact ⟨first, (refused _).mpr first, distinct, swapped distinct _ (.cons (.swap _ _ _) .nil)⟩

end Table

end Gazetteer

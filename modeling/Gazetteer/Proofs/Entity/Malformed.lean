import Gazetteer.Entity.Count
import Gazetteer.Proofs.Entity.Rows

/-!
Errors of readers.  Whatever cell of a table cannot be read, and however deep in the reading that shows, the error
is that of a malformed response.
-/

namespace Gazetteer

def QueryError.IsMalformed (e : QueryError) : Prop := ∃ backend defect, e = .malformed backend defect

theorem isMalformed_of_eq {α : Type} {backend : String} {defect : Defect} {e : QueryError}
    (same : (.error (.malformed backend defect) : Except QueryError α) = .error e) : e.IsMalformed :=
  ⟨backend, defect, (Except.error.inj same).symm⟩

/-- The error of a result that a function is mapped over is that of the result. -/
theorem error_of_map {α β : Type} {f : α → β} {x : Except QueryError α} {e : QueryError}
    (failed : x.map f = .error e) : x = .error e := by
  cases x with
  | error first => exact congrArg Except.error (Except.error.inj failed)
  | ok value => cases failed

namespace Entity

variable {e : QueryError}

theorem readCount_error {cell : Option Json} (unread : readCount cell = .error e) : e.IsMalformed := by
  unfold readCount at unread
  split at unread
  · cases unread
  · cases unread
  · split at unread
    · cases unread
    · exact isMalformed_of_eq unread

theorem foldlM_setCell_error {cells : List (String × Json)} {r : Record}
    (unread : cells.foldlM Record.setCell r = .error e) : e.IsMalformed := by
  obtain ⟨s, read, -⟩ | ⟨other, also, first⟩ := Record.foldlM_setCell_cases cells r
  · rw [unread] at read
    cases read
  · obtain rfl : e = other := Except.error.inj (unread.symm.trans also)
    obtain ⟨cell, -, -, defect, -, rfl⟩ := first.exists_bad
    exact ⟨_, defect, rfl⟩

end Entity

namespace Table

variable {t : Table} {e : QueryError}

theorem count_error {column : String} (unread : t.count column = .error e) : e.IsMalformed := by
  unfold count at unread
  split at unread
  · cases unread
  · exact Entity.readCount_error unread

theorem records_error (unread : t.records = .error e) : e.IsMalformed := by
  obtain ⟨-, row, -, -, -, first⟩ := t.records_eq_error_iff.mp unread
  exact Entity.foldlM_setCell_error first

theorem datasetCounts_error {column : String} (unread : t.datasetCounts column = .error e) : e.IsMalformed := by
  obtain ⟨-, named, -, -, -, first⟩ := mapM_eq_error_iff.mp unread
  exact Entity.readCount_error (error_of_map first)

end Table

end Gazetteer

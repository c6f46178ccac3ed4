import Mathlib.Data.List.Forall2
import Gazetteer.Proofs.Entity.Cells

/-!
The records of a table are those of its rows, one for each in their order.  The first row that cannot be read
decides the error of the whole.
-/

namespace Gazetteer

section mapM

variable {ε α β : Type} {f : α → Except ε β}

theorem mapM_cons_eq (x : α) (xs : List α) :
    (x :: xs).mapM f = (f x).bind fun y => (xs.mapM f).bind fun rest => Except.ok (y :: rest) := List.mapM_cons

theorem mapM_eq_ok_iff {xs : List α} {ys : List β} :
    xs.mapM f = .ok ys ↔ List.Forall₂ (fun x y => f x = .ok y) xs ys := by
  induction xs generalizing ys with
  | nil =>
    rw [List.forall₂_nil_left_iff]
    exact ⟨fun same => (Except.ok.inj same).symm, fun same => congrArg Except.ok same.symm⟩
  | cons x xs ih =>
    rw [mapM_cons_eq, List.forall₂_cons_left_iff]
    cases head : f x with
    | error e => simp [Except.bind]
    | ok y =>
      cases tail : xs.mapM f with
      | error e => simp [Except.bind, ← ih, tail]
      | ok rest => simp [Except.bind, ← ih, tail, eq_comm]

theorem exists_of_mapM_eq_ok {xs : List α} {ys : List β} (read : xs.mapM f = .ok ys) : ∀ x ∈ xs, ∃ y, f x = .ok y := by
  have each := mapM_eq_ok_iff.mp read
  clear read
  induction each with
  | nil => nofun
  | cons first _ ih => exact List.forall_mem_cons.mpr ⟨⟨_, first⟩, ih⟩

/-- The error of a list is that of its first member that has one. -/
theorem mapM_eq_error_iff {xs : List α} {e : ε} :
    xs.mapM f = .error e ↔
      ∃ before x after, xs = before ++ x :: after ∧ (∀ b ∈ before, ∃ y, f b = .ok y) ∧ f x = .error e := by
  induction xs with
  | nil => simp [pure, Except.pure]
  | cons x xs ih =>
    rw [mapM_cons_eq]
    constructor
    · intro failed
      cases head : f x with
      | error first =>
        rw [head] at failed
        obtain rfl : first = e := Except.error.inj failed
        exact ⟨[], x, xs, rfl, by simp, head⟩
      | ok y =>
        have later : xs.mapM f = .error e := by
          rw [head] at failed
          cases tail : xs.mapM f with
          | error first => rw [tail] at failed; exact failed
          | ok rest => rw [tail] at failed; cases failed
        obtain ⟨before, z, after, rfl, read, unread⟩ := ih.mp later
        refine ⟨x :: before, z, after, rfl, ?_, unread⟩
        exact List.forall_mem_cons.mpr ⟨⟨y, head⟩, read⟩
    · rintro ⟨before, z, after, same, read, unread⟩
      cases before with
      | nil =>
        obtain ⟨rfl, rfl⟩ := List.cons.inj same
        rw [unread]
        rfl
      | cons first before =>
        obtain ⟨rfl, rfl⟩ := List.cons.inj same
        obtain ⟨⟨y, head⟩, rest⟩ := List.forall_mem_cons.mp read
        rw [head, ih.mpr ⟨before, z, after, rfl, rest, unread⟩]
        rfl

end mapM

/-! ### Cells -/

namespace Entity.Record

theorem setCell_entity {r s : Record} {cell : String × Json} (read : r.setCell cell = .ok s) :
    s.entity = if cell.1 = "entity" then cell? cell.2 else r.entity := by
  have decided := get?_setCell read .entity
  split at decided
  next same =>
    rw [if_pos (show cell.1 = "entity" from same.symm)]
    exact decided
  next different =>
    rw [if_neg (show cell.1 ≠ "entity" from Ne.symm different)]
    exact decided

/-- Where every cell of a number holds the same, it is the number of the record. -/
theorem entity_of_cells {value : Json} (some_value : cell? value = some value) {cells : List (String × Json)}
    (same : ∀ cell ∈ cells, cell.1 = "entity" → cell.2 = value) {r s : Record}
    (read : cells.foldlM setCell r = .ok s)
    (present : r.entity = some value ∨ "entity" ∈ cells.map (·.1)) : s.entity = some value := by
  induction cells generalizing r with
  | nil =>
    obtain rfl := Except.ok.inj read
    simpa using present
  | cons cell cells ih =>
    obtain ⟨here, later⟩ := List.forall_mem_cons.mp same
    rw [List.foldlM_cons] at read
    cases first : r.setCell cell with
    | error e => rw [first] at read; cases read
    | ok next =>
      rw [first] at read
      have number := setCell_entity first
      refine ih later read ?_
      by_cases numbered : cell.1 = "entity"
      · rw [if_pos numbered, here numbered, some_value] at number
        exact .inl number
      · rw [if_neg numbered] at number
        rw [List.map_cons, List.mem_cons] at present
        rcases present with kept | first_column | behind
        · exact .inl (number.trans kept)
        · exact absurd first_column.symm numbered
        · exact .inr behind

end Entity.Record

/-! ### Tables -/

namespace Table

theorem records_eq_ok_iff {t : Table} {records : List Entity.Record} :
    t.records = .ok records ↔
      List.Forall₂ (fun row record => Entity.readRow t.columns row = .ok record) t.rows records := mapM_eq_ok_iff

def FirstUnreadable (t : Table) (e : QueryError) : Prop :=
  ∃ before row after, t.rows = before ++ row :: after ∧
    (∀ r ∈ before, ∃ record, Entity.readRow t.columns r = .ok record) ∧ Entity.readRow t.columns row = .error e

theorem records_eq_error_iff {t : Table} {e : QueryError} : t.records = .error e ↔ t.FirstUnreadable e :=
  mapM_eq_error_iff

end Table

end Gazetteer

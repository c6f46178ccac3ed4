import Gazetteer.Datasette.Reply
import Mathlib.Algebra.Ring.Int.Defs
import Mathlib.Algebra.Ring.Nat

/-!
The range of whole numbers.  A significand never outgrows its 64 bits, so the whole numbers in a table that arrives have 64 bits,
with a sign or without one.
-/

namespace Gazetteer

namespace Json

/-- A whole number of 64 bits, or a double. -/
def Number.InRange : Json.Number → Prop
  | .integer n => -2 ^ 63 ≤ n ∧ n < 2 ^ 64
  | .double _ _ => True

theorem Significand.take_le {s : Significand} (room : s.value ≤ greatestNatural) (digit : Nat) :
    (s.take digit).value ≤ greatestNatural := by
  unfold take
  dsimp only
  split
  next fits =>
    rw [Bool.and_eq_true, decide_eq_true_eq, decide_eq_true_eq] at fits
    exact fits.2
  · exact room

theorem Significand.foldl_take_le {s : Significand} (room : s.value ≤ greatestNatural) (digits : List Nat) :
    (digits.foldl take s).value ≤ greatestNatural := by
  induction digits generalizing s with
  | nil => exact room
  | cons digit digits ih => exact ih (take_le room digit)

theorem Spelling.number?_inRange {s : Spelling} {n : Json.Number} (read : s.number? = some n) : n.InRange := by
  have room : (Significand.ofDigits 0 s.whole).value ≤ greatestNatural := Significand.foldl_take_le (Nat.zero_le _) s.whole
  unfold number? at read
  dsimp only at read
  generalize (Significand.ofDigits 0 s.whole) = whole at read room
  rw [greatestNatural] at room
  split at read
  · obtain ⟨size, -, rfl⟩ := Option.map_eq_some_iff.mp read
    trivial
  split at read
  · cases read
    exact ⟨by omega, by omega⟩
  split at read
  · obtain ⟨size, -, rfl⟩ := Option.map_eq_some_iff.mp read
    trivial
  next small =>
    cases read
    rw [Bool.or_eq_true, decide_eq_true_eq, decide_eq_true_eq, not_or] at small
    exact ⟨by omega, by omega⟩

theorem Tree.value?_inRange {depth : Nat} {t : Tree} {n : Json.Number} (read : t.value? depth = some (.number n)) :
    n.InRange := by
  cases t with
  | number spelling =>
    obtain ⟨number, spelled, same⟩ := Option.map_eq_some_iff.mp read
    cases same
    exact Spelling.number?_inRange spelled
  | null => cases read
  | bool value => cases read
  | string pieces =>
    obtain ⟨_, _, same⟩ := Option.map_eq_some_iff.mp read
    cases same
  | array items =>
    cases depth with
    | zero => cases read
    | succ depth =>
      obtain ⟨_, _, same⟩ := Option.map_eq_some_iff.mp read
      cases same
  | object members =>
    cases depth with
    | zero => cases read
    | succ depth =>
      obtain ⟨_, _, same⟩ := Option.map_eq_some_iff.mp read
      cases same

end Json

def Table.InRange (t : Table) : Prop := ∀ row ∈ t.rows, ∀ n, .number n ∈ row → n.InRange

namespace Datasette

open Json

theorem mem_of_mapM_eq_some {α β : Type} {f : α → Option β} {xs : List α} {ys : List β} (read : xs.mapM f = some ys) :
    ∀ y ∈ ys, ∃ x, f x = some y := by
  induction xs generalizing ys with
  | nil =>
    obtain rfl := Option.some.inj read
    nofun
  | cons x xs ih =>
    rw [List.mapM_cons] at read
    obtain ⟨first, here, read⟩ := Option.bind_eq_some_iff.mp read
    obtain ⟨rest, later, same⟩ := Option.bind_eq_some_iff.mp read
    obtain rfl := Option.some.inj same
    exact List.forall_mem_cons.mpr ⟨⟨x, here⟩, ih later⟩

theorem mem_of_list? {α : Type} {read? : Tree → Option α} {t : Tree} {values : List α} (read : t.list? read? = some values) :
    ∀ value ∈ values, ∃ part, read? part = some value := by
  cases t with
  | array items => exact mem_of_mapM_eq_some read
  | null | bool | number | string | object => cases read

theorem tableOfTree?_inRange {tree : Tree} {t : Table} (read : tableOfTree? tree = some t) : t.InRange := by
  unfold tableOfTree? at read
  split at read
  next columns rows _ =>
    obtain ⟨names, -, read⟩ := Option.bind_eq_some_iff.mp read
    obtain ⟨cells, spelled, rfl⟩ := Option.map_eq_some_iff.mp read
    intro row member n cell
    cases rows with
    | none =>
      obtain rfl := Option.some.inj spelled
      cases member
    | some rows =>
      obtain ⟨part, items⟩ := mem_of_list? spelled row member
      obtain ⟨part, value⟩ := mem_of_list? items _ cell
      exact Tree.value?_inRange value
  · cases read

theorem readReply_inRange {status : Nat} {body : List UInt8} {t : Table} (read : readReply status body = .ok t) :
    t.InRange := by
  unfold readReply at read
  split at read
  · cases read
  split at read
  · cases read
  split at read
  next table =>
    obtain rfl := Except.ok.inj read
    obtain ⟨tree, -, table⟩ := Option.bind_eq_some_iff.mp table
    exact tableOfTree?_inRange table
  · cases read

end Datasette

end Gazetteer

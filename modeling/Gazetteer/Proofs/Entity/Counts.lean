import Gazetteer.Entity.Count
import Gazetteer.Proofs.Entity.Rows
import Gazetteer.Proofs.Entity.Range
import Gazetteer.Proofs.Text.Numeral

/-!
The counts in a table.  A cell counts what it says as a natural number of 64 bits, in JSON or in figures, and nothing where it is
missing or null; nothing else is taken for a number.
-/

namespace Gazetteer

namespace Entity

/-! ### Cells -/

inductive Counts : Option Json → Nat → Prop
  | missing : Counts none 0
  | null : Counts (some .null) 0
  | number {n : Nat} (bits : n < 2 ^ 64) : Counts (some (.number (.integer n))) n
  | text {s : String} {n : Nat} (figures : Text.IsNatural (Text.trimChars s.toList) n) (bits : n < 2 ^ 64) :
    Counts (some (.text s)) n

def Miscounts (cell : Option Json) (e : QueryError) : Prop :=
  (∀ n, ¬ Counts cell n) ∧ ∃ value, cell = some value ∧ e = .malformed "entity" (.count value)

/-- A cell holds a name: its text, or the JSON of a value that is no text. -/
inductive Names : Option Json → String → Prop
  | text (s : String) : Names (some (.text s)) s
  | other {value : Json} (present : value ≠ .null) (no_text : ∀ s, value ≠ .text s) : Names (some value) value.render

def InRange (cell : Option Json) : Prop := ∀ n, cell = some (.number n) → n.InRange

variable {cell : Option Json} {m n : Nat} {e : QueryError}

theorem le_greatestCount_iff : n ≤ greatestCount ↔ n < 2 ^ 64 := by
  rw [greatestCount]
  omega

theorem readCount_some {value : Json} (present : value ≠ .null) :
    readCount (some value) =
      match countValue? value with
      | some n => .ok n
      | none => .error (.malformed cellReader (.count value)) := by
  cases value with
  | null => exact absurd rfl present
  | bool | number | text | array | object => rfl

theorem Counts.read (counts : Counts cell n) : readCount cell = .ok n := by
  cases counts with
  | missing => rfl
  | null => rfl
  | number bits =>
    have natural : countValue? (.number (.integer n)) = some n := by
      rw [countValue?, if_pos (Int.natCast_nonneg n), Int.toNat_natCast]
    rw [readCount_some Json.noConfusion, natural]
  | @text s n figures bits =>
    have natural : countValue? (.text s) = some n :=
      Text.readNatural_toOption_eq_some_iff.mpr ⟨figures, le_greatestCount_iff.mpr bits⟩
    rw [readCount_some Json.noConfusion, natural]

theorem counts_of_countValue? {value : Json} (range : InRange (some value)) (read : countValue? value = some n) :
    Counts (some value) n := by
  unfold countValue? at read
  split at read
  next k =>
    split at read
    next natural =>
      obtain rfl := Option.some.inj read
      obtain ⟨-, bits⟩ := range _ rfl
      have same : Json.number (.integer k) = .number (.integer k.toNat) := by rw [Int.toNat_of_nonneg natural]
      rw [same]
      exact .number (by omega)
    · cases read
  next s =>
    obtain ⟨figures, small⟩ := Text.readNatural_toOption_eq_some_iff.mp read
    exact .text figures (le_greatestCount_iff.mp small)
  · cases read

/-- Every cell counts something and is read as that, or it is refused. -/
theorem readCount_cases (range : InRange cell) :
    (∃ n, Counts cell n ∧ readCount cell = .ok n) ∨ ∃ e, Miscounts cell e ∧ readCount cell = .error e := by
  rcases cell with _ | value
  · exact .inl ⟨0, .missing, rfl⟩
  by_cases absent : value = .null
  · subst absent
    exact .inl ⟨0, .null, rfl⟩
  rw [readCount_some absent]
  cases read : countValue? value with
  | some n => exact .inl ⟨n, counts_of_countValue? range read, rfl⟩
  | none =>
    refine .inr ⟨_, ⟨?_, value, rfl, rfl⟩, rfl⟩
    intro n counts
    have found := counts.read
    rw [readCount_some absent, read] at found
    cases found

theorem readCount_eq_ok_iff (range : InRange cell) : readCount cell = .ok n ↔ Counts cell n := by
  refine ⟨fun read => ?_, Counts.read⟩
  obtain ⟨m, counts, found⟩ | ⟨e, -, unread⟩ := readCount_cases range
  · rw [found] at read
    exact Except.ok.inj read ▸ counts
  · rw [unread] at read
    cases read

theorem readCount_eq_error_iff (range : InRange cell) : readCount cell = .error e ↔ Miscounts cell e := by
  obtain ⟨n, counts, read⟩ | ⟨first, miscounts, unread⟩ := readCount_cases range
  · rw [read]
    exact iff_of_false nofun fun refused => refused.1 n counts
  · rw [unread]
    obtain ⟨nothing, value, rfl, rfl⟩ := miscounts
    constructor
    · intro same
      exact ⟨nothing, value, rfl, (Except.error.inj same).symm⟩
    · rintro ⟨-, other, same, rfl⟩
      rw [Option.some.inj same]

/-! ### Names -/

def isPresent : Option Json → Bool
  | none | some .null => false
  | some _ => true

def label (cell : Option Json) : String := (cell.bind nameText?).getD ""

theorem nameText?_of_absent (absent : isPresent cell = false) : cell.bind nameText? = none := by
  rcases cell with _ | value
  · rfl
  cases value with
  | null => rfl
  | bool | number | text | array | object => cases absent

theorem nameText?_of_present (present : isPresent cell = true) : cell.bind nameText? = some (label cell) := by
  rcases cell with _ | value
  · cases present
  cases value with
  | null => cases present
  | bool | number | text | array | object => rfl

theorem names_iff (present : isPresent cell = true) {name : String} : Names cell name ↔ label cell = name := by
  constructor
  · intro names
    cases names with
    | text => rfl
    | @other value full no_text =>
      cases value with
      | null => exact absurd rfl full
      | text s => exact absurd rfl (no_text s)
      | bool | number | array | object => rfl
  · rintro rfl
    rcases cell with _ | value
    · cases present
    cases value with
    | null => cases present
    | text s => exact .text s
    | bool | number | array | object => exact .other nofun nofun

end Entity

namespace Table

open Entity

variable {t : Table} {column : String} {e : QueryError} {i j : Nat} {row : List Json} {rows : List (List Json)}

/-- The first column with a name, or where none has it, a fixed one. -/
def IsColumn (columns : List String) (name : String) (fallback i : Nat) : Prop :=
  (columns[i]? = some name ∧ ∀ j < i, columns[j]? ≠ some name) ∨ (name ∉ columns ∧ i = fallback)

theorem isColumn_columnIndex (t : Table) (name : String) (fallback : Nat) :
    IsColumn t.columns name fallback ((t.columnIndex? name).getD fallback) := by
  rw [columnIndex?]
  cases found : t.columns.findIdx? (· == name) with
  | none =>
    refine .inr ⟨fun member => ?_, rfl⟩
    have other := List.findIdx?_eq_none_iff.mp found name member
    exact absurd (beq_self_eq_true name) (Bool.eq_false_iff.mp other)
  | some i =>
    obtain ⟨inside, here, before⟩ := List.findIdx?_eq_some_iff_getElem.mp found
    refine .inl ⟨?_, fun j less same => ?_⟩
    · rw [Option.getD_some, List.getElem?_eq_getElem inside, eq_of_beq here]
    · obtain ⟨within, also⟩ := List.getElem?_eq_some_iff.mp same
      exact before j less (beq_iff_eq.mpr also)

theorem InRange.cell (range : t.InRange) (member : row ∈ t.rows) (i : Nat) : Entity.InRange row[i]? :=
  fun n same => range row member n (List.mem_of_getElem? same)

/-! ### Rows -/

def named (t : Table) (i : Nat) : List (List Json) := t.rows.filter fun row => isPresent row[i]?

/-- An entry says what its row does: a name in one column, and a count in another. -/
def Says (i j : Nat) (row : List Json) (entry : DatasetCount) : Prop :=
  Names row[i]? entry.dataset ∧ Counts row[j]? entry.count

def FirstMiscounted (rows : List (List Json)) (j : Nat) (e : QueryError) : Prop :=
  ∃ before row after, rows = before ++ row :: after ∧ (∀ b ∈ before, ∃ n, Counts b[j]? n) ∧ Miscounts row[j]? e

def readEntry (i j : Nat) (row : List Json) : Except QueryError DatasetCount := readDatasetCount (label row[i]?, row[j]?)

theorem datasetCounts_eq (t : Table) (column : String) :
    t.datasetCounts column =
      (t.named ((t.columnIndex? "dataset").getD 0)).mapM
        (readEntry ((t.columnIndex? "dataset").getD 0) ((t.columnIndex? column).getD 1)) := by
  rw [datasetCounts, named, namedCells]
  generalize (t.columnIndex? "dataset").getD 0 = i
  generalize (t.columnIndex? column).getD 1 = j
  induction t.rows with
  | nil => rfl
  | cons row rows ih =>
    cases present : isPresent row[i]? with
    | false =>
      rw [List.filter_cons_of_neg (by simp [present]), List.filterMap_cons_none (by rw [nameText?_of_absent present]; rfl)]
      exact ih
    | true =>
      rw [List.filter_cons_of_pos (by simp [present]), List.filterMap_cons_some (by rw [nameText?_of_present present]; rfl),
        mapM_cons_eq, mapM_cons_eq, ih]
      rfl

theorem readEntry_eq_ok_iff {entry : DatasetCount} (present : isPresent row[i]? = true)
    (range : Entity.InRange row[j]?) : readEntry i j row = .ok entry ↔ Says i j row entry := by
  rw [readEntry, readDatasetCount, Says, names_iff present, ← readCount_eq_ok_iff range]
  obtain ⟨name, count⟩ := entry
  cases readCount row[j]? with
  | error e => exact iff_of_false nofun nofun
  | ok n => simp [Except.map]

theorem readEntry_eq_error_iff (range : Entity.InRange row[j]?) :
    readEntry i j row = .error e ↔ Miscounts row[j]? e := by
  rw [readEntry, readDatasetCount, ← readCount_eq_error_iff range]
  cases readCount row[j]? with
  | error first => exact ⟨fun same => congrArg _ (Except.error.inj same), fun same => congrArg _ (Except.error.inj same)⟩
  | ok n => exact iff_of_false nofun nofun

theorem exists_readEntry_iff (range : Entity.InRange row[j]?) :
    (∃ entry, readEntry i j row = .ok entry) ↔ ∃ n, Counts row[j]? n := by
  simp only [readEntry, readDatasetCount, ← readCount_eq_ok_iff range]
  cases readCount row[j]? with
  | error e => exact iff_of_false nofun nofun
  | ok n => exact iff_of_true ⟨_, rfl⟩ ⟨_, rfl⟩

theorem mapM_readEntry_eq_ok_iff {counts : List DatasetCount}
    (good : ∀ row ∈ rows, isPresent row[i]? = true ∧ Entity.InRange row[j]?) :
    rows.mapM (readEntry i j) = .ok counts ↔ List.Forall₂ (Says i j) rows counts := by
  rw [mapM_eq_ok_iff]
  constructor
  · intro read
    exact ((List.forall₂_and_left _ _).mpr ⟨good, read⟩).imp fun row entry one => (readEntry_eq_ok_iff one.1.1 one.1.2).mp one.2
  · intro told
    exact ((List.forall₂_and_left _ _).mpr ⟨good, told⟩).imp fun row entry one => (readEntry_eq_ok_iff one.1.1 one.1.2).mpr one.2

theorem mapM_readEntry_eq_error_iff (range : ∀ row ∈ rows, Entity.InRange row[j]?) :
    rows.mapM (readEntry i j) = .error e ↔ FirstMiscounted rows j e := by
  rw [mapM_eq_error_iff, FirstMiscounted]
  refine exists_congr fun before => exists_congr fun row => exists_congr fun after => and_congr_right ?_
  rintro rfl
  have here := range row (List.mem_append_right _ List.mem_cons_self)
  refine and_congr (forall₂_congr fun b member => ?_) (readEntry_eq_error_iff here)
  exact exists_readEntry_iff (range b (List.mem_append_left _ member))

/-! ### Tables -/

theorem IsColumn.unique {columns : List String} {name : String} {fallback : Nat} (column : IsColumn columns name fallback i)
    (also : IsColumn columns name fallback j) : i = j := by
  rcases column with ⟨here, first⟩ | ⟨absent, rfl⟩
  · rcases also with ⟨there, before⟩ | ⟨absent, -⟩
    · rcases Nat.lt_trichotomy i j with less | same | more
      · exact absurd here (before i less)
      · exact same
      · exact absurd there (first j more)
    · exact absurd (List.mem_of_getElem? here) absent
  · rcases also with ⟨there, -⟩ | ⟨-, rfl⟩
    · exact absurd (List.mem_of_getElem? there) absent
    · rfl

/-- The cell of a count: that of the first row under a column, or else its first one. -/
def IsCountCell (t : Table) (column : String) (cell : Option Json) : Prop :=
  ∃ i, IsColumn t.columns column 0 i ∧ cell = t.rows.head?.bind fun row => row[i]?

theorem count_eq (t : Table) (column : String) :
    t.count column = readCount (t.rows.head?.bind fun row => row[(t.columnIndex? column).getD 0]?) := by
  rw [count]
  cases t.rows <;> rfl

theorem IsCountCell.count_eq {cell : Option Json} (counted : t.IsCountCell column cell) : t.count column = readCount cell := by
  obtain ⟨i, place, rfl⟩ := counted
  rw [Table.count_eq, (isColumn_columnIndex t column 0).unique place]

theorem InRange.head (range : t.InRange) (i : Nat) : Entity.InRange (t.rows.head?.bind fun row => row[i]?) := by
  intro n same
  obtain ⟨row, first, cell⟩ := Option.bind_eq_some_iff.mp same
  exact range row (List.mem_of_head? first) n (List.mem_of_getElem? cell)

theorem InRange.named (range : t.InRange) (i j : Nat) (member : row ∈ t.named i) :
    isPresent row[i]? = true ∧ Entity.InRange row[j]? := by
  obtain ⟨member, present⟩ := List.mem_filter.mp member
  exact ⟨present, range.cell member j⟩

theorem exists_error_iff (range : ∀ row ∈ rows, Entity.InRange row[j]?) :
    (∃ e, rows.mapM (readEntry i j) = .error e) ↔ ∃ row ∈ rows, ∀ n, ¬ Counts row[j]? n := by
  constructor
  · rintro ⟨e, refused⟩
    obtain ⟨before, row, after, rfl, -, nothing, -⟩ := (mapM_readEntry_eq_error_iff range).mp refused
    exact ⟨row, List.mem_append_right _ List.mem_cons_self, nothing⟩
  · rintro ⟨row, member, nothing⟩
    cases read : rows.mapM (readEntry i j) with
    | error e => exact ⟨e, rfl⟩
    | ok counts =>
      obtain ⟨n, counted⟩ := (exists_readEntry_iff (range row member)).mp (exists_of_mapM_eq_ok read row member)
      exact absurd counted (nothing n)

/-- Rows without a name are passed over, whatever else stands in them.  The others have one entry each, with the name and the
exact count, unless one of them counts nothing, and then the first such row has the error.  A single count is that of its cell
alone. -/
theorem counts_decoded :
    (∀ status body t, Datasette.readReply status body = .ok t → t.InRange) ∧
    ∀ t : Table, t.InRange → ∀ column,
      (∃ i j, IsColumn t.columns "dataset" 0 i ∧ IsColumn t.columns column 1 j ∧
        (∀ counts, t.datasetCounts column = .ok counts ↔ List.Forall₂ (Says i j) (t.named i) counts) ∧
        (∀ e, t.datasetCounts column = .error e ↔ FirstMiscounted (t.named i) j e) ∧
        ((∃ e, t.datasetCounts column = .error e) ↔ ∃ row ∈ t.named i, ∀ n, ¬ Counts row[j]? n)) ∧
      ∃ cell, t.IsCountCell column cell ∧
        (∀ n, t.count column = .ok n ↔ Counts cell n) ∧
        (∀ e, t.count column = .error e ↔ Miscounts cell e) ∧
        ∀ (u : Table) (other : String), u.IsCountCell other cell → u.count other = t.count column := by
  refine ⟨fun status body t => Datasette.readReply_inRange, fun t range column => ⟨?_, ?_⟩⟩
  · refine ⟨_, _, isColumn_columnIndex t "dataset" 0, isColumn_columnIndex t column 1, ?_⟩
    rw [datasetCounts_eq]
    generalize (t.columnIndex? "dataset").getD 0 = i
    generalize (t.columnIndex? column).getD 1 = j
    have cells : ∀ row ∈ t.named i, Entity.InRange row[j]? := fun row member => (range.named i j member).2
    exact ⟨fun counts => mapM_readEntry_eq_ok_iff fun row => range.named i j, fun e => mapM_readEntry_eq_error_iff cells,
      exists_error_iff cells⟩
  · have counted : t.IsCountCell column _ := ⟨_, isColumn_columnIndex t column 0, rfl⟩
    refine ⟨_, counted, ?_⟩
    rw [counted.count_eq]
    exact ⟨fun n => readCount_eq_ok_iff (range.head _), fun e => readCount_eq_error_iff (range.head _),
      fun u other same => same.count_eq⟩

/-- A row without a name, whose count is none; the greatest count, in figures; and a number for a name, without a count. -/
def unevenTable : Table :=
  ⟨["dataset", "n"], [[.null, .bool true], [.text "a", .text " +18446744073709551615 "], [.nat 5]]⟩

theorem unevenTable_counts :
    Datasette.readReply 200 (Text.Utf8.bytes "[[],[[0]]]") = .ok ⟨[], [[.nat 0]]⟩ ∧ InRange ⟨[], [[.nat 0]]⟩ ∧
      unevenTable.InRange ∧
      unevenTable.datasetCounts "n" = .ok [⟨"a", 2 ^ 64 - 1⟩, ⟨"5", 0⟩] ∧
      (∃ i j, List.Forall₂ (Says i j) (unevenTable.named i) [⟨"a", 2 ^ 64 - 1⟩, ⟨"5", 0⟩]) ∧
      unevenTable.count "n" = .error (.malformed "entity" (.count (.bool true))) ∧
      ∃ cell, Miscounts cell (.malformed "entity" (.count (.bool true))) := by
  have arrived : Datasette.readReply 200 (Text.Utf8.bytes "[[],[[0]]]") = .ok ⟨[], [[.nat 0]]⟩ := rfl
  have range : unevenTable.InRange := by
    intro row member n cell
    simp only [unevenTable, List.mem_cons, List.not_mem_nil, or_false] at member
    rcases member with rfl | rfl | rfl
    · simp at cell
    · simp at cell
    · simp only [Json.nat, List.mem_singleton, Json.number.injEq] at cell
      subst cell
      exact ⟨by decide, by decide⟩
  obtain ⟨⟨i, j, -, -, entries, -⟩, cell, -, -, refused, -⟩ := counts_decoded.2 unevenTable range "n"
  exact ⟨arrived, counts_decoded.1 _ _ _ arrived, range, rfl, ⟨i, j, (entries _).mp rfl⟩, rfl, cell, (refused _).mp rfl⟩

end Table

end Gazetteer

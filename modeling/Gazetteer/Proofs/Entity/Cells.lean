import Gazetteer.Entity.Record
import Mathlib.Data.List.Nodup
import Mathlib.Logic.Relator

/-!
What becomes of the cells of a row.  The last cell under a column decides its part of the record, whatever stands before it, and a
row is refused for the first cell that stands under the geometry and is none.
-/

namespace Gazetteer

namespace Entity

/-! ### Geometries -/

/-- A cell stands for a geometry: null and blank texts for none. -/
inductive Spells : Json → Json → Prop
  | null : Spells .null (.object [])
  | blank {s : String} (empty : Text.blank s = true) : Spells (.text s) (.object [])
  | text {s : String} {value : Json} (full : Text.blank s = false) (parsed : Json.parse? s = some value) :
    Spells (.text s) value
  | object (fields : List (String × Json)) : Spells (.object fields) (.object fields)

inductive Misspells : Json → Defect → Prop
  | bool (value : Bool) : Misspells (.bool value) (.geojsonValue (.bool value))
  | number (value : Json.Number) : Misspells (.number value) (.geojsonValue (.number value))
  | array (items : List Json) : Misspells (.array items) (.geojsonValue (.array items))
  | text {s : String} (full : Text.blank s = false) (unparsed : Json.parse? s = none) :
    Misspells (.text s) .geojsonText

/-- Every cell stands for a geometry or for none, and is read as that. -/
theorem readGeojson_cases (cell : Json) :
    (∃ geometry, Spells cell geometry ∧ readGeojson cell = .ok geometry) ∨
      ∃ defect, Misspells cell defect ∧ readGeojson cell = .error (.malformed cellReader defect) := by
  cases cell with
  | null => exact .inl ⟨_, .null, rfl⟩
  | bool value => exact .inr ⟨_, .bool value, rfl⟩
  | number value => exact .inr ⟨_, .number value, rfl⟩
  | array items => exact .inr ⟨_, .array items, rfl⟩
  | object fields => exact .inl ⟨_, .object fields, rfl⟩
  | text s =>
    rw [readGeojson]
    cases empty : Text.blank s with
    | true => exact .inl ⟨_, .blank empty, rfl⟩
    | false =>
      cases parsed : Json.parse? s with
      | some value => exact .inl ⟨value, .text empty parsed, rfl⟩
      | none => exact .inr ⟨_, .text empty parsed, rfl⟩

theorem Spells.unique {cell geometry other : Json} (spells : Spells cell geometry) (also : Spells cell other) :
    geometry = other := by
  cases spells with
  | null => cases also; rfl
  | object => cases also; rfl
  | blank empty =>
    cases also with
    | blank => rfl
    | text full => rw [empty] at full; cases full
  | text full parsed =>
    cases also with
    | blank empty => rw [empty] at full; cases full
    | text _ again => exact Option.some.inj (parsed.symm.trans again)

theorem Misspells.unique {cell : Json} {defect other : Defect} (bad : Misspells cell defect)
    (also : Misspells cell other) : defect = other := by
  cases bad <;> cases also <;> rfl

theorem Spells.not_misspells {cell geometry : Json} {defect : Defect} (spells : Spells cell geometry) :
    ¬ Misspells cell defect := by
  intro bad
  cases spells with
  | null => cases bad
  | object => cases bad
  | blank empty => cases bad with | text full => rw [empty] at full; cases full
  | text _ parsed => cases bad with | text _ unparsed => rw [parsed] at unparsed; cases unparsed

theorem readGeojson_eq_ok_iff {cell geometry : Json} : readGeojson cell = .ok geometry ↔ Spells cell geometry := by
  obtain ⟨other, spells, read⟩ | ⟨defect, bad, read⟩ := readGeojson_cases cell
  · rw [read]
    exact ⟨fun same => Except.ok.inj same ▸ spells, fun also => congrArg Except.ok (spells.unique also)⟩
  · rw [read]
    exact ⟨nofun, fun spells => absurd bad spells.not_misspells⟩

theorem readGeojson_eq_error_iff {cell : Json} {e : QueryError} :
    readGeojson cell = .error e ↔ ∃ defect, Misspells cell defect ∧ e = .malformed cellReader defect := by
  obtain ⟨other, spells, read⟩ | ⟨defect, bad, read⟩ := readGeojson_cases cell
  · rw [read]
    refine ⟨nofun, ?_⟩
    rintro ⟨defect, bad, -⟩
    exact absurd bad spells.not_misspells
  · rw [read]
    constructor
    · intro same
      exact ⟨defect, bad, (Except.error.inj same).symm⟩
    · rintro ⟨other, also, rfl⟩
      rw [bad.unique also]

/-! ### One cell -/

def Field.Takes : Field → Json → Option Json → Prop
  | .geojson, cell, held => ∃ geometry, Spells cell geometry ∧ held = some geometry
  | _, cell, held => held = cell? cell

def IsBad (cell : String × Json) (e : QueryError) : Prop :=
  cell.1 = "geojson" ∧ ∃ defect, Misspells cell.2 defect ∧ e = .malformed cellReader defect

theorem Field.Takes.unique {field : Field} {cell : Json} {held other : Option Json} (takes : field.Takes cell held)
    (also : field.Takes cell other) : held = other := by
  cases field with
  | geojson =>
    obtain ⟨geometry, spells, rfl⟩ := takes
    obtain ⟨again, also_spells, rfl⟩ := also
    rw [spells.unique also_spells]
  | _ => exact Eq.trans takes (Eq.symm also)

theorem IsBad.unique {cell : String × Json} {e other : QueryError} (bad : IsBad cell e) (also : IsBad cell other) :
    e = other := by
  obtain ⟨-, defect, misspells, rfl⟩ := bad
  obtain ⟨-, again, also_misspells, rfl⟩ := also
  rw [misspells.unique also_misspells]

theorem Field.ofColumn?_eq_some_iff {column : String} {field : Field} :
    Field.ofColumn? column = some field ↔ field.column = column := by
  constructor
  · intro found
    simpa using List.find?_some found
  · rintro rfl
    exact Field.ofColumn?_column field

theorem Field.column_injective {field other : Field} (same : field.column = other.column) : field = other :=
  Option.some.inj ((Field.ofColumn?_column field).symm.trans (Field.ofColumn?_eq_some_iff.mpr same.symm))

namespace Record

variable {r s : Record} {cell : String × Json} {cells : List (String × Json)} {e : QueryError}

theorem ext_get? (same : ∀ field, r.get? field = s.get? field) : r = s := by
  cases r with
  | mk =>
    cases s with
    | mk =>
      exact (Record.mk.injEq ..).mpr ⟨same .dataset, same .entryDate, same .reference, same .entity, same .name,
        Option.some.inj (same .geojson), same .typology⟩

theorem set_eq_error_iff {value : Json} {field : Field} :
    r.set value field = .error e ↔ IsBad (field.column, value) e := by
  cases field with
  | geojson =>
    have here : IsBad (Field.geojson.column, value) e ↔ readGeojson value = .error e :=
      (and_iff_right rfl).trans readGeojson_eq_error_iff.symm
    rw [here, set]
    cases readGeojson value with
    | ok geometry => exact ⟨nofun, nofun⟩
    | error first => simp [Except.map]
  | _ => exact ⟨nofun, fun bad => absurd bad.1 (by simp [Field.column])⟩

theorem setCell_eq_error_iff : r.setCell cell = .error e ↔ IsBad cell e := by
  rw [setCell]
  cases found : Field.ofColumn? cell.1 with
  | some field =>
    rw [Field.ofColumn?_eq_some_iff] at found
    have named : cell = (field.column, cell.2) := by rw [found]
    rw [named]
    exact set_eq_error_iff
  | none =>
    refine ⟨nofun, ?_⟩
    rintro ⟨column, -⟩
    rw [column] at found
    exact absurd found (by decide)

theorem get?_set {value : Json} {field : Field} (read : r.set value field = .ok s) (other : Field) :
    if other = field then field.Takes value (s.get? field) else s.get? other = r.get? other := by
  cases field with
  | geojson =>
    simp only [set] at read
    cases geometry : readGeojson value with
    | error e => rw [geometry] at read; cases read
    | ok found =>
      rw [geometry] at read
      obtain rfl := Except.ok.inj read
      split
      · exact ⟨found, readGeojson_eq_ok_iff.mp geometry, rfl⟩
      · cases other <;> first | rfl | contradiction
  | _ =>
    obtain rfl := Except.ok.inj read
    split
    · rfl
    · cases other <;> first | rfl | contradiction

/-- A cell decides the field of its column and no other. -/
theorem get?_setCell (read : r.setCell cell = .ok s) (field : Field) :
    if field.column = cell.1 then field.Takes cell.2 (s.get? field) else s.get? field = r.get? field := by
  rw [setCell] at read
  cases found : Field.ofColumn? cell.1 with
  | none =>
    rw [found] at read
    obtain rfl := Except.ok.inj read
    have unlisted : field.column ≠ cell.1 := by
      intro same
      rw [Field.ofColumn?_eq_some_iff.mpr same] at found
      cases found
    rw [if_neg unlisted]
  | some own =>
    rw [found] at read
    rw [Field.ofColumn?_eq_some_iff] at found
    have one := get?_set read field
    rw [← found]
    split at one
    next same => rw [same, if_pos rfl]; exact one
    next different => rw [if_neg fun columns => different (Field.column_injective columns)]; exact one

/-! ### One row -/

end Record

def lastUnder (column : String) (cells : List (String × Json)) : Option Json := Json.lookup column cells.reverse

def listed (cells : List (String × Json)) : List (String × Json) :=
  cells.filter fun cell => Field.all.any (·.column == cell.1)

theorem lastUnder_cons (column : String) (cell : String × Json) (cells : List (String × Json)) :
    lastUnder column (cell :: cells) =
      (lastUnder column cells).or (if column = cell.1 then some cell.2 else none) := by
  rw [lastUnder, lastUnder, Json.lookup, Json.lookup, List.reverse_cons, List.find?_append]
  cases List.find? (·.1 == column) cells.reverse with
  | some found => rfl
  | none =>
    by_cases same : column = cell.1
    · simp [same]
    · simp [same, Ne.symm same]

theorem mem_of_lastUnder {cells : List (String × Json)} {column : String} {value : Json}
    (last : lastUnder column cells = some value) : (column, value) ∈ cells := by
  obtain ⟨cell, found, rfl⟩ := Option.map_eq_some_iff.mp last
  have named : cell.1 = column := by simpa using List.find?_some found
  rw [← named]
  exact List.mem_reverse.mp (List.mem_of_find?_eq_some found)

theorem lastUnder_eq_some_iff {cells : List (String × Json)} (distinct : (cells.map (·.1)).Nodup) {column : String}
    {value : Json} : lastUnder column cells = some value ↔ (column, value) ∈ cells := by
  refine ⟨mem_of_lastUnder, fun member => ?_⟩
  cases last : lastUnder column cells with
  | some other =>
    have one := List.inj_on_of_nodup_map distinct (mem_of_lastUnder last) member rfl
    exact congrArg some (congrArg Prod.snd one)
  | none =>
    have unfound := List.find?_eq_none.mp (Option.map_eq_none_iff.mp last) _ (List.mem_reverse.mpr member)
    simp at unfound

namespace Record

variable {r s : Record} {cells : List (String × Json)} {e : QueryError}

/-- The fields of a record are what the last cells of a row make of another one. -/
def IsAfter (s : Record) (cells : List (String × Json)) (r : Record) : Prop :=
  ∀ field : Field,
    (lastUnder field.column cells = none → s.get? field = r.get? field) ∧
    ∀ cell, lastUnder field.column cells = some cell → field.Takes cell (s.get? field)

theorem IsAfter.cons {cell : String × Json} {next : Record} (first : r.setCell cell = .ok next)
    (rest : s.IsAfter cells next) : s.IsAfter (cell :: cells) r := by
  intro field
  obtain ⟨kept, taken⟩ := rest field
  have here := get?_setCell first field
  rw [lastUnder_cons]
  cases last : lastUnder field.column cells with
  | some behind => exact ⟨nofun, fun found same => Option.some.inj same ▸ taken behind last⟩
  | none =>
    rw [kept last]
    split at here
    next same =>
      simp only [same, if_true, Option.none_or]
      exact ⟨nofun, fun found own => Option.some.inj own ▸ here⟩
    next different =>
      simp only [different, if_false, Option.none_or]
      exact ⟨fun _ => here, nofun⟩

/-- Cells determine what comes after them. -/
theorem IsAfter.unique {other : Record} (after : s.IsAfter cells r) (also : other.IsAfter cells r) : s = other := by
  refine ext_get? fun field => ?_
  obtain ⟨kept, taken⟩ := after field
  obtain ⟨also_kept, also_taken⟩ := also field
  cases last : lastUnder field.column cells with
  | none => rw [kept last, also_kept last]
  | some cell => exact (taken cell last).unique (also_taken cell last)

end Record

inductive FirstBad : List (String × Json) → QueryError → Prop
  | here {cell : String × Json} {rest : List (String × Json)} {e : QueryError} (bad : IsBad cell e) :
    FirstBad (cell :: rest) e
  | later {cell : String × Json} {rest : List (String × Json)} {e : QueryError} (good : ∀ e, ¬ IsBad cell e)
    (behind : FirstBad rest e) : FirstBad (cell :: rest) e

namespace FirstBad

variable {cells others : List (String × Json)} {e : QueryError}

theorem exists_bad (first : FirstBad cells e) : ∃ cell ∈ cells, IsBad cell e := by
  induction first with
  | here bad => exact ⟨_, List.mem_cons_self, bad⟩
  | later _ _ ih =>
    obtain ⟨cell, member, bad⟩ := ih
    exact ⟨cell, List.mem_cons_of_mem _ member, bad⟩

theorem append (first : FirstBad cells e) (others : List (String × Json)) : FirstBad (cells ++ others) e := by
  induction first with
  | here bad => exact .here bad
  | later good _ ih => exact .later good ih

theorem behind (good : ∀ cell ∈ cells, ∀ e, ¬ IsBad cell e) (first : FirstBad others e) :
    FirstBad (cells ++ others) e := by
  induction cells with
  | nil => exact first
  | cons cell cells ih =>
    obtain ⟨here, rest⟩ := List.forall_mem_cons.mp good
    exact .later here (ih rest)

theorem unique {other : QueryError} (first : FirstBad cells e) (also : FirstBad cells other) : e = other := by
  induction first with
  | here bad =>
    cases also with
    | here again => exact bad.unique again
    | later good => exact absurd bad (good _)
  | later good _ ih =>
    cases also with
    | here bad => exact absurd bad (good _)
    | later _ again => exact ih again

end FirstBad

namespace Record

variable {cells others : List (String × Json)}

/-- A row is refused for its first bad cell; without one its last cells decide. -/
theorem foldlM_setCell_cases (cells : List (String × Json)) (r : Record) :
    (∃ s, cells.foldlM setCell r = .ok s ∧ (∀ cell ∈ cells, ∀ e, ¬ IsBad cell e) ∧ s.IsAfter cells r) ∨
      ∃ e, cells.foldlM setCell r = .error e ∧ FirstBad cells e := by
  induction cells generalizing r with
  | nil => exact .inl ⟨r, rfl, by simp, fun field => ⟨fun _ => rfl, nofun⟩⟩
  | cons cell cells ih =>
    rw [List.foldlM_cons]
    cases first : r.setCell cell with
    | error e => exact .inr ⟨e, rfl, .here (setCell_eq_error_iff.mp first)⟩
    | ok next =>
      have good : ∀ e, ¬ IsBad cell e := by
        intro e bad
        rw [setCell_eq_error_iff.mpr bad] at first
        cases first
      obtain ⟨s, read, all_good, after⟩ | ⟨e, unread, first_bad⟩ := ih next
      · exact .inl ⟨s, read, List.forall_mem_cons.mpr ⟨good, all_good⟩, after.cons first⟩
      · exact .inr ⟨e, unread, .later good first_bad⟩

/-- Cells under columns that no field has are passed over. -/
theorem foldlM_setCell_listed (cells : List (String × Json)) (r : Record) :
    (listed cells).foldlM setCell r = cells.foldlM setCell r := by
  rw [listed, List.foldlM_filter]
  congr 1
  funext s cell
  split
  · rfl
  next unlisted =>
    have none_found : Field.ofColumn? cell.1 = none := by simpa [Field.ofColumn?] using unlisted
    rw [setCell, none_found]
    rfl

/-- Where no two cells share a column, their order does not count. -/
theorem foldlM_setCell_perm (same : cells.Perm others) (distinct : (cells.map (·.1)).Nodup) (r : Record) :
    cells.foldlM setCell r = others.foldlM setCell r := by
  have others_distinct : (others.map (·.1)).Nodup := (same.map (·.1)).nodup_iff.mp distinct
  obtain ⟨s, read, good, after⟩ | ⟨e, unread, first⟩ := foldlM_setCell_cases cells r
  · obtain ⟨t, other_read, -, other_after⟩ | ⟨e, -, other_first⟩ := foldlM_setCell_cases others r
    · have last : ∀ column, lastUnder column cells = lastUnder column others := by
        intro column
        ext value
        rw [lastUnder_eq_some_iff distinct, lastUnder_eq_some_iff others_distinct, same.mem_iff]
      have moved : t.IsAfter cells r := by
        intro field
        rw [last]
        exact other_after field
      rw [read, other_read, after.unique moved]
    · obtain ⟨cell, member, bad⟩ := other_first.exists_bad
      exact absurd bad (good cell (same.mem_iff.mpr member) e)
  · obtain ⟨cell, member, bad⟩ := first.exists_bad
    obtain ⟨t, -, other_good, -⟩ | ⟨e', other_unread, other_first⟩ := foldlM_setCell_cases others r
    · exact absurd bad (other_good cell (same.mem_iff.mp member) e)
    · obtain ⟨other, other_member, other_bad⟩ := other_first.exists_bad
      have one : cell = other := List.inj_on_of_nodup_map others_distinct (same.mem_iff.mp member) other_member
        (bad.1.trans other_bad.1.symm)
      rw [unread, other_unread, bad.unique (one ▸ other_bad)]

end Record

/-- A record is what a row says: each part of it is the last cell of its column, and a null is no part. -/
structure Record.IsRead (record : Record) (cells : List (String × Json)) : Prop where
  present : ∀ field : Field, field ≠ .geojson → ∀ cell, lastUnder field.column cells = some cell → cell ≠ .null →
    record.get? field = some cell
  absent : ∀ field : Field, field ≠ .geojson → (∀ cell, lastUnder field.column cells = some cell → cell = .null) →
    record.get? field = none
  geometry : ∀ cell, lastUnder "geojson" cells = some cell → Spells cell record.geojson
  no_geometry : lastUnder "geojson" cells = none → record.geojson = .object []

theorem Field.takes_iff {field : Field} (plain : field ≠ .geojson) {cell : Json} {held : Option Json} :
    field.Takes cell held ↔ (cell = .null → held = none) ∧ (cell ≠ .null → held = some cell) := by
  have own : field.Takes cell held ↔ held = cell? cell := by
    cases field with
    | geojson => exact absurd rfl plain
    | _ => exact Iff.rfl
  rw [own]
  cases cell <;> simp [cell?]

theorem Record.isAfter_iff {record : Record} {cells : List (String × Json)} :
    record.IsAfter cells {} ↔ record.IsRead cells := by
  have nothing : ∀ field : Field, field ≠ .geojson → ({} : Record).get? field = none := by
    intro field plain
    cases field with
    | geojson => exact absurd rfl plain
    | _ => rfl
  constructor
  · intro after
    refine ⟨fun field plain cell last full => ?_, fun field plain nulls => ?_, fun cell last => ?_, fun none_left => ?_⟩
    · exact ((Field.takes_iff plain).mp ((after field).2 cell last)).2 full
    · cases last : lastUnder field.column cells with
      | none => rw [(after field).1 last, nothing field plain]
      | some cell => exact ((Field.takes_iff plain).mp ((after field).2 cell last)).1 (nulls cell last)
    · obtain ⟨geometry, spells, held⟩ := (after .geojson).2 cell last
      exact Option.some.inj held ▸ spells
    · exact Option.some.inj ((after .geojson).1 none_left)
  · intro read field
    by_cases plain : field = .geojson
    · subst plain
      exact ⟨fun none_left => congrArg some (read.no_geometry none_left),
        fun cell last => ⟨_, read.geometry cell last, rfl⟩⟩
    · refine ⟨fun none_left => ?_, fun cell last => (Field.takes_iff plain).mpr ⟨fun null => ?_, fun full => ?_⟩⟩
      · rw [nothing field plain]
        exact read.absent field plain fun cell last => nomatch none_left.symm.trans last
      · exact read.absent field plain fun other also => Option.some.inj (also.symm.trans last) ▸ null
      · exact read.present field plain cell last full

theorem Record.IsRead.rightUnique {columns : List String} :
    Relator.RightUnique fun row (record : Record) => record.IsRead (columns.zip row) := by
  intro row record other read also
  exact (Record.isAfter_iff.mpr read).unique (Record.isAfter_iff.mpr also)

end Entity

end Gazetteer

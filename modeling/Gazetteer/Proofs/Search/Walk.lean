import Gazetteer.Proofs.Database.Answer

/-!
Walks over the pages of a search, each page behind the last record of the one before.  Over a database that stays
the same a walk meets every row that the filters ask for once, in the order of their numbers.
-/

namespace Gazetteer

open Sql

def Entity.Record.cursor? (r : Entity.Record) : Option String :=
  match r.entity with
  | some (.number (.integer n)) => some (toString n)
  | _ => none

/-- The pages of a search, after queries that were asked before, up to the first page without records. -/
inductive Search.Walk (backend : Backend) : List Query → Filters → List Page → Prop where
  | last {before f page asked} (run : (Search.page f).run backend before = (.ok page, asked))
    (empty : page.records = []) : Walk backend before f [page]
  | next {before f page asked record cursor pages} (run : (Search.page f).run backend before = (.ok page, asked))
    (last : page.records.getLast? = some record) (named : record.cursor? = some cursor)
    (rest : Walk backend (before ++ asked) { f with nextEntity := some cursor } pages) :
    Walk backend before f (page :: pages)

namespace Database

variable (db : Database)

/-! ### Rows behind a cursor -/

def left (f : Filters) : List JoinedRow := ordered (db.selected f .rows)

def OnTrack (f : Filters) : Prop := db.left f <:+ ordered (db.selected f .count)

theorem left_of_start {f : Filters} (start : f.nextEntity = none) : db.left f = ordered (db.selected f .count) := by
  have same : { f with nextEntity := none } = f := by rw [← start]
  have uncut := db.selected_uncut f
  rw [same] at uncut
  rw [left, uncut]

theorem left_behind (f : Filters) (n : Int) : db.left { f with nextEntity := some (toString n) } =
    (ordered (db.selected f .count)).filter fun row => n < row.number := by
  rw [left, selected_behind, ordered_filter (db.selected_distinct f .count)]

theorem Ascending.filter_behind {rows rest : List JoinedRow} {row : JoinedRow}
    (up : Ascending (rows ++ row :: rest)) :
    (rows ++ row :: rest).filter (fun other => row.number < other.number) = rest := by
  obtain ⟨-, behind, across⟩ := List.pairwise_append.mp up
  have none_before : rows.filter (fun other => row.number < other.number) = [] := by
    refine List.filter_eq_nil_iff.mpr fun other member => ?_
    have below := across other member row List.mem_cons_self
    simp only [decide_eq_true_eq]
    omega
  have all_after : rest.filter (fun other => row.number < other.number) = rest :=
    List.filter_eq_self.mpr fun other member => decide_eq_true (List.rel_of_pairwise_cons behind member)
  rw [List.filter_append, none_before, List.filter_cons_of_neg (by simp), all_after]
  rfl

/-- Behind the last row of a page are the rows that did not fit on it. -/
theorem left_behind_page {f : Filters} (track : db.OnTrack f) {row : JoinedRow}
    (last : ((db.left f).take f.limit).getLast? = some row) :
    db.left { f with nextEntity := some (toString row.number) } = (db.left f).drop f.limit := by
  obtain ⟨done, whole⟩ := track
  obtain ⟨page, same⟩ := List.getLast?_eq_some_iff.mp last
  have split : ordered (db.selected f .count) = (done ++ page) ++ row :: (db.left f).drop f.limit := by
    calc ordered (db.selected f .count) = done ++ db.left f := whole.symm
      _ = done ++ ((db.left f).take f.limit ++ (db.left f).drop f.limit) := by rw [List.take_append_drop]
      _ = (done ++ page) ++ row :: (db.left f).drop f.limit := by rw [same]; simp
  have up := db.selected_ascending f .count
  rw [left_behind, split]
  rw [split] at up
  exact up.filter_behind

theorem OnTrack.behind {f : Filters} (track : db.OnTrack f) {row : JoinedRow}
    (last : ((db.left f).take f.limit).getLast? = some row) :
    db.OnTrack { f with nextEntity := some (toString row.number) } := by
  have fewer : (db.left f).drop f.limit <:+ ordered (db.selected f .count) := (List.drop_suffix _ _).trans track
  rw [OnTrack, db.left_behind_page track last]
  exact fewer

/-! ### One page -/

theorem Reads.cursor {row : JoinedRow} {record : Entity.Record} (reads : db.Reads row record) :
    record.cursor? = some (toString row.number) := by
  rw [Entity.Record.cursor?, reads.entity]

/-- A page that is read holds the number of all rows, and of those behind the cursor as many as it may. -/
theorem page_of_run {before asked : List Query} {f : Filters} {page : Page}
    (run : (Search.page f).run db.backend before = (.ok page, asked)) :
    page.count = (db.selected f .count).length ∧
      List.Forall₂ db.Reads ((db.left f).take f.limit) page.records := by
  rw [Search.run_page] at run
  obtain ⟨-, count, reads⟩ := (db.paged_ok_iff before f).mp (Prod.mk.inj run).1
  exact ⟨count, reads⟩

theorem run_of_reads (before : List Query) {f : Filters} {records : List Entity.Record}
    (reads : List.Forall₂ db.Reads ((db.left f).take f.limit) records) :
    ∃ page asked, (Search.page f).run db.backend before = (.ok page, asked) ∧ page.records = records := by
  have paged : Search.paged db.backend before f = .ok ⟨f, (db.selected f .count).length, records⟩ :=
    (db.paged_ok_iff before f).mpr ⟨rfl, rfl, reads⟩
  refine ⟨⟨f, (db.selected f .count).length, records⟩, ((Search.page f).run db.backend before).2, Prod.ext ?_ rfl, rfl⟩
  rw [Search.run_page, paged]

theorem last_of_reads {rows : List JoinedRow} {records : List Entity.Record}
    (reads : List.Forall₂ db.Reads rows records) {record : Entity.Record} (last : records.getLast? = some record) :
    ∃ row, rows.getLast? = some row ∧ db.Reads row record := by
  induction reads with
  | nil => cases last
  | cons head tail ih =>
    cases tail with
    | nil =>
      obtain rfl := Option.some.inj last
      exact ⟨_, rfl, head⟩
    | cons second others =>
      rw [List.getLast?_cons_cons] at last ⊢
      exact ih last

/-! ### Walks -/

/-- The pages of a walk over rows: full pages and one without records, all with the same number on them. -/
structure Collected (limit total : Nat) (rows : List JoinedRow) (full : List Page) (last : Page) : Prop where
  each_row : List.Forall₂ db.Reads rows (full.flatMap (·.records))
  some_record : ∀ page ∈ full, page.records ≠ []
  filled : ∀ page ∈ full.dropLast, page.records.length = limit
  pages : full.length = (rows.length + limit - 1) / limit
  none_left : last.records = []
  counts : ∀ page ∈ full ++ [last], page.count = total

variable {db}

theorem Collected.nil {limit : Nat} (positive : 0 < limit) {last : Page} (none_left : last.records = []) :
    db.Collected limit last.count [] [] last where
  each_row := .nil
  some_record := by simp
  filled := by simp
  pages := by
    rw [List.length_nil, List.length_nil, Nat.zero_add, Nat.div_eq_of_lt]
    omega
  none_left := none_left
  counts := by simp

theorem Collected.cons {limit : Nat} (positive : 0 < limit) {rows : List JoinedRow} {full : List Page} {page last : Page}
    (reads : List.Forall₂ db.Reads (rows.take limit) page.records) (some_record : page.records ≠ [])
    (behind : db.Collected limit page.count (rows.drop limit) full last) :
    db.Collected limit page.count rows (page :: full) last where
  each_row := by
    have whole : List.Forall₂ db.Reads (rows.take limit ++ rows.drop limit)
        (page.records ++ full.flatMap (·.records)) := List.rel_append reads behind.each_row
    rwa [List.take_append_drop] at whole
  some_record := List.forall_mem_cons.mpr ⟨some_record, behind.some_record⟩
  filled := by
    cases full with
    | nil => simp
    | cons second others =>
      -- a record on the next page comes of a row that this page had no place for
      have further : 0 < second.records.length := List.length_pos_iff.mpr (behind.some_record second List.mem_cons_self)
      have here := reads.length_eq
      have there := behind.each_row.length_eq
      rw [List.length_take] at here
      rw [List.length_drop, List.flatMap_cons, List.length_append] at there
      rw [List.dropLast_cons_cons]
      exact List.forall_mem_cons.mpr ⟨by omega, behind.filled⟩
  pages := by
    have here := reads.length_eq
    have some_row : 0 < page.records.length := List.length_pos_iff.mpr some_record
    rw [List.length_take] at here
    rw [List.length_cons, behind.pages, List.length_drop]
    by_cases fits : rows.length ≤ limit
    · have none_behind : (rows.length - limit + limit - 1) / limit = 0 := Nat.div_eq_of_lt (by omega)
      have one_page : (rows.length + limit - 1) / limit = 1 := Nat.div_eq_of_lt_le (by omega) (by omega)
      rw [none_behind, one_page]
    · have fewer : rows.length + limit - 1 = (rows.length - limit + limit - 1) + limit := by omega
      rw [fewer, Nat.add_div_right _ positive]
  none_left := behind.none_left
  counts := List.forall_mem_cons.mpr ⟨rfl, behind.counts⟩

/-- A walk that sets out on track collects the rows that are left. -/
theorem collected_of_walk {before : List Query} {f : Filters} {pages : List Page} (positive : 0 < f.limit)
    (track : db.OnTrack f) (walk : Search.Walk db.backend before f pages) :
    ∃ full last, pages = full ++ [last] ∧
      db.Collected f.limit (db.selected f .count).length (db.left f) full last := by
  induction walk with
  | @last before f page asked run empty =>
    obtain ⟨count, reads⟩ := db.page_of_run run
    have none_left : db.left f = [] := by
      rw [empty, List.forall₂_nil_right_iff, List.take_eq_nil_iff] at reads
      rcases reads with none_allowed | none_left
      · omega
      · exact none_left
    refine ⟨[], page, rfl, ?_⟩
    rw [none_left, ← count]
    exact .nil positive empty
  | @next before f page asked record cursor pages run last named rest ih =>
    obtain ⟨count, reads⟩ := db.page_of_run run
    obtain ⟨row, last_row, read⟩ := db.last_of_reads reads last
    obtain rfl : toString row.number = cursor := Option.some.inj (read.cursor.symm.trans named)
    obtain ⟨full, final, split, behind⟩ := ih positive (track.behind db last_row)
    have some_record : page.records ≠ [] := by
      intro empty
      rw [empty] at last
      cases last
    rw [db.left_behind_page track last_row] at behind
    refine ⟨page :: full, final, by rw [split]; rfl, ?_⟩
    rw [← count]
    refine .cons positive reads some_record ?_
    rw [count]
    exact behind

theorem exists_records_iff {rows : List JoinedRow} :
    (∃ records, List.Forall₂ db.Reads rows records) ↔ ∀ row ∈ rows, ∃ record, db.Reads row record := by
  induction rows with
  | nil => simp
  | cons row rows ih =>
    rw [List.forall_mem_cons, ← ih]
    constructor
    · rintro ⟨records, reads⟩
      obtain ⟨record, others, read, rest, -⟩ := List.forall₂_cons_left_iff.mp reads
      exact ⟨⟨record, read⟩, others, rest⟩
    · rintro ⟨⟨record, read⟩, others, rest⟩
      exact ⟨record :: others, .cons read rest⟩

/-- Where all rows that are left can be read, a walk comes to its end. -/
theorem exists_walk {f : Filters} (positive : 0 < f.limit) (track : db.OnTrack f)
    (readable : ∀ row ∈ db.left f, ∃ record, db.Reads row record) (before : List Query) :
    ∃ pages, Search.Walk db.backend before f pages := by
  -- a page that is not empty leaves fewer rows to the next
  induction length : (db.left f).length using Nat.strongRecOn generalizing f before with
  | ind size ih =>
    obtain ⟨records, reads⟩ := exists_records_iff.mpr fun row member => readable row (List.mem_of_mem_take member)
    obtain ⟨page, asked, run, rfl⟩ := db.run_of_reads before reads
    cases last : page.records.getLast? with
    | none => exact ⟨[page], .last run (List.getLast?_eq_none_iff.mp last)⟩
    | some record =>
      obtain ⟨row, last_row, read⟩ := db.last_of_reads reads last
      have behind := db.left_behind_page track last_row
      have some_row : db.left f ≠ [] := by
        intro empty
        rw [empty, List.take_nil] at last_row
        cases last_row
      have fewer : (db.left { f with nextEntity := some (toString row.number) }).length < size := by
        have rows := List.length_pos_iff.mpr some_row
        rw [behind, List.length_drop]
        omega
      have readable_behind : ∀ row' ∈ db.left { f with nextEntity := some (toString row.number) },
          ∃ record, db.Reads row' record := by
        intro other member
        rw [behind] at member
        exact readable other (List.mem_of_mem_drop member)
      obtain ⟨pages, rest⟩ := ih _ fewer (f := { f with nextEntity := some (toString row.number) }) positive
        (track.behind db last_row) readable_behind (before ++ asked) rfl
      exact ⟨page :: pages, .next run last (read.cursor db) rest⟩

end Database

/-- A walk over a database from the start, with room on its pages, ends if all rows that are asked for can be read,
and then has met each of them once, in order. -/
theorem walk_collects_selected (db : Database) (before : List Query) (f : Filters) (start : f.nextEntity = none)
    (positive : 0 < f.limit) :
    ((∃ pages, Search.Walk db.backend before f pages) ↔
      ∀ row ∈ db.selected f .count, ∃ record, db.Reads row record) ∧
    ∀ pages, Search.Walk db.backend before f pages →
      ∃ rows full last, pages = full ++ [last] ∧ rows.Perm (db.selected f .count) ∧ Database.Ascending rows ∧
        db.Collected f.limit (full.flatMap (·.records)).length rows full last := by
  have all := db.left_of_start start
  have track : db.OnTrack f := ⟨[], all⟩
  have perm : (db.left f).Perm (db.selected f .count) := by
    rw [all]
    exact Database.ordered_perm _
  refine ⟨⟨?_, ?_⟩, ?_⟩
  · rintro ⟨pages, walk⟩ row member
    obtain ⟨full, last, -, collected⟩ := Database.collected_of_walk positive track walk
    exact Database.exists_records_iff.mp ⟨_, collected.each_row⟩ row (perm.mem_iff.mpr member)
  · intro readable
    exact Database.exists_walk positive track (fun row member => readable row (perm.mem_iff.mp member)) before
  · intro pages walk
    obtain ⟨full, last, split, collected⟩ := Database.collected_of_walk positive track walk
    have total : (db.selected f .count).length = (full.flatMap (·.records)).length :=
      perm.length_eq.symm.trans collected.each_row.length_eq
    refine ⟨db.left f, full, last, split, perm, ?_, total ▸ collected⟩
    rw [all]
    exact db.selected_ascending f .count

def threeEntities : Database where
  columns := ["entity", "name"]
  entities := [⟨7, fun _ => .text "Mill"⟩, ⟨-2, fun _ => .null⟩, ⟨3, fun _ => .text "Weir"⟩]
  geometries := [⟨3, .text " "⟩]
  holds _ _ := .no
  numbered := List.mem_cons_self
  distinct := by decide
  single := by decide

theorem threeEntities_walk : ({ limit := 2 } : Filters).nextEntity = none ∧ 0 < 2 ∧
    ∃ pages, Search.Walk threeEntities.backend [] { limit := 2 } pages ∧
      ∃ rows full last, pages = full ++ [last] ∧ rows.Perm (threeEntities.selected { limit := 2 } .count) ∧
        rows.length = 3 ∧ Database.Ascending rows ∧
        threeEntities.Collected 2 (full.flatMap (·.records)).length rows full last := by
  have readable : ∀ row ∈ threeEntities.joined, ∃ record, threeEntities.Reads row record := by
    intro row member
    obtain rfl | rfl | rfl : row = ⟨⟨7, fun _ => .text "Mill"⟩, none⟩ ∨ row = ⟨⟨-2, fun _ => .null⟩, none⟩ ∨
        row = ⟨⟨3, fun _ => .text "Weir"⟩, some ⟨3, .text " "⟩⟩ := by
      simpa [Database.joined, Database.joinedTo, threeEntities] using member
    all_goals exact ⟨_, rfl⟩
  obtain ⟨ends, collects⟩ := walk_collects_selected threeEntities [] { limit := 2 } rfl (by decide)
  obtain ⟨pages, walk⟩ := ends.mpr fun row member => readable row (List.mem_filter.mp member).1
  obtain ⟨rows, full, last, split, perm, up, collected⟩ := collects pages walk
  have three : (threeEntities.selected { limit := 2 } .count).length = 3 := by decide +kernel
  exact ⟨rfl, by decide, pages, walk, rows, full, last, split, perm, perm.length_eq.trans three, up, collected⟩

end Gazetteer

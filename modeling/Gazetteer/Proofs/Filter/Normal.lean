import Gazetteer.Filter.Normal
import Gazetteer.Proofs.Text.Utf8
import Gazetteer.Query

/-!
The normal form of filters.  Filters that choose the same, up to the order and repetition of the values of a
column and up to empty texts, have one normal form, and no others have it.
-/

namespace Gazetteer

open Gazetteer.Filter

/-! ### The order of texts -/

theorem bytesBefore_irrefl (s : String) : ¬bytesBefore s s := List.lt_irrefl _

theorem bytesBefore_trans {s t u : String} (first : bytesBefore s t) (second : bytesBefore t u) : bytesBefore s u :=
  List.lt_trans first second

theorem bytesBefore_asymm {s t : String} (before : bytesBefore s t) : ¬bytesBefore t s := List.lt_asymm before

/-- Texts that are not before each other have the same bytes. -/
theorem bytesBefore_of_not {s t : String} (different : s ≠ t) (not_before : ¬bytesBefore s t) : bytesBefore t s := by
  refine Decidable.byContradiction fun not_behind => ?_
  exact different (Text.Utf8.bytes_injective (List.le_antisymm not_behind not_before))

/-! ### Lists in order -/

def Increasing (values : List String) : Prop := values.Pairwise bytesBefore

theorem mem_insertOrdered {value s : String} {values : List String} :
    s ∈ insertOrdered value values ↔ s = value ∨ s ∈ values := by
  induction values with
  | nil => simp [insertOrdered]
  | cons v rest ih =>
    rw [insertOrdered]
    split
    · rename_i same
      simp [same]
    split
    · exact List.mem_cons
    · simp only [List.mem_cons, ih, or_left_comm]

theorem Increasing.insertOrdered {values : List String} (up : Increasing values) (value : String) :
    Increasing (insertOrdered value values) := by
  induction values with
  | nil => exact List.pairwise_singleton _ _
  | cons v rest ih =>
    obtain ⟨least, rest_up⟩ := List.pairwise_cons.mp up
    rw [Gazetteer.insertOrdered]
    split
    · exact up
    rename_i different
    split
    · rename_i before
      refine List.pairwise_cons.mpr ⟨?_, up⟩
      intro s member
      rcases List.mem_cons.mp member with rfl | later
      · exact before
      · exact bytesBefore_trans before (least s later)
    · rename_i not_before
      refine List.pairwise_cons.mpr ⟨?_, ih rest_up⟩
      intro s member
      rcases mem_insertOrdered.mp member with rfl | later
      · exact bytesBefore_of_not different not_before
      · exact least s later

/-- A set of texts can be listed in order in one way only. -/
theorem Increasing.eq_of_mem_iff {values others : List String} (up : Increasing values) (others_up : Increasing others)
    (same : ∀ s, s ∈ values ↔ s ∈ others) : values = others := by
  have distinct : ∀ {listed : List String}, Increasing listed → listed.Nodup := by
    intro listed listed_up
    refine listed_up.imp ?_
    rintro s t before rfl
    exact bytesBefore_irrefl s before
  have permuted : values.Perm others :=
    (List.perm_ext_iff_of_nodup (distinct up) (distinct others_up)).mpr same
  exact permuted.eq_of_pairwise (fun s t _ _ before behind => absurd behind (bytesBefore_asymm before)) up others_up

/-! ### Values that are not empty -/

theorem not_isEmpty_eq : (fun s : String => !s.isEmpty) = fun s => decide (s ≠ "") := by
  funext s
  rw [Bool.eq_iff_iff, Bool.not_eq_true', ← Bool.not_eq_true, String.isEmpty_iff, decide_eq_true_eq]

theorem present_eq (values : List String) : present values = values.filter (· ≠ "") := by
  rw [present, not_isEmpty_eq]

theorem presentText_eq (value : Option String) : presentText value = value.filter (· ≠ "") := by
  rw [presentText, not_isEmpty_eq]

theorem mem_ordered {values : List String} {s : String} : s ∈ ordered values ↔ s ∈ values ∧ s ≠ "" := by
  have inserted : ∀ listed : List String, s ∈ listed.foldr insertOrdered [] ↔ s ∈ listed := by
    intro listed
    induction listed with
    | nil => rfl
    | cons v rest ih => rw [List.foldr_cons, mem_insertOrdered, ih, List.mem_cons]
  rw [ordered, inserted, present_eq, List.mem_filter, decide_eq_true_eq]

theorem increasing_ordered (values : List String) : Increasing (ordered values) := by
  rw [ordered]
  induction present values with
  | nil => exact List.Pairwise.nil
  | cons v rest ih => exact ih.insertOrdered v

namespace Filters

/-- Filters are what they hold under their keys. -/
theorem eq_of_keys {f g : Filters} (lists : ∀ key, f.list key = g.list key) (texts : ∀ key, f.text key = g.text key)
    (lifecycle : f.lifecycle = g.lifecycle) (dateMatches : ∀ column, f.dateMatch column = g.dateMatch column)
    (relation : f.relation = g.relation) (limit : f.limit = g.limit) : f = g := by
  have dates : ∀ column, f.date column = g.date column := by
    intro column
    have parts : ∀ part, (f.date column).part part = (g.date column).part part := fun part => texts (.date column part)
    have matching : (f.date column).matching = (g.date column).matching := dateMatches column
    cases one : f.date column with
    | mk date year month day kind =>
      cases other : g.date column with
      | mk date' year' month' day' kind' =>
        rw [one, other] at parts matching
        exact (DateFilter.mk.injEq ..).mpr ⟨parts .date, parts .year, parts .month, parts .day, matching⟩
  cases f with
  | mk =>
    cases g with
    | mk =>
      exact (Filters.mk.injEq ..).mpr ⟨lists .typology, lists .dataset, lists .entity, lists .curiePrefix,
        lists .reference, lists .curie, lifecycle, dates .start, dates .finish, dates .entry, texts .longitude,
        texts .latitude, lists .geometry, lists .geometryEntity, lists .geometryReference, relation, texts .nextEntity,
        limit⟩

theorem normalize_dateMatch (f : Filters) (column : DateColumn) : f.normalize.dateMatch column = f.dateMatch column := by
  cases column <;> rfl

/-- The form that all filters share that choose what `f` does. -/
structure IsNormalFormOf (n f : Filters) : Prop where
  increasing : ∀ key : ListKey, key.isMembership = true → (n.list key).Pairwise bytesBefore
  members : ∀ key : ListKey, key.isMembership = true → ∀ s, s ∈ n.list key ↔ s ∈ f.list key ∧ s ≠ ""
  sequences : ∀ key : ListKey, key.isMembership = false → n.list key = (f.list key).filter (· ≠ "")
  texts : ∀ key : TextKey, n.text key = (f.text key).filter (· ≠ "")
  some_text : ∀ key : TextKey, n.text key ≠ some ""
  lifecycle : n.lifecycle = f.lifecycle
  dateMatches : ∀ column : DateColumn, n.dateMatch column = f.dateMatch column
  relation : n.relation = f.relation
  limit : n.limit = f.limit

/-- Filters that choose the same: the values of each column as a set, the other lists in order, and empty texts
nowhere counted. -/
structure SameChoice (f g : Filters) : Prop where
  members : ∀ key : ListKey, key.isMembership = true → ∀ s, s ≠ "" → (s ∈ f.list key ↔ s ∈ g.list key)
  sequences : ∀ key : ListKey, key.isMembership = false → (f.list key).filter (· ≠ "") = (g.list key).filter (· ≠ "")
  texts : ∀ key : TextKey, (f.text key).filter (· ≠ "") = (g.text key).filter (· ≠ "")
  lifecycle : f.lifecycle = g.lifecycle
  dateMatches : ∀ column : DateColumn, f.dateMatch column = g.dateMatch column
  relation : f.relation = g.relation
  limit : f.limit = g.limit

theorem normalize_isNormalForm (f : Filters) : f.normalize.IsNormalFormOf f where
  increasing key column := by
    rw [normalize_list, if_pos column]
    exact increasing_ordered (f.list key)
  members key column s := by rw [normalize_list, if_pos column, mem_ordered]
  sequences key sequence := by rw [normalize_list, if_neg (by simp [sequence]), present_eq]
  texts key := by rw [normalize_text, presentText_eq]
  some_text key := by
    rw [normalize_text, presentText_eq]
    intro kept
    simpa using (Option.filter_eq_some_iff.mp kept).2
  lifecycle := rfl
  dateMatches := f.normalize_dateMatch
  relation := rfl
  limit := rfl

/-- The normal form of filters is determined by what they choose. -/
theorem IsNormalFormOf.eq_iff {f g n m : Filters} (first : n.IsNormalFormOf f) (second : m.IsNormalFormOf g) :
    n = m ↔ f.SameChoice g := by
  constructor
  · rintro rfl
    exact {
      members := fun key column s some_text => by
        have left := first.members key column s
        have right := second.members key column s
        rw [and_iff_left some_text] at left right
        exact left.symm.trans right
      sequences := fun key sequence => (first.sequences key sequence).symm.trans (second.sequences key sequence)
      texts := fun key => (first.texts key).symm.trans (second.texts key)
      lifecycle := first.lifecycle.symm.trans second.lifecycle
      dateMatches := fun column => (first.dateMatches column).symm.trans (second.dateMatches column)
      relation := first.relation.symm.trans second.relation
      limit := first.limit.symm.trans second.limit }
  · intro same
    refine eq_of_keys ?_ ?_ ?_ ?_ ?_ ?_
    · intro key
      cases kind : key.isMembership with
      | true =>
        refine Increasing.eq_of_mem_iff (first.increasing key kind) (second.increasing key kind) ?_
        intro s
        rw [first.members key kind, second.members key kind]
        exact and_congr_left (same.members key kind s)
      | false => rw [first.sequences key kind, second.sequences key kind, same.sequences key kind]
    · intro key
      rw [first.texts, second.texts, same.texts]
    · rw [first.lifecycle, second.lifecycle, same.lifecycle]
    · intro column
      rw [first.dateMatches, second.dateMatches, same.dateMatches]
    · rw [first.relation, second.relation, same.relation]
    · rw [first.limit, second.limit, same.limit]

theorem IsNormalFormOf.sameChoice {f n : Filters} (normal : n.IsNormalFormOf f) : n.SameChoice f where
  members key column s some_text := by rw [normal.members key column, and_iff_left some_text]
  sequences key sequence := by
    rw [normal.sequences key sequence, List.filter_filter]
    simp only [Bool.and_self]
  texts key := by
    rw [normal.texts, Option.filter_filter]
    simp only [Bool.and_self]
  lifecycle := normal.lifecycle
  dateMatches := normal.dateMatches
  relation := normal.relation
  limit := normal.limit

theorem normalize_normalize (f : Filters) : f.normalize.normalize = f.normalize :=
  (f.normalize.normalize_isNormalForm.eq_iff f.normalize_isNormalForm).mpr f.normalize_isNormalForm.sameChoice

/-- The normal form is canonical: each part has its own, it is not normalized further, filters share it exactly if
they choose the same, and such filters are searched by the same queries. -/
theorem normalize_canonical (f g : Filters) :
    f.normalize.IsNormalFormOf f ∧ f.normalize.normalize = f.normalize ∧
      (f.normalize = g.normalize ↔ f.SameChoice g) ∧
      (f.SameChoice g → ∀ kind, f.normalize.query kind = g.normalize.query kind) := by
  have shared : f.normalize = g.normalize ↔ f.SameChoice g := f.normalize_isNormalForm.eq_iff g.normalize_isNormalForm
  have settled : f.normalize.normalize = f.normalize :=
    (f.normalize.normalize_isNormalForm.eq_iff f.normalize_isNormalForm).mpr f.normalize_isNormalForm.sameChoice
  refine ⟨f.normalize_isNormalForm, settled, shared, fun same kind => ?_⟩
  rw [shared.mpr same]

end Filters

end Gazetteer

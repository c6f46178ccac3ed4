import Gazetteer.Http.Parameters
import Gazetteer.Proofs.Filter.Held
import Mathlib.Data.List.Induction

/-!
Reading parameters key by key.  Filters are read from pairs exactly if every key can be read from the values that
the pairs give to it, and then they hold under each key what was read there.  So neither the order of the keys nor
what stands between the values of a key is of any account.
-/

namespace Gazetteer.Http

open Gazetteer.Filter

/-! ### Groups -/

def valuesOf (key : String) (pairs : List (String × String)) : List String :=
  (pairs.filter (·.1 == key)).map (·.2)

theorem lookup_cons_eq (name key : String) (values : List String) (rest : Groups) :
    ((key, values) :: rest : Groups).lookup name = if name = key then some values else rest.lookup name := by
  by_cases same : name = key
  · simp [same]
  · simp [List.lookup_cons, same, beq_false_of_ne same]

theorem lookup_addToGroup (name key value : String) (gs : Groups) :
    (addToGroup key value gs).lookup name =
      if name = key then some ((gs.lookup key).getD [] ++ [value]) else gs.lookup name := by
  induction gs with
  | nil => exact lookup_cons_eq name key [value] []
  | cons group rest ih =>
    obtain ⟨k, values⟩ := group
    rw [addToGroup]
    by_cases found : k = key
    · subst found
      by_cases same : name = k <;> simp [lookup_cons_eq, same]
    · rw [if_neg found, lookup_cons_eq, lookup_cons_eq, lookup_cons_eq, if_neg (Ne.symm found), ih]
      by_cases same : name = k
      · rw [if_pos same, if_pos same, if_neg (same ▸ found)]
      · rw [if_neg same, if_neg same]

theorem keys_addToGroup (key value : String) (gs : Groups) :
    (addToGroup key value gs).map (·.1) = if key ∈ gs.map (·.1) then gs.map (·.1) else gs.map (·.1) ++ [key] := by
  induction gs with
  | nil => rfl
  | cons group rest ih =>
    obtain ⟨k, values⟩ := group
    rw [addToGroup]
    by_cases found : k = key
    · simp [found]
    · rw [if_neg found, List.map_cons, ih]
      by_cases later : key ∈ rest.map (·.1) <;> simp [later, Ne.symm found]

theorem groups_concat (pairs : List (String × String)) (pair : String × String) :
    groups (pairs ++ [pair]) = addToGroup pair.1 pair.2 (groups pairs) := by
  rw [groups, List.foldl_append]
  rfl

theorem distinct_groups (pairs : List (String × String)) : ((groups pairs).map (·.1)).Nodup := by
  induction pairs using List.reverseRecOn with
  | nil => exact List.nodup_nil
  | append_singleton pairs pair ih =>
    rw [groups_concat, keys_addToGroup]
    split
    · exact ih
    · rename_i absent
      refine List.nodup_append.mpr ⟨ih, by simp, ?_⟩
      rintro key present _ last rfl
      exact absent (List.mem_singleton.mp last ▸ present)

theorem lookup_groups (key : String) (pairs : List (String × String)) :
    (groups pairs).lookup key = if valuesOf key pairs = [] then none else some (valuesOf key pairs) := by
  induction pairs using List.reverseRecOn with
  | nil => rfl
  | append_singleton pairs pair ih =>
    rw [groups_concat, lookup_addToGroup]
    by_cases same : key = pair.1
    · have values : valuesOf key (pairs ++ [pair]) = valuesOf key pairs ++ [pair.2] := by simp [valuesOf, same]
      have some_value : valuesOf key pairs ++ [pair.2] ≠ [] := List.concat_ne_nil _ _
      rw [if_pos same, ← same, ih, values, if_neg some_value]
      by_cases first : valuesOf key pairs = []
      · rw [if_pos first, first]
        rfl
      · rw [if_neg first]
        rfl
    · have values : valuesOf key (pairs ++ [pair]) = valuesOf key pairs := by simp [valuesOf, Ne.symm same]
      rw [if_neg same, ih, values]

/-! ### Keys -/

def readValues (values : List String) : (key : Key) → Except ParameterFault key.Held
  | .list _ => .ok values
  | .text _ => optional values
  | .lifecycle => optionalChoice Lifecycle.ofName? Lifecycle.names values
  | .dateMatch _ => optionalChoice DateMatch.ofName? DateMatch.names values
  | .relation => optionalChoice Relation.ofName? Relation.names values
  | .limit => readLimit values

theorem setKey_eq (f : Filters) (values : List String) (key : Key) :
    setKey f values key = (readValues values key).map (f.set key) := by
  cases key <;> rfl

theorem ofName?_eq_some_iff {name : String} {key : Key} : Key.ofName? name = some key ↔ name = key.name := by
  constructor
  · intro found
    exact (beq_iff_eq.mp (List.find?_some (p := fun key : Key => key.name == name) found)).symm
  · rintro rfl
    exact key.ofName?_name

theorem name_injective {key other : Key} (same : key.name = other.name) : key = other := by
  have found := key.ofName?_name
  rw [same, other.ofName?_name] at found
  exact (Option.some.inj found).symm

def readInto (f : Filters) (gs : Groups) (key : Key) : Except ParameterFault key.Held :=
  match gs.lookup key.name with
  | none => .ok (f.get key)
  | some values => readValues values key

theorem readInto_cons_self (f : Filters) (values : List String) (rest : Groups) (key : Key) :
    readInto f ((key.name, values) :: rest) key = readValues values key := by
  rw [readInto, lookup_cons_eq, if_pos rfl]

theorem readInto_cons_of_ne (f : Filters) {name : String} (values : List String) (rest : Groups) {key : Key}
    (different : key.name ≠ name) : readInto f ((name, values) :: rest) key = readInto f rest key := by
  rw [readInto, lookup_cons_eq, if_neg different, readInto]

/-- Groups are read into filters key by key, or there is a key that cannot be read. -/
theorem foldlM_setGroup {gs : Groups} (distinct : (gs.map (·.1)).Nodup) (f : Filters) :
    (∃ g, gs.foldlM setGroup f = .ok g ∧ ∀ key, readInto f gs key = .ok (g.get key)) ∨
      ∃ e key fault, gs.foldlM setGroup f = .error e ∧ readInto f gs key = .error fault := by
  induction gs generalizing f with
  | nil => exact .inl ⟨f, rfl, fun _ => rfl⟩
  | cons group rest ih =>
    obtain ⟨name, values⟩ := group
    obtain ⟨unique, distinct_rest⟩ := List.nodup_cons.mp distinct
    rw [List.foldlM_cons]
    cases known : Key.ofName? name with
    | none =>
      have unknown : ∀ key : Key, key.name ≠ name := by
        rintro key rfl
        rw [key.ofName?_name] at known
        cases known
      have passed : setGroup f (name, values) = .ok f := by simp only [setGroup, known]
      have same := fun key => readInto_cons_of_ne f values rest (unknown key)
      rw [passed]
      simp only [same]
      exact ih distinct_rest f
    | some own =>
      obtain rfl := ofName?_eq_some_iff.mp known
      have step : setGroup f (own.name, values) =
          ((readValues values own).map (f.set own)).mapError (ParameterError.mk own.name) := by
        simp only [setGroup, known, setKey_eq]
      rw [step]
      cases read : readValues values own with
      | error fault => exact .inr ⟨_, own, fault, rfl, by rw [readInto_cons_self, read]⟩
      | ok held =>
        have absent : rest.lookup own.name = none := by
          rw [List.lookup_eq_none_iff]
          intro group present
          exact bne_iff_ne.mpr fun same => unique (List.mem_map.mpr ⟨group, present, same.symm⟩)
        -- only the first group is of this key, and all others leave it alone
        have later : ∀ key, readInto f ((own.name, values) :: rest) key = readInto (f.set own held) rest key := by
          intro key
          by_cases same : key = own
          · subst same
            rw [readInto_cons_self, read, readInto, absent, Filters.get_set_self]
          · have names : key.name ≠ own.name := fun spelled => same (name_injective spelled)
            rw [readInto_cons_of_ne f values rest names, readInto, readInto, Filters.get_set_of_ne f same held]
        simp only [later]
        exact ih distinct_rest (f.set own held)

def readOr {α : Type} (default : α) (read : List String → Except ParameterFault α) :
    List String → Except ParameterFault α
  | [] => .ok default
  | value :: rest => read (value :: rest)

/-- What is read under a key from pairs; a key without a value holds what it holds in filters that restrict nothing. -/
def readKey (pairs : List (String × String)) (key : Key) : Except ParameterFault key.Held :=
  readOr (({} : Filters).get key) (readValues · key) (valuesOf key.name pairs)

theorem readKey_list (pairs : List (String × String)) (key : ListKey) :
    readKey pairs (.list key) = .ok (valuesOf key.name pairs) := by
  have name : (Key.list key).name = key.name := rfl
  rw [readKey, name]
  cases valuesOf key.name pairs with
  | nil => cases key <;> rfl
  | cons value rest => rfl

theorem readFilters_cases (query : List Char) :
    (∃ f, readFilters query = .ok f ∧ ∀ key, readKey (Text.Form.decodePairs query) key = .ok (f.get key)) ∨
      ∃ e key fault, readFilters query = .error e ∧ readKey (Text.Form.decodePairs query) key = .error fault := by
  have same : ∀ key, readInto {} (groups (Text.Form.decodePairs query)) key =
      readKey (Text.Form.decodePairs query) key := by
    intro key
    rw [readInto, lookup_groups, readKey]
    cases valuesOf key.name (Text.Form.decodePairs query) <;> rfl
  have read := foldlM_setGroup (distinct_groups (Text.Form.decodePairs query)) {}
  simp only [same] at read
  exact read

theorem readFilters_eq_ok_iff {query : List Char} {f : Filters} :
    readFilters query = .ok f ↔ ∀ key, readKey (Text.Form.decodePairs query) key = .ok (f.get key) := by
  obtain ⟨g, read, held⟩ | ⟨e, key, fault, failed, unread⟩ := readFilters_cases query
  · rw [read]
    constructor
    · intro same
      obtain rfl := Except.ok.inj same
      exact held
    · intro given
      have same : g = f := Filters.ext_get fun key => Except.ok.inj ((held key).symm.trans (given key))
      rw [same]
  · rw [failed]
    constructor
    · intro impossible
      cases impossible
    · intro given
      have impossible := (given key).symm.trans unread
      cases impossible

theorem readFilters_eq_error_iff {query : List Char} :
    (∃ e, readFilters query = .error e) ↔ ∃ key fault, readKey (Text.Form.decodePairs query) key = .error fault := by
  obtain ⟨g, read, held⟩ | ⟨e, key, fault, failed, unread⟩ := readFilters_cases query
  · rw [read]
    constructor
    · rintro ⟨e, impossible⟩
      cases impossible
    · rintro ⟨key, fault, unread⟩
      have impossible := (held key).symm.trans unread
      cases impossible
  · exact ⟨fun _ => ⟨key, fault, unread⟩, fun _ => ⟨e, failed⟩⟩

end Gazetteer.Http

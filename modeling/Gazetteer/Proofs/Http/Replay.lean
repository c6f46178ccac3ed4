import Gazetteer.Json.Printer
import Gazetteer.Proofs.Http.Gate
import Gazetteer.Proofs.Http.Parameters
import Gazetteer.Proofs.Text.Form
import Gazetteer.Proofs.Text.Numeral

/-!
Searching again.  A page echoes the filters that selected it.  Sent as a query, the echo is read as the same filters,
so where the same queries are replied to in the same way, the same page is found.
-/

namespace Gazetteer

open Gazetteer.Filter

/-! ### Objects as pairs -/

namespace Json

def scalar? : Json → Option String
  | .text s => some s
  | .number n => some (.ofList n.chars)
  | .bool value => some (toString value)
  | _ => none

/-- The texts of the items of an array in their order, or the one text of another value. -/
def scalars : Json → List String
  | .array items => items.filterMap scalar?
  | value => value.scalar?.toList

/-- The pairs of an object: under the name of a member stands each of its texts. -/
def formPairs : Json → List (String × String)
  | .object members => members.flatMap fun member => member.2.scalars.map (member.1, ·)
  | _ => []

theorem scalars_texts (values : List String) : (texts values).scalars = values := by
  rw [texts, scalars, List.filterMap_map]
  exact List.filterMap_some

theorem scalars_choice {α : Type} (name : α → String) (choice : Option α) :
    ((choice.map fun one => text (name one)).map scalars).getD [] = (choice.map name).toList := by
  cases choice <;> rfl

theorem scalars_nat (n : Nat) : (nat n).scalars = [toString n] := by
  have digits : String.ofList (toString (n : Int)).toList = toString n := String.ofList_toList
  exact congrArg (fun s => [s]) digits

end Json

def Filter.Key.spelled : (key : Key) → key.Held → List String
  | .list _, values => values
  | .text _, value => value.toList
  | .lifecycle, choice => (choice.map Lifecycle.name).toList
  | .dateMatch _, choice => (choice.map DateMatch.name).toList
  | .relation, choice => (choice.map Relation.name).toList
  | .limit, n => [toString n]

namespace Filters

theorem scalars_entry? (f : Filters) (key : Key) :
    ((f.entry? key).map Json.scalars).getD [] = key.spelled (f.get key) := by
  cases key with
  | list key =>
    change ((if (f.list key).isEmpty then none else some (Json.texts (f.list key))).map Json.scalars).getD [] =
      f.list key
    split
    next none_left => exact (List.isEmpty_iff.mp none_left).symm
    next => exact Json.scalars_texts (f.list key)
  | text key =>
    change (((f.text key).map Json.text).map Json.scalars).getD [] = (f.text key).toList
    cases f.text key <;> rfl
  | lifecycle => exact Json.scalars_choice Lifecycle.name f.lifecycle
  | dateMatch column => exact Json.scalars_choice DateMatch.name (f.dateMatch column)
  | relation => exact Json.scalars_choice Relation.name f.relation
  | limit => exact Json.scalars_nat f.limit

theorem formPairs_toJson (f : Filters) :
    f.toJson.formPairs = Key.all.flatMap fun key => (key.spelled (f.get key)).map (key.name, ·) := by
  rw [toJson, Json.formPairs]
  induction Key.all with
  | nil => rfl
  | cons key keys ih =>
    rw [List.flatMap_cons, ← ih, ← scalars_entry?]
    cases written : f.entry? key <;> simp [written]

end Filters

namespace Http

theorem valuesOf_append (key : String) (pairs others : List (String × String)) :
    valuesOf key (pairs ++ others) = valuesOf key pairs ++ valuesOf key others := by
  rw [valuesOf, List.filter_append, List.map_append]
  rfl

theorem valuesOf_pairs (key name : String) (values : List String) :
    valuesOf key (values.map (name, ·)) = if name = key then values else [] := by
  rw [valuesOf, List.filter_map, List.map_map]
  by_cases same : name = key
  · simp [same, Function.comp_def]
  · simp [same, Function.comp_def]

theorem valuesOf_flatMap (values : Key → List String) {keys : List Key} (distinct : keys.Nodup) (key : Key) :
    valuesOf key.name (keys.flatMap fun k => (values k).map (k.name, ·)) = if key ∈ keys then values key else [] := by
  induction keys with
  | nil => rfl
  | cons first rest ih =>
    obtain ⟨unique, distinct_rest⟩ := List.nodup_cons.mp distinct
    rw [List.flatMap_cons, valuesOf_append, valuesOf_pairs, ih distinct_rest]
    by_cases same : key = first
    · subst same
      simp [unique]
    · have names : first.name ≠ key.name := fun spelled => same (name_injective spelled).symm
      simp [names, same]

/-- The echo of filters gives to each key the values that stand for what they hold there. -/
theorem valuesOf_formPairs (f : Filters) (key : Key) :
    valuesOf key.name f.toJson.formPairs = key.spelled (f.get key) := by
  have distinct : Key.all.Nodup := by decide
  have known : key ∈ Key.all := List.mem_of_find?_eq_some key.ofName?_name
  rw [f.formPairs_toJson, valuesOf_flatMap _ distinct, if_pos known]

/-! ### Reading the echo -/

theorem optional_one {value : String} (full : value ≠ "") : optional [value] = .ok (some value) := by
  have some_char : value.isEmpty = false := by rw [Bool.eq_false_iff, ne_eq, String.isEmpty_iff]; exact full
  rw [optional, single, Except.map, some_char]
  rfl

theorem optionalChoice_one {α : Type} {ofName? : String → Option α} {name : String} {choice : α}
    (found : ofName? name = some choice) (full : name ≠ "") (names : List String) :
    optionalChoice ofName? names [name] = .ok (some choice) := by
  simp only [optionalChoice, optional_one full, found]

theorem readLimit_toString {n : Nat} (readable : n ≤ greatestReadableLimit) : readLimit [toString n] = .ok n := by
  change (Text.readNatural greatestReadableLimit (toString n).toList).mapError ParameterFault.numeral = .ok n
  rw [Text.readNatural_toString, if_pos readable]
  rfl

theorem readOr_choice {α : Type} {ofName? : String → Option α} {name : α → String}
    (found : ∀ choice, ofName? (name choice) = some choice) (full : ∀ choice, name choice ≠ "") (names : List String)
    (choice : Option α) :
    readOr none (optionalChoice ofName? names) (choice.map name).toList = .ok choice := by
  cases choice with
  | none => rfl
  | some choice => exact optionalChoice_one (found choice) (full choice) names

variable {pairs : List (String × String)} {f : Filters}

/-- What stands for something under a key is read as that. -/
theorem readKey_spelled (full : ∀ key, f.text key ≠ some "") (readable : f.limit ≤ greatestReadableLimit) {key : Key}
    (spelled : valuesOf key.name pairs = key.spelled (f.get key)) : readKey pairs key = .ok (f.get key) := by
  have read : readKey pairs key = readOr (({} : Filters).get key) (readValues · key) (key.spelled (f.get key)) := by
    rw [readKey, spelled]
  refine read.trans ?_
  cases key with
  | list key => exact read.symm.trans ((readKey_list pairs key).trans (congrArg Except.ok spelled))
  | text key =>
    have nothing : ({} : Filters).text key = none := by rcases key with ⟨⟨⟩, ⟨⟩⟩ | _ | _ | _ <;> rfl
    change readOr (({} : Filters).text key) optional (f.text key).toList = .ok (f.text key)
    rw [nothing]
    cases held : f.text key with
    | none => rfl
    | some value => exact optional_one fun empty => full key (by rw [held, empty])
  | lifecycle => exact readOr_choice Lifecycle.ofName?_name (by intro choice; cases choice <;> decide) _ f.lifecycle
  | dateMatch column =>
    have nothing : ({} : Filters).dateMatch column = none := by cases column <;> rfl
    change readOr (({} : Filters).dateMatch column) _ _ = _
    rw [nothing]
    exact readOr_choice DateMatch.ofName?_name (by intro choice; cases choice <;> decide) _ (f.dateMatch column)
  | relation => exact readOr_choice Relation.ofName?_name (by intro choice; cases choice <;> decide) _ f.relation
  | limit => exact readLimit_toString readable

theorem readFilters_echo (full : ∀ key, f.text key ≠ some "") (readable : f.limit ≤ greatestReadableLimit) :
    readFilters (Text.Form.encodePairs f.toJson.formPairs) = .ok f := by
  rw [readFilters_eq_ok_iff, Text.Form.decodePairs_encodePairs]
  exact fun key => readKey_spelled full readable (valuesOf_formPairs f key)

/-- Requested filters are requested again by their echo. -/
theorem requestedFilters_echo {query : List Char} (read : requestedFilters query = .ok f) :
    requestedFilters (Text.Form.encodePairs f.toJson.formPairs) = .ok f := by
  obtain ⟨g, inside, rfl⟩ := requestedFilters_eq_ok read
  have readable : g.limit ≤ greatestReadableLimit := Nat.le_trans (isLimit_iff.mp inside).2 (by decide)
  have again := readFilters_echo g.normalize_isNormalForm.some_text readable
  have limit : isLimit g.normalize.limit = true := inside
  simp only [requestedFilters, again, limit, if_true, g.normalize_normalize]

end Http

/-! ### Asking again -/

/-- Two backends that reply in the same way from now on, whatever each was asked before. -/
def Backend.RepliesAs (a : Backend) (before : List Query) (b : Backend) (after : List Query) : Prop :=
  ∀ asked q, a.reply (before ++ asked) q = b.reply (after ++ asked) q

theorem Backend.RepliesAs.run_eq {a b : Backend} {before after : List Query} (alike : a.RepliesAs before b after)
    {α : Type} (d : Dialogue α) : d.run a before = d.run b after := by
  induction d generalizing before after with
  | answer value => rfl
  | ask q next ih =>
    have first : a.reply before q = b.reply after q := by simpa using alike [] q
    have later : a.RepliesAs (before ++ [q]) b (after ++ [q]) := by
      intro asked other
      simpa using alike (q :: asked) other
    rw [Dialogue.run, Dialogue.run, first, ih _ later]

theorem Dialogue.run_map {α β : Type} (f : α → β) (d : Dialogue α) (backend : Backend) (before : List Query) :
    (d.map f).run backend before = (f (d.run backend before).1, (d.run backend before).2) := by
  rw [map, run_bind]
  simp [run]

theorem Search.paged_eq_ok {backend : Backend} {before : List Query} {f : Filters} {page : Page}
    (found : paged backend before f = .ok page) :
    page.filters = f ∧ ∃ n, counted backend before f = .ok n := by
  rw [paged] at found
  cases number : counted backend before f with
  | error e => rw [number] at found; cases found
  | ok n =>
    rw [number] at found
    refine ⟨?_, n, rfl⟩
    cases replied : backend.reply (before ++ [f.query .count]) (f.query .rows) with
    | error e => simp only [replied, bind, Except.bind] at found; cases found
    | ok rows =>
      simp only [replied, bind, Except.bind] at found
      cases read : rows.records with
      | error e => rw [read] at found; cases found
      | ok records => rw [read] at found; cases found; rfl

namespace Http

theorem Problem.status_ne_ok (problem : Problem) : problem.response.status ≠ 200 := by
  cases problem with
  | backend e => cases e <;> exact fun status => by cases status
  | _ => exact fun status => by cases status

theorem answer_search {query : List Char} (read : requestedFilters query = .ok f) (name : String) :
    Route.search.answer name query = (Lookup.page f).dialogue := by
  rw [Route.answer, read]
  rfl

/-- A search that succeeds finds a page of the requested filters, after a query for its count and one for its rows. -/
theorem search_found {r : Request} (get : r.method = .get) (routed : Route.ofPath? r.target.path = some .search)
    {backend : Backend} {before : List Query}
    (found : ((respond backend.name r).run backend before).1.status = 200) :
    ∃ (f : Filters) (page : Page), requestedFilters r.target.query = .ok f ∧ page.filters = f ∧
      (Lookup.page f).dialogue.run backend before =
        (.json 200 page.toJson, [f.query .count, f.query .rows]) := by
  rw [respond_of_route routed (.inl get), Dialogue.run_map, finish_status] at found
  cases read : requestedFilters r.target.query with
  | error problem =>
    rw [Route.answer, read] at found
    exact absurd found problem.status_ne_ok
  | ok f =>
    rw [answer_search read, Lookup.dialogue, respondWith, Dialogue.run_map, Search.run_page] at found
    cases paged : Search.paged backend before f with
    | error e =>
      rw [paged] at found
      exact absurd found (Problem.status_ne_ok (.backend e))
    | ok page =>
      obtain ⟨own, n, counted⟩ := Search.paged_eq_ok paged
      refine ⟨f, page, rfl, own, ?_⟩
      rw [Lookup.dialogue, respondWith, Dialogue.run_map, Search.run_page, paged, counted]

theorem finish_json {r : Request} (shown : r.method ≠ .head) (value : Json) :
    (finish r (.json 200 value)).status = 200 ∧ (finish r (.json 200 value)).content = .json value :=
  ⟨finish_status r (.json 200 value), (finish_content r (.json 200 value)).trans (if_neg shown)⟩

/-- The echo of a search that succeeded finds the same page again, by the same queries. -/
theorem echo_finds_page {r : Request} (get : r.method = .get)
    (routed : Route.ofPath? r.target.path = some .search) {backend other : Backend} {before after : List Query}
    (alike : backend.RepliesAs before other after)
    (found : ((respond backend.name r).run backend before).1.status = 200) :
    ∃ (f : Filters) (body echoed : Json),
      ((respond backend.name r).run backend before).1.content = .json body ∧
      ((respond backend.name r).run backend before).2 = [f.query .count, f.query .rows] ∧
      body.field? "query" = some echoed ∧
      ∀ headers,
        let again : Request := ⟨.get, ⟨r.target.path, Text.Form.encodePairs echoed.formPairs⟩, headers⟩
        ((respond other.name again).run other after).1.status = 200 ∧
          ((respond other.name again).run other after).1.content = .json body ∧
          ((respond other.name again).run other after).2 = [f.query .count, f.query .rows] := by
  obtain ⟨f, page, read, own, first⟩ := search_found get routed found
  have shown : r.method ≠ .head := by rw [get]; decide
  have answered : (respond backend.name r).run backend before =
      (finish r (.json 200 page.toJson), [f.query .count, f.query .rows]) := by
    rw [respond_of_route routed (.inl get), answer_search read, Dialogue.run_map, first]
  rw [answered]
  refine ⟨f, page.toJson, f.toJson, ?_, rfl, ?_, ?_⟩
  · exact (finish_json shown page.toJson).2
  · rw [← own]
    rfl
  · intro headers again
    have second : (respond other.name again).run other after =
        (finish again (.json 200 page.toJson), [f.query .count, f.query .rows]) := by
      rw [respond_of_route (r := again) routed (.inl rfl), answer_search (requestedFilters_echo read), Dialogue.run_map,
        ← alike.run_eq, first]
    rw [second]
    obtain ⟨status, content⟩ := finish_json (r := again) Method.noConfusion page.toJson
    exact ⟨status, content, rfl⟩

def oneEntity (name : String) : Backend where
  name := name
  reply _ _ := .ok ⟨[countColumn, "entity"], [[.nat 1, .nat 7]]⟩

def wordySearch : Request :=
  ⟨.get, ⟨"/api/v1/entity".toList, "dataset=b&entries=&dataset=a&entry_start_date_match=match".toList⟩, []⟩

theorem wordySearch_read : ∃ f, requestedFilters wordySearch.target.query = .ok f := by
  have pairs : Text.Form.decodePairs wordySearch.target.query =
      [("dataset", "b"), ("entries", ""), ("dataset", "a"), ("entry_start_date_match", "match")] := rfl
  refine ⟨({ dataset := ["b", "a"], startDate := { matching := some .exact } } : Filters).normalize, ?_⟩
  rw [requestedFilters, readFilters, pairs]
  rfl

theorem wordySearch_found : ((respond "first" wordySearch).run (oneEntity "first") []).1.status = 200 := by
  obtain ⟨f, read⟩ := wordySearch_read
  have routed : Route.ofPath? wordySearch.target.path = some .search := rfl
  rw [respond_of_route routed (.inl rfl), Dialogue.run_map, finish_status, answer_search read,
    Lookup.dialogue, respondWith, Dialogue.run_map, Search.run_page]
  rfl

theorem wordySearch_again :
    wordySearch.method = .get ∧ Route.ofPath? wordySearch.target.path = some .search ∧
      (oneEntity "first").RepliesAs [] (oneEntity "second") [] ∧
      ((respond "first" wordySearch).run (oneEntity "first") []).1.status = 200 ∧
      ∃ (f : Filters) (body echoed : Json),
        ((respond "first" wordySearch).run (oneEntity "first") []).1.content = .json body ∧
        ((respond "first" wordySearch).run (oneEntity "first") []).2 = [f.query .count, f.query .rows] ∧
        body.field? "query" = some echoed ∧
        ∀ headers,
          let again : Request := ⟨.get, ⟨wordySearch.target.path, Text.Form.encodePairs echoed.formPairs⟩, headers⟩
          ((respond "second" again).run (oneEntity "second") []).1.status = 200 ∧
            ((respond "second" again).run (oneEntity "second") []).1.content = .json body ∧
            ((respond "second" again).run (oneEntity "second") []).2 = [f.query .count, f.query .rows] := by
  have alike : (oneEntity "first").RepliesAs [] (oneEntity "second") [] := fun _ _ => rfl
  exact ⟨rfl, rfl, alike, wordySearch_found, echo_finds_page rfl rfl alike wordySearch_found⟩

end Http

end Gazetteer

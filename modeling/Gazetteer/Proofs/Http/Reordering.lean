import Gazetteer.Proofs.Http.Failure
import Gazetteer.Proofs.Http.Gate
import Gazetteer.Proofs.Http.Parameters

/-!
The order of parameters.  Pairs of different keys may change places, and so may the values of a column; what is
asked of a backend and what is answered stay the same, unless both orders are refused, and then for reasons of
one code.
-/

namespace Gazetteer.Http

open Gazetteer.Filter

/-- Pairs in another order.  Lists that name no values of a column keep theirs. -/
structure Reordered (pairs others : List (String × String)) : Prop where
  perm : pairs.Perm others
  sequences : ∀ key : ListKey, key.isMembership = false →
    pairs.filter (·.1 == key.name) = others.filter (·.1 == key.name)

variable {pairs others : List (String × String)}

theorem Reordered.symm (reordered : Reordered pairs others) : Reordered others pairs :=
  ⟨reordered.perm.symm, fun key sequence => (reordered.sequences key sequence).symm⟩

theorem Reordered.valuesOf (reordered : Reordered pairs others) (key : String) :
    (valuesOf key pairs).Perm (valuesOf key others) :=
  (reordered.perm.filter _).map _

/-- One text, one choice and a limit are refused where they have several values, in whatever order. -/
theorem readValues_repeated {key : Key} (one : ∀ list, key ≠ .list list) (first second : String) (rest : List String) :
    readValues (first :: second :: rest) key = .error .repeated := by
  cases key with
  | list key => exact absurd rfl (one key)
  | text | lifecycle | dateMatch | relation | limit => rfl

theorem readKey_reordered (reordered : Reordered pairs others) {key : Key} (one : ∀ list, key ≠ .list list) :
    readKey pairs key = readKey others key := by
  have perm := reordered.valuesOf key.name
  rw [readKey, readKey]
  cases values : valuesOf key.name pairs with
  | nil => rw [values] at perm; rw [List.nil_perm.mp perm]
  | cons first rest =>
    rw [values] at perm
    cases rest with
    | nil => rw [List.singleton_perm.mp perm]
    | cons second rest =>
      cases others_values : valuesOf key.name others with
      | nil => rw [others_values] at perm; cases perm.eq_nil
      | cons other_first others_rest =>
        rw [others_values] at perm
        cases others_rest with
        | nil => cases List.perm_singleton.mp perm
        | cons other_second others_rest => simp only [readOr, readValues_repeated one]

theorem readKey_error_reordered (reordered : Reordered pairs others) {key : Key} {fault : ParameterFault}
    (unread : readKey pairs key = .error fault) : readKey others key = .error fault := by
  cases key with
  | list key => rw [readKey_list] at unread; cases unread
  | text | lifecycle | dateMatch | relation | limit =>
    rwa [← readKey_reordered reordered (by intro list same; cases same)]

theorem sameChoice_of_reordered (reordered : Reordered pairs others) {f g : Filters}
    (first : ∀ key, readKey pairs key = .ok (f.get key)) (second : ∀ key, readKey others key = .ok (g.get key)) :
    f.SameChoice g := by
  have list_first : ∀ key, f.list key = valuesOf key.name pairs := fun key =>
    (Except.ok.inj ((readKey_list pairs key).symm.trans (first (.list key)))).symm
  have list_second : ∀ key, g.list key = valuesOf key.name others := fun key =>
    (Except.ok.inj ((readKey_list others key).symm.trans (second (.list key)))).symm
  have same : ∀ key : Key, (∀ list, key ≠ .list list) → f.get key = g.get key := by
    intro key one
    have read := first key
    rw [readKey_reordered reordered one, second key] at read
    exact (Except.ok.inj read).symm
  exact {
    members := fun key _ s _ => by rw [list_first, list_second, (reordered.valuesOf key.name).mem_iff]
    sequences := fun key sequence => by
      rw [list_first, list_second, Http.valuesOf, Http.valuesOf, reordered.sequences key sequence]
    texts := fun key => congrArg (Option.filter _) (same (.text key) (by intro list other; cases other))
    lifecycle := same .lifecycle (by intro list other; cases other)
    dateMatches := fun column => same (.dateMatch column) (by intro list other; cases other)
    relation := same .relation (by intro list other; cases other)
    limit := same .limit (by intro list other; cases other) }

/-! ### Requests -/

variable {query other : List Char}

/-- What a request for filters comes to in another order of its pairs. -/
theorem requestedFilters_reordered
    (reordered : Reordered (Text.Form.decodePairs query) (Text.Form.decodePairs other)) :
    requestedFilters query = requestedFilters other ∨
      ∃ e e', requestedFilters query = .error (.parameter e) ∧ requestedFilters other = .error (.parameter e') := by
  rw [requestedFilters, requestedFilters]
  obtain ⟨f, read, held⟩ | ⟨e, key, fault, failed, unread⟩ := readFilters_cases query
  · obtain ⟨g, other_read, other_held⟩ | ⟨e, key, fault, failed, unread⟩ := readFilters_cases other
    · have same := sameChoice_of_reordered reordered held other_held
      have normal : f.normalize = g.normalize := (f.normalize_isNormalForm.eq_iff g.normalize_isNormalForm).mpr same
      refine .inl ?_
      rw [read, other_read]
      simp only [same.limit, normal]
    · have impossible := (held key).symm.trans (readKey_error_reordered reordered.symm unread)
      cases impossible
  · have other_unread := readKey_error_reordered reordered unread
    obtain ⟨e', other_failed⟩ := readFilters_eq_error_iff.mpr ⟨key, fault, other_unread⟩
    exact .inr ⟨e, e', by rw [failed], by rw [other_failed]⟩

theorem Route.answer_reordered {route : Route} (searches : route ∈ [.search, .count, .preview])
    (reordered : Reordered (Text.Form.decodePairs query) (Text.Form.decodePairs other)) (name : String) :
    route.answer name query = route.answer name other ∨
      ∃ e e', route.answer name query = .answer (Problem.parameter e).response ∧
        route.answer name other = .answer (Problem.parameter e').response := by
  simp only [List.mem_cons, List.not_mem_nil, or_false] at searches
  obtain same | ⟨e, e', failed, other_failed⟩ := requestedFilters_reordered reordered
  · refine .inl ?_
    obtain rfl | rfl | rfl := searches <;> simp only [Route.answer, same]
  · refine .inr ⟨e, e', ?_⟩
    obtain rfl | rfl | rfl := searches <;> simp only [Route.answer, failed, other_failed, ifRead, and_self]

/-- Both answers refuse, with one code where they have content, and nothing was asked for either. -/
structure RefusedAlike (method : Method) (first second : Response × List Query) : Prop where
  status : first.1.status = 400 ∧ second.1.status = 400
  code : method ≠ .head → ∃ code, first.1.Reports code ∧ second.1.Reports code
  unasked : first.2 = [] ∧ second.2 = []

theorem finish_reports {r : Request} (shown : r.method ≠ .head) {response : Response} {code : String}
    (reports : response.Reports code) : (finish r response).Reports code := by
  obtain ⟨kind, message, content⟩ := reports
  exact ⟨kind, message, by rw [finish_content, if_neg shown, content]⟩

theorem Problem.reports_parameter (e : ParameterError) :
    (Problem.parameter e).response.Reports "QUERY_PARSE_ERROR" := ⟨_, _, rfl⟩

/-- The order of the pairs in a query makes no difference to a search, its count or its statements. -/
theorem respond_reordered {r : Request} {route : Route} (routed : Route.ofPath? r.target.path = some route)
    (searches : route ∈ [.search, .count, .preview])
    (reordered : Reordered (Text.Form.decodePairs r.target.query) (Text.Form.decodePairs other))
    (backend : Backend) (before : List Query) :
    let moved : Request := { r with target := ⟨r.target.path, other⟩ }
    (respond backend.name moved).run backend before = (respond backend.name r).run backend before ∨
      RefusedAlike r.method ((respond backend.name r).run backend before)
        ((respond backend.name moved).run backend before) := by
  intro moved
  by_cases read : r.method = .get ∨ r.method = .head
  · have first : respond backend.name r = _ := respond_of_route routed read backend.name
    have second : respond backend.name moved = (route.answer backend.name other).map (finish r) :=
      respond_of_route (r := moved) routed read backend.name
    rw [first, second]
    obtain same | ⟨e, e', failed, other_failed⟩ := route.answer_reordered searches reordered backend.name
    · rw [same]
      exact .inl rfl
    · rw [failed, other_failed]
      refine .inr ⟨⟨finish_status _ _, finish_status _ _⟩, fun shown => ?_, rfl, rfl⟩
      exact ⟨_, finish_reports shown (Problem.reports_parameter e), finish_reports shown (Problem.reports_parameter e')⟩
  · exact .inl (by rw [respond_unread read])

def limitFirst : Request := ⟨.get, ⟨"/api/v1/entity".toList, "limit=5&dataset=b&dataset=a".toList⟩, []⟩

def limitBetween : List Char := "dataset=a&limit=5&dataset=b".toList

theorem limitFirst_pairs :
    Text.Form.decodePairs limitFirst.target.query = [("limit", "5"), ("dataset", "b"), ("dataset", "a")] := rfl

theorem limitBetween_pairs :
    Text.Form.decodePairs limitBetween = [("dataset", "a"), ("limit", "5"), ("dataset", "b")] := rfl

theorem limitFirst_reordered :
    Reordered (Text.Form.decodePairs limitFirst.target.query) (Text.Form.decodePairs limitBetween) := by
  rw [limitFirst_pairs, limitBetween_pairs]
  refine ⟨by decide, fun key sequence => ?_⟩
  cases key <;> first | rfl | cases sequence

theorem limitFirst_as_limitBetween :
    let moved : Request := { limitFirst with target := ⟨limitFirst.target.path, limitBetween⟩ }
    Route.ofPath? limitFirst.target.path = some .search ∧ Route.search ∈ [Route.search, .count, .preview] ∧
      Reordered (Text.Form.decodePairs limitFirst.target.query) (Text.Form.decodePairs limitBetween) ∧
      ((respond withNumber.name moved).run withNumber [] = (respond withNumber.name limitFirst).run withNumber [] ∨
        RefusedAlike limitFirst.method ((respond withNumber.name limitFirst).run withNumber [])
          ((respond withNumber.name moved).run withNumber [])) :=
  ⟨rfl, by decide, limitFirst_reordered, respond_reordered rfl (by decide) limitFirst_reordered withNumber []⟩

end Gazetteer.Http

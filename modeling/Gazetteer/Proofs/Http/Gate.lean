import Gazetteer.Proofs.Http.Failure

/-!
The gate before the backend.  Whatever is requested, a backend is asked few queries, each a statement that was
compiled from checked parameters, and none where the request is refused.
-/

namespace Gazetteer

/-! ### Dialogues along a plan -/

/-- A dialogue that asks the queries of a plan in their order, all or only the first of them, and ends in one of
some answers. -/
inductive Dialogue.Follows {α : Type} (ends : α → Prop) : List Query → Dialogue α → Prop
  | answer {plan : List Query} {value : α} (ok : ends value) : Follows ends plan (.answer value)
  | ask {q : Query} {plan : List Query} {next : Except QueryError Table → Dialogue α}
    (rest : ∀ reply, Follows ends plan (next reply)) : Follows ends (q :: plan) (.ask q next)

namespace Dialogue.Follows

variable {α β : Type} {ends : α → Prop} {plan : List Query} {d : Dialogue α}

theorem map {f : α → β} {goals : β → Prop} (follows : Follows ends plan d)
    (kept : ∀ value, ends value → goals (f value)) : Follows goals plan (d.map f) := by
  induction follows with
  | answer ok => exact .answer (kept _ ok)
  | ask _ ih => exact .ask ih

theorem run (follows : Follows ends plan d) (backend : Backend) (before : List Query) :
    (d.run backend before).2 <+: plan ∧ ends (d.run backend before).1 := by
  induction follows generalizing before with
  | answer ok => exact ⟨List.nil_prefix, ok⟩
  | @ask q plan next _ ih =>
    obtain ⟨asked, ended⟩ := ih (backend.reply before q) (before ++ [q])
    exact ⟨List.cons_prefix_cons.mpr ⟨rfl, asked⟩, ended⟩

end Dialogue.Follows

theorem Inquiry.follows_query {α : Type} (q : Query) (read : Table → Except QueryError α) :
    Dialogue.Follows (fun _ => True) [q] (Inquiry.query q read) :=
  .ask fun _ => .answer trivial

theorem Search.follows_page (f : Filters) :
    Dialogue.Follows (fun _ => True) [f.query .count, f.query .rows] (Search.page f) := by
  refine .ask fun reply => ?_
  simp only [Dialogue.bind]
  cases reply.bind (·.count countColumn) with
  | error e => exact .answer trivial
  | ok n => exact Inquiry.follows_query _ _

namespace Http

/-! ### Refusals -/

def Response.Reports (response : Response) (code : String) : Prop :=
  ∃ kind message, response.content =
    .json (.object [("error", .text kind), ("code", .text code), ("message", .text message)])

def Response.IsRefusal (response : Response) : Prop :=
  response.status = 400 ∨ response.status = 405 ∨ response.Reports "ROUTE_NOT_FOUND"

theorem Report.code_of_reports {report : Report} {code : String} (reports : report.response.Reports code) :
    report.code = code := by
  obtain ⟨kind, message, same⟩ := reports
  injection same with same
  injection same with same
  simp only [List.cons.injEq, Prod.mk.injEq, Json.text.injEq] at same
  exact same.2.1.2

/-- An object that is found is no report, since its members have other names. -/
theorem not_isRefusal_found {members : List (String × Json)} (named : ∀ member ∈ members, member.1 ≠ "error") :
    ¬ (Response.json 200 (.object members)).IsRefusal := by
  rintro (bad | other | ⟨kind, message, same⟩)
  · cases bad
  · cases other
  · injection same with same
    injection same with same
    exact named _ (by rw [same]; exact List.mem_cons_self) rfl

theorem not_isRefusal_report {status : Nat} {kind code message : String} (bad : status ≠ 400) (other : status ≠ 405)
    (known : code ≠ "ROUTE_NOT_FOUND") : ¬ (Report.response ⟨status, kind, code, message⟩).IsRefusal := by
  rintro (invalid | method | unknown)
  · exact bad invalid
  · exact other method
  · exact known (Report.code_of_reports unknown)

theorem not_isRefusal_failure (cls : FailureClass) : ¬ cls.response.IsRefusal := by
  cases cls with
  | late | unreadable | failed | misconfigured => exact not_isRefusal_report (by decide) (by decide) (by decide)

theorem not_isRefusal_entity (name : String) (record? : Option Entity.Record) :
    ¬ (entityResponse name record?).IsRefusal := by
  cases record? with
  | none => exact not_isRefusal_report (by decide) (by decide) (by decide)
  | some record =>
    refine not_isRefusal_found fun member present => ?_
    obtain ⟨field, -, same⟩ := List.mem_filterMap.mp present
    obtain ⟨value, -, rfl⟩ := Option.map_eq_some_iff.mp same
    change field.column ≠ "error"
    cases field <;> decide

theorem not_isRefusal_page (page : Page) : ¬ (Response.json 200 page.toJson).IsRefusal :=
  not_isRefusal_found (by simp)

theorem not_isRefusal_count (f : Filters) (n : Nat) : ¬ (Response.json 200 (countJson f n)).IsRefusal :=
  not_isRefusal_found (by simp)

theorem not_isRefusal_array (values : List Json) : ¬ (Response.json 200 (.array values)).IsRefusal := by
  rintro (bad | other | ⟨kind, message, same⟩)
  · cases bad
  · cases other
  · cases same

/-- A response is sent as a refusal only if it is one. -/
theorem isRefusal_of_finish {r : Request} {response : Response} (sent : (finish r response).IsRefusal) :
    response.IsRefusal := by
  rw [Response.IsRefusal, finish_status, Response.Reports, finish_content] at sent
  obtain bad | other | ⟨kind, message, same⟩ := sent
  · exact .inl bad
  · exact .inr (.inl other)
  · split at same
    · cases same
    · exact .inr (.inr ⟨kind, message, same⟩)

/-! ### What a lookup asks -/

theorem isLimit_iff {n : Nat} : isLimit n = true ↔ 1 ≤ n ∧ n ≤ 500 := by
  rw [isLimit, Bool.and_eq_true, decide_eq_true_iff, decide_eq_true_iff]
  exact Iff.rfl

theorem requestedFilters_eq_ok {query : List Char} {f : Filters} (read : requestedFilters query = .ok f) :
    ∃ g : Filters, isLimit g.limit = true ∧ g.normalize = f := by
  rw [requestedFilters] at read
  cases given : readFilters query with
  | error e => rw [given] at read; cases read
  | ok g =>
    simp only [given] at read
    split at read
    next inside => exact ⟨g, inside, Except.ok.inj read⟩
    next => cases read

theorem requestedFilters_limit {query : List Char} {f : Filters} (read : requestedFilters query = .ok f) :
    1 ≤ f.limit ∧ f.limit ≤ 500 := by
  obtain ⟨g, inside, rfl⟩ := requestedFilters_eq_ok read
  exact isLimit_iff.mp inside

namespace Lookup

/-- The queries of a lookup; the last is left out where the first fails. -/
def plan : Lookup → List Query
  | .page f => [f.query .count, f.query .rows]
  | .count f => [f.query .count]
  | .entity name => [Search.entityQuery name]
  | .datasetCounts dataset => [datasetQuery dataset]

theorem length_plan_le (lookup : Lookup) : lookup.plan.length ≤ 2 := by
  cases lookup <;> simp [plan]

theorem compiled_of_mem {lookup : Lookup} {q : Query} (member : q ∈ lookup.plan) : q.IsCompiled := by
  cases lookup with
  | page f =>
    obtain rfl | rfl : q = f.query .count ∨ q = f.query .rows := by simpa [plan] using member
    · exact .inl ⟨f, .count, rfl⟩
    · exact .inl ⟨f, .rows, rfl⟩
  | count f => exact .inl ⟨f, .count, List.mem_singleton.mp member⟩
  | entity name => exact .inl ⟨Search.only name, .rows, List.mem_singleton.mp member⟩
  | datasetCounts dataset => exact .inr ⟨dataset, List.mem_singleton.mp member⟩

/-- The limit of a query for rows was checked with the request, or is that of a single entity. -/
theorem limit_of_mem {lookup : Lookup} {query : List Char} {route : Route} (leads : lookup.IsOn query route)
    {f : Filters} (member : f.query .rows ∈ lookup.plan) : 1 ≤ f.limit ∧ f.limit ≤ 500 := by
  cases lookup with
  | page g =>
    obtain same | same : f.query .rows = g.query .count ∨ f.query .rows = g.query .rows := by
      simpa [plan] using member
    · exact absurd same.symm (g.query_count_ne_rows f)
    · rw [Filters.limit_eq_of_query_eq same]
      exact requestedFilters_limit leads.2
  | count g => exact absurd (List.mem_singleton.mp member).symm (g.query_count_ne_rows f)
  | entity name =>
    rw [Filters.limit_eq_of_query_eq (List.mem_singleton.mp member)]
    exact show 1 ≤ 1 ∧ 1 ≤ 500 by decide
  | datasetCounts dataset => exact absurd (List.mem_singleton.mp member) (f.query_rows_ne_datasetQuery dataset)

theorem follows_respondWith {α : Type} {plan : List Query} {inquiry : Inquiry α} {respond : α → Response}
    (follows : Dialogue.Follows (fun _ => True) plan inquiry) (found : ∀ value, ¬ (respond value).IsRefusal) :
    Dialogue.Follows (¬ ·.IsRefusal) plan (respondWith inquiry respond) := by
  refine follows.map fun result _ => ?_
  cases result with
  | ok value => exact found value
  | error e =>
    simp only [response_backend]
    exact not_isRefusal_failure e.failureClass

theorem follows_plan (lookup : Lookup) : lookup.dialogue.Follows (¬ ·.IsRefusal) lookup.plan := by
  cases lookup with
  | page f => exact follows_respondWith (Search.follows_page f) not_isRefusal_page
  | count f => exact follows_respondWith (Inquiry.follows_query _ _) (not_isRefusal_count f)
  | entity name => exact follows_respondWith (Inquiry.follows_query _ _) (not_isRefusal_entity name)
  | datasetCounts dataset => exact follows_respondWith (Inquiry.follows_query _ _) fun _ => not_isRefusal_array _

end Lookup

/-! ### The gate -/

/-- What a request lets through to a backend, and with which response. -/
structure Gated (r : Request) (response : Response) (asked : List Query) : Prop where
  few : asked.length ≤ 2
  compiled : ∀ q ∈ asked, q.IsCompiled
  single : ∀ q ∈ asked, q.IsSingleSelect
  limited : ∀ f : Filters, f.query .rows ∈ asked →
    1 ≤ f.limit ∧ f.limit ≤ 500 ∧ ∃ opening, (f.query .rows).sql = opening ++ " LIMIT " ++ toString f.limit
  /-- One entity is asked for as one row. -/
  one : ∀ segment, Route.ofPath? r.target.path = some (.entity segment) →
    ∀ q ∈ asked, ∃ f : Filters, q = f.query .rows ∧ f.limit = 1
  refused : response.IsRefusal → asked = []
  unasked : Route.ofPath? r.target.path ∈ [none, some .document, some .health, some .preview] → asked = []

theorem Gated.nothing (r : Request) (response : Response) : Gated r response [] where
  few := by decide
  compiled := by simp
  single := by simp
  limited := by simp
  one := by simp
  refused _ := rfl
  unasked _ := rfl

theorem Lookup.gated {lookup : Lookup} {route : Route} {r : Request}
    (routed : Route.ofPath? r.target.path = some route) (leads : lookup.IsOn r.target.query route)
    {response : Response} {asked : List Query} (planned : asked <+: lookup.plan) (answered : ¬ response.IsRefusal) :
    Gated r response asked where
  few := Nat.le_trans planned.length_le lookup.length_plan_le
  compiled _ member := compiled_of_mem (planned.subset member)
  single _ member := (compiled_of_mem (planned.subset member)).isSingleSelect
  limited f member := by
    obtain ⟨least, greatest⟩ := limit_of_mem leads (planned.subset member)
    exact ⟨least, greatest, f.query_rows_limit⟩
  one segment entity q member := by
    obtain rfl : route = .entity segment := Option.some.inj (routed.symm.trans entity)
    cases lookup with
    | entity name => exact ⟨Search.only name, List.mem_singleton.mp (planned.subset member), rfl⟩
    | page f | count f | datasetCounts dataset => cases leads.1
  refused refusal := absurd refusal answered
  unasked elsewhere := by
    rw [routed] at elsewhere
    cases lookup with
    | entity name => obtain ⟨segment, rfl, -⟩ := leads; simp at elsewhere
    | page f | count f | datasetCounts dataset => simp [leads.1] at elsewhere

/-- Whatever is requested of whatever backend, few statements go out, each compiled and single, with a limit in its
bounds where rows are asked for; and none where the request is refused or its route needs none. -/
theorem respond_gated (backend : Backend) (before : List Query) (r : Request) :
    Gated r ((respond backend.name r).run backend before).1 ((respond backend.name r).run backend before).2 := by
  obtain ⟨response, answered⟩ | ⟨lookup, route, routed, leads, answered⟩ := respond_cases backend.name r
  · rw [answered]
    exact Gated.nothing r response
  · have follows : (lookup.dialogue.map (finish r)).Follows (¬ ·.IsRefusal) lookup.plan :=
      lookup.follows_plan.map fun _ served sent => served (isRefusal_of_finish sent)
    obtain ⟨planned, served⟩ := follows.run backend before
    rw [answered]
    exact Lookup.gated routed leads planned served

example (backend : Backend) :
    ((respond backend.name ⟨.get, ⟨"/api/v1/entity".toList, "limit=501".toList⟩, []⟩).run backend []).2 = [] := by rfl

end Http

end Gazetteer

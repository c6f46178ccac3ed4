import Gazetteer.Http.Service

/-!
What requests come to.  A request is answered at once, or it passes all checks and is answered by one lookup,
whose dialogue knows nothing of the request any more.
-/

namespace Gazetteer.Http

inductive Lookup where
  | page (filters : Filters)
  | count (filters : Filters)
  | entity (name : String)
  | datasetCounts (dataset : Option String)
  deriving DecidableEq, Repr

namespace Lookup

def dialogue : Lookup → Dialogue Response
  | .page f => respondWith (Search.page f) fun page => .json 200 page.toJson
  | .count f => respondWith (Search.count f) fun n => .json 200 (countJson f n)
  | .entity name => respondWith (Search.entity? name) (entityResponse name)
  | .datasetCounts dataset =>
    respondWith (Search.datasetCounts dataset) fun counts => .json 200 (.array (counts.map (·.toJson)))

def IsOn (query : List Char) : Lookup → Route → Prop
  | .page f, route => route = .search ∧ requestedFilters query = .ok f
  | .count f, route => route = .count ∧ requestedFilters query = .ok f
  | .entity name, route => ∃ segment, route = .entity segment ∧ requestedEntity segment = .ok name
  | .datasetCounts dataset, route => route = .datasetCounts ∧ requestedDataset query = .ok dataset

end Lookup

theorem ifRead_cases {α : Type} (read : Except Problem α) (answer : α → Dialogue Response) :
    (∃ problem : Problem, ifRead read answer = .answer problem.response) ∨
      ∃ value, read = .ok value ∧ ifRead read answer = answer value := by
  cases read with
  | error problem => exact .inl ⟨problem, rfl⟩
  | ok value => exact .inr ⟨value, rfl, rfl⟩

theorem Route.answer_cases (route : Route) (name : String) (query : List Char) :
    (∃ response, route.answer name query = .answer response) ∨
      ∃ lookup : Lookup, lookup.IsOn query route ∧ route.answer name query = lookup.dialogue := by
  cases route with
  | document => exact .inl ⟨_, rfl⟩
  | health => exact .inl ⟨_, rfl⟩
  | search =>
    obtain ⟨problem, refused⟩ | ⟨f, read, answered⟩ := ifRead_cases (requestedFilters query) _
    · exact .inl ⟨_, refused⟩
    · exact .inr ⟨.page f, ⟨rfl, read⟩, answered⟩
  | count =>
    obtain ⟨problem, refused⟩ | ⟨f, read, answered⟩ := ifRead_cases (requestedFilters query) _
    · exact .inl ⟨_, refused⟩
    · exact .inr ⟨.count f, ⟨rfl, read⟩, answered⟩
  | preview =>
    obtain ⟨problem, refused⟩ | ⟨f, read, answered⟩ := ifRead_cases (requestedFilters query) _
    · exact .inl ⟨_, refused⟩
    · exact .inl ⟨_, answered⟩
  | entity segment =>
    obtain ⟨problem, refused⟩ | ⟨name, read, answered⟩ := ifRead_cases (requestedEntity segment) _
    · exact .inl ⟨_, refused⟩
    · exact .inr ⟨.entity name, ⟨segment, rfl, read⟩, answered⟩
  | datasetCounts =>
    obtain ⟨problem, refused⟩ | ⟨dataset, read, answered⟩ := ifRead_cases (requestedDataset query) _
    · exact .inl ⟨_, refused⟩
    · exact .inr ⟨.datasetCounts dataset, ⟨rfl, read⟩, answered⟩

/-- A request is answered at once, or by the lookup that its route leads to. -/
theorem respond_cases (name : String) (r : Request) :
    (∃ response, respond name r = .answer response) ∨
      ∃ (lookup : Lookup) (route : Route), Route.ofPath? r.target.path = some route ∧
        lookup.IsOn r.target.query route ∧ respond name r = lookup.dialogue.map (finish r) := by
  rw [respond, plainAnswer]
  split
  · exact .inl ⟨_, rfl⟩
  · cases routed : Route.ofPath? r.target.path with
    | none => exact .inl ⟨_, rfl⟩
    | some route =>
      simp only
      split
      · obtain ⟨response, answered⟩ | ⟨lookup, leads, answered⟩ := route.answer_cases name r.target.query
        · exact .inl ⟨finish r response, by rw [answered]; rfl⟩
        · exact .inr ⟨lookup, route, rfl, leads, by rw [answered]⟩
      · exact .inl ⟨_, rfl⟩

theorem respond_of_route {r : Request} {route : Route} (routed : Route.ofPath? r.target.path = some route)
    (read : r.method = .get ∨ r.method = .head) (name : String) :
    respond name r = (route.answer name r.target.query).map (finish r) := by
  have asked : (decide (r.method = .get) || decide (r.method = .head)) = true := by
    rw [Bool.or_eq_true, decide_eq_true_eq, decide_eq_true_eq]
    exact read
  have no_preflight : r.method ≠ .options := by
    intro options
    rw [options] at read
    obtain impossible | impossible := read <;> cases impossible
  simp only [respond, if_neg no_preflight, plainAnswer, routed, asked, if_true]

/-- Other methods are answered without a look at the query. -/
theorem respond_unread {r : Request} (unread : ¬(r.method = .get ∨ r.method = .head)) (query : List Char)
    (name : String) : respond name { r with target := ⟨r.target.path, query⟩ } = respond name r := by
  have passed : (decide (r.method = .get) || decide (r.method = .head)) = false := by
    rw [Bool.eq_false_iff, ne_eq, Bool.or_eq_true, decide_eq_true_eq, decide_eq_true_eq]
    exact unread
  simp only [respond, plainAnswer, passed, Bool.false_eq_true, if_false]
  rfl

/-- Only the report on the state of the service names its backend. -/
theorem respond_name {r : Request} (elsewhere : Route.ofPath? r.target.path ≠ some .health) (name other : String) :
    respond name r = respond other r := by
  have answers : ∀ route, route ≠ .health →
      Route.answer name r.target.query route = Route.answer other r.target.query route := by
    intro route different
    cases route with
    | health => exact absurd rfl different
    | _ => rfl
  rw [respond, respond, plainAnswer, plainAnswer]
  cases routed : Route.ofPath? r.target.path with
  | none => rfl
  | some route => simp only [answers route fun health => elsewhere (by rw [routed, health])]

/-! ### What is sent -/

theorem Response.compress_kept (response : Response) (headers : List Header) :
    (response.compress headers).status = response.status ∧
      (response.compress headers).content = response.content := by
  rw [compress]
  split
  · exact ⟨rfl, rfl⟩
  · simp only
    split <;> exact ⟨rfl, rfl⟩

theorem finish_status (r : Request) (response : Response) : (finish r response).status = response.status := by
  have kept := (response.compress_kept r.headers).1
  rw [finish]
  split <;> exact kept

/-- A response is sent with its content, or without it where only its head is asked for. -/
theorem finish_content (r : Request) (response : Response) :
    (finish r response).content = if r.method = .head then .empty else response.content := by
  have kept := (response.compress_kept r.headers).2
  rw [finish]
  split
  · rfl
  · exact kept

end Gazetteer.Http

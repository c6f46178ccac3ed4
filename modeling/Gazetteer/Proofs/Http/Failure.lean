import Gazetteer.Proofs.Entity.Malformed
import Gazetteer.Proofs.Http.Lookup
import Gazetteer.Proofs.Query.Single
import Gazetteer.Proofs.Search.Protocol

/-!
What clients learn of failures.  Whether a backend returns an error or a table that cannot be read, the failure
ends the dialogue with the response of its class, whatever the error says and whatever is in the table.
-/

namespace Gazetteer

inductive FailureClass where
  /-- No response came in time. -/
  | late
  /-- A response came that cannot be read. -/
  | unreadable
  /-- The backend could not be reached, or answered that the query failed. -/
  | failed
  | misconfigured
  deriving DecidableEq, Repr

def QueryError.failureClass : QueryError → FailureClass
  | .timeout _ _ => .late
  | .malformed _ _ => .unreadable
  | .transport _ _ | .remote _ _ _ => .failed
  | .config _ => .misconfigured

namespace FailureClass

def report : FailureClass → Http.Report
  | late => ⟨504, "gateway_timeout", "REMOTE_TIMEOUT", "Remote query timed out"⟩
  | unreadable =>
    ⟨502, "bad_gateway", "REMOTE_RESPONSE_INVALID", "Remote query returned an unreadable response"⟩
  | failed => ⟨502, "bad_gateway", "REMOTE_QUERY_FAILED", "Remote query failed"⟩
  | misconfigured => ⟨500, "internal_error", "INTERNAL", "Query backend misconfigured"⟩

def response (cls : FailureClass) : Http.Response := cls.report.response

end FailureClass

theorem QueryError.IsMalformed.failureClass {e : QueryError} (malformed : e.IsMalformed) :
    e.failureClass = .unreadable := by
  obtain ⟨backend, defect, rfl⟩ := malformed
  rfl

theorem Http.response_backend (e : QueryError) : (Problem.backend e).response = e.failureClass.response := by
  cases e <;> rfl

/-! ### Failing replies -/

inductive Unreadable : Query → Table → Prop
  | count {f : Filters} {t : Table} {e : QueryError} (unread : t.count countColumn = .error e) :
    Unreadable (f.query .count) t
  | rows {f : Filters} {t : Table} {e : QueryError} (unread : t.records = .error e) : Unreadable (f.query .rows) t
  | datasets {dataset : Option String} {t : Table} {e : QueryError}
    (unread : t.datasetCounts countColumn = .error e) : Unreadable (datasetQuery dataset) t

inductive Fails (q : Query) : Except QueryError Table → FailureClass → Prop
  | error (e : QueryError) : Fails q (.error e) e.failureClass
  | table {t : Table} (unreadable : Unreadable q t) : Fails q (.ok t) .unreadable

/-- Backends that reply alike, up to what their failures say. -/
def Backend.Alike (a b : Backend) : Prop :=
  ∀ before q, a.reply before q = b.reply before q ∨
    ∃ cls, Fails q (a.reply before q) cls ∧ Fails q (b.reply before q) cls

/-! ### Dialogues that failures end -/

/-- A dialogue that every failing reply ends, with what is told of its class. -/
inductive Dialogue.Discreet {α : Type} (told : FailureClass → α) : Dialogue α → Prop
  | answer (value : α) : Discreet told (.answer value)
  | ask {q : Query} {next : Except QueryError Table → Dialogue α}
    (ends : ∀ reply cls, Fails q reply cls → next reply = .answer (told cls))
    (rest : ∀ reply, Discreet told (next reply)) : Discreet told (.ask q next)

namespace Dialogue.Discreet

variable {α β : Type} {told : FailureClass → α} {d : Dialogue α}

theorem map (f : α → β) (discreet : Discreet told d) : Discreet (fun cls => f (told cls)) (d.map f) := by
  induction discreet with
  | answer value => exact .answer (f value)
  | ask ends _ ih =>
    refine .ask (fun reply cls fails => ?_) ih
    rw [ends reply cls fails]
    rfl

/-- Backends that reply alike are asked the same and answered for the same. -/
theorem run_eq (discreet : Discreet told d) {a b : Backend} (alike : a.Alike b) (before : List Query) :
    d.run a before = d.run b before := by
  induction discreet generalizing before with
  | answer value => rfl
  | @ask q next ends rest ih =>
    rw [run, run]
    obtain same | ⟨cls, left, right⟩ := alike before q
    · rw [same, ih]
    · -- both dialogues end here, and the class is all that is told
      rw [ends _ cls left, ends _ cls right]
      rfl

/-- After a failing reply nothing is asked, and the answer is that of its class. -/
theorem run_failed (discreet : Discreet told d) {backend : Backend} {before front rest : List Query} {q : Query}
    {cls : FailureClass} (asked : (d.run backend before).2 = front ++ q :: rest)
    (fails : Fails q (backend.reply (before ++ front) q) cls) :
    rest = [] ∧ (d.run backend before).1 = told cls := by
  induction discreet generalizing before front with
  | answer value => cases front <;> cases asked
  | @ask first next ends _ ih =>
    rw [run] at asked ⊢
    cases front with
    | nil =>
      obtain ⟨rfl, behind⟩ := List.cons.inj asked
      rw [List.append_nil] at fails
      rw [ends _ cls fails] at behind ⊢
      exact ⟨behind.symm, rfl⟩
    | cons other front =>
      obtain ⟨rfl, behind⟩ := List.cons.inj asked
      exact ih _ behind (by rwa [List.append_assoc])

end Dialogue.Discreet

/-! ### Inquiries -/

def ReadsRepliesTo {α : Type} (q : Query) (read : Table → Except QueryError α) : Prop :=
  ∀ t, Unreadable q t → ∃ e, read t = .error e ∧ e.failureClass = .unreadable

theorem ReadsRepliesTo.fails {α : Type} {q : Query} {read : Table → Except QueryError α}
    (reads : ReadsRepliesTo q read) {reply : Except QueryError Table} {cls : FailureClass} (fails : Fails q reply cls) :
    ∃ e, reply.bind read = .error e ∧ e.failureClass = cls := by
  cases fails with
  | error e => exact ⟨e, rfl, rfl⟩
  | table unreadable => exact reads _ unreadable

theorem reads_count (f : Filters) : ReadsRepliesTo (f.query .count) (·.count countColumn) := by
  intro t unreadable
  -- other tables are unreadable for other queries
  generalize same : f.query .count = q at unreadable
  cases unreadable with
  | count unread => exact ⟨_, unread, (Table.count_error unread).failureClass⟩
  | rows => exact absurd same (f.query_count_ne_rows _)
  | datasets => exact absurd same (f.query_count_ne_datasetQuery _)

theorem reads_rows {α : Type} (f : Filters) (make : List Entity.Record → α) :
    ReadsRepliesTo (f.query .rows) fun rows => rows.records.map make := by
  intro t unreadable
  generalize same : f.query .rows = q at unreadable
  cases unreadable with
  | count => exact absurd same.symm (Filters.query_count_ne_rows _ f)
  | rows unread => exact ⟨_, congrArg (Except.map make) unread, (Table.records_error unread).failureClass⟩
  | datasets => exact absurd same (f.query_rows_ne_datasetQuery _)

theorem reads_datasetCounts (dataset : Option String) :
    ReadsRepliesTo (datasetQuery dataset) (·.datasetCounts countColumn) := by
  intro t unreadable
  generalize same : datasetQuery dataset = q at unreadable
  cases unreadable with
  | count => exact absurd same.symm (Filters.query_count_ne_datasetQuery _ dataset)
  | rows => exact absurd same.symm (Filters.query_rows_ne_datasetQuery _ dataset)
  | datasets unread => exact ⟨_, unread, (Table.datasetCounts_error unread).failureClass⟩

namespace Http

variable {α : Type} {q : Query} {read : Table → Except QueryError α}

theorem discreet_query (reads : ReadsRepliesTo q read) (respond : α → Response) :
    (respondWith (.query q read) respond).Discreet FailureClass.response := by
  refine .ask (fun reply cls fails => ?_) fun reply => .answer _
  obtain ⟨e, failed, rfl⟩ := reads.fails fails
  simp only [Dialogue.bind, failed, response_backend]

theorem discreet_page (f : Filters) (respond : Page → Response) :
    (respondWith (Search.page f) respond).Discreet FailureClass.response := by
  refine .ask (fun reply cls fails => ?_) fun reply => ?_
  · obtain ⟨e, failed, rfl⟩ := (reads_count f).fails fails
    simp only [Dialogue.bind, failed, response_backend]
  · simp only [Dialogue.bind]
    cases reply.bind (·.count countColumn) with
    | error e => exact .answer _
    | ok n => exact discreet_query (reads_rows f _) respond

theorem Lookup.discreet (lookup : Lookup) : lookup.dialogue.Discreet FailureClass.response := by
  cases lookup with
  | page f => exact discreet_page f _
  | count f => exact discreet_query (reads_count f) _
  | entity name => exact discreet_query (reads_rows (Search.only name) _) _
  | datasetCounts dataset => exact discreet_query (reads_datasetCounts dataset) _

theorem respond_discreet (name : String) (r : Request) :
    (respond name r).Discreet fun cls => finish r cls.response := by
  obtain ⟨response, answered⟩ | ⟨lookup, -, -, -, answered⟩ := respond_cases name r
  · rw [answered]
    exact .answer response
  · rw [answered]
    exact lookup.discreet.map (finish r)

/-- Failures are told by their class alone.  Backends that reply alike are asked alike and lead to the same response,
except that the report on the state of the service names its backend.  What follows a failing reply is the response
of its class. -/
theorem failures_not_told (r : Request) {a b : Backend} (alike : a.Alike b)
    (named : a.name = b.name ∨ Route.ofPath? r.target.path ≠ some .health) (before : List Query) :
    (respond a.name r).run a before = (respond b.name r).run b before ∧
    ∀ front q rest cls, ((respond a.name r).run a before).2 = front ++ q :: rest →
      Fails q (a.reply (before ++ front) q) cls →
      rest = [] ∧ ((respond a.name r).run a before).1.status = cls.report.status ∧
        ((respond a.name r).run a before).1 = finish r cls.report.response := by
  refine ⟨?_, fun front q rest cls asked fails => ?_⟩
  · have same : respond a.name r = respond b.name r := by
      obtain same | elsewhere := named
      · rw [same]
      · exact respond_name elsewhere a.name b.name
    rw [(respond_discreet a.name r).run_eq alike, same]
  · obtain ⟨last, told⟩ := (respond_discreet a.name r).run_failed asked fails
    refine ⟨last, ?_, told⟩
    rw [told, finish_status]
    rfl

def firstEntity : Request := ⟨.get, ⟨"/api/v1/entity/1".toList, []⟩, []⟩

def withGeometry (value : Json) : Backend where
  name := "memory"
  reply _ q := .ok (if q = Search.entityQuery "1" then ⟨["geojson"], [[value]]⟩ else {})

def withFlag : Backend := withGeometry (.bool true)

def withNumber : Backend := withGeometry (.nat 7)

theorem withFlag_alike_withNumber : withFlag.Alike withNumber := by
  intro before q
  by_cases asked : q = Search.entityQuery "1"
  · have flag : Unreadable q ⟨["geojson"], [[.bool true]]⟩ := by rw [asked]; exact .rows rfl
    have number : Unreadable q ⟨["geojson"], [[.nat 7]]⟩ := by rw [asked]; exact .rows rfl
    simp only [withFlag, withNumber, withGeometry, if_pos asked]
    exact .inr ⟨.unreadable, .table flag, .table number⟩
  · refine .inl ?_
    simp only [withFlag, withNumber, withGeometry, if_neg asked]

theorem withNumber_told_as_withFlag :
    withFlag.Alike withNumber ∧ withFlag.name = withNumber.name ∧
      (respond withFlag.name firstEntity).run withFlag [] = (respond withNumber.name firstEntity).run withNumber [] ∧
      ((respond withFlag.name firstEntity).run withFlag []).1.status = 502 := by
  have asked : ((respond withFlag.name firstEntity).run withFlag []).2 = [] ++ Search.entityQuery "1" :: [] := by rfl
  have flag : Unreadable (Search.entityQuery "1") ⟨["geojson"], [[.bool true]]⟩ := .rows rfl
  have fails : Fails (Search.entityQuery "1") (withFlag.reply ([] ++ []) (Search.entityQuery "1")) .unreadable := by
    simp only [withFlag, withGeometry, if_pos]
    exact .table flag
  obtain ⟨same, told⟩ := failures_not_told firstEntity withFlag_alike_withNumber (.inl rfl) []
  exact ⟨withFlag_alike_withNumber, rfl, same, (told [] _ [] _ asked fails).2.1⟩

end Http

end Gazetteer

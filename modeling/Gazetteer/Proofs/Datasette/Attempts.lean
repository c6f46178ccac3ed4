import Gazetteer.Proofs.Datasette.Failure
import Gazetteer.Proofs.Retry.Calls

/-!
Attempts at a query.  The same request is sent again after transient errors and after nothing else; what the last
attempt comes to is what the query comes to.
-/

namespace Gazetteer.Datasette

open Json

/-! ### What a delivery comes to -/

def received (status : Nat) (body : List UInt8) : List UInt8 := if Http.hasContent status then body else []

def SaysFailed (body : List UInt8) : Prop := ∃ error, (tree? body).bind FailureNote.ofTree? = some ⟨some false, error⟩

/-- What each delivery is read as.  A body that says that the query failed is read as that before it is read as a
table. -/
inductive ReadAs (seconds : Nat) : Delivery → Except QueryError Table → Prop
  | failedStatus {status : Nat} {body : List UInt8} (message : String) (failed : ¬(200 ≤ status ∧ status ≤ 299)) :
    ReadAs seconds (.reply status body) (.error (.remote "datasette" status message))
  | failedQuery {status : Nat} {body : List UInt8} (message : String) (success : 200 ≤ status ∧ status ≤ 299)
    (failed : SaysFailed (received status body)) :
    ReadAs seconds (.reply status body) (.error (.remote "datasette" status message))
  | table {status : Nat} {body : List UInt8} {table : Table} (success : 200 ≤ status ∧ status ≤ 299)
    (unfailed : ¬SaysFailed (received status body))
    (read : (tree? (received status body)).bind tableOfTree? = some table) :
    ReadAs seconds (.reply status body) (.ok table)
  | noTable {status : Nat} {body : List UInt8} (success : 200 ≤ status ∧ status ≤ 299)
    (unfailed : ¬SaysFailed (received status body))
    (unread : (tree? (received status body)).bind tableOfTree? = none) :
    ReadAs seconds (.reply status body) (.error (.malformed "datasette" .noTable))
  | cutOff : ReadAs seconds .cutOff (.error (.transport "datasette" false))
  | closed : ReadAs seconds .closed (.error (.transport "datasette" true))
  | refused : ReadAs seconds .refused (.error (.transport "datasette" true))
  | late : ReadAs seconds .late (.error (.timeout "datasette" seconds))
  | ignored : ReadAs seconds .ignored (.error (.timeout "datasette" seconds))

theorem isSuccess_iff {status : Nat} : Http.isSuccess status = true ↔ 200 ≤ status ∧ status ≤ 299 := by
  rw [Http.isSuccess, Bool.and_eq_true, decide_eq_true_eq, decide_eq_true_eq]

theorem readAs_outcome (seconds : Nat) (delivery : Delivery) : ReadAs seconds delivery (delivery.outcome seconds) := by
  cases delivery with
  | cutOff => exact .cutOff
  | closed => exact .closed
  | refused => exact .refused
  | late => exact .late
  | ignored => exact .ignored
  | reply status body =>
    rw [Delivery.outcome, ← received, readReply]
    cases success : Http.isSuccess status with
    | false => exact .failedStatus _ (by rw [← isSuccess_iff, success]; exact Bool.false_ne_true)
    | true =>
      have range := isSuccess_iff.mp success
      simp only [Bool.not_true, Bool.false_eq_true, if_false]
      split
      · rename_i error note
        exact .failedQuery _ range ⟨error, note⟩
      · rename_i other
        have unfailed : ¬SaysFailed (received status body) := by
          rintro ⟨error, note⟩
          exact other error note
        cases read : (tree? (received status body)).bind tableOfTree? with
        | none => exact .noTable range unfailed read
        | some table => exact .table range unfailed read

/-! ### What is tried again -/

inductive Transient : QueryError → Prop
  | timeout (backend : String) (seconds : Nat) : Transient (.timeout backend seconds)
  /-- There is no connection, or it is closed before a response. -/
  | unanswered (backend : String) : Transient (.transport backend true)
  | gateway {status : Nat} (backend message : String) (passing : status ∈ [502, 503, 504]) :
    Transient (.remote backend status message)

theorem isTransient_iff (e : QueryError) : e.isTransient = true ↔ Transient e := by
  constructor
  · intro transient
    cases e with
    | timeout backend seconds => exact .timeout backend seconds
    | transport backend unanswered =>
      obtain rfl : unanswered = true := transient
      exact .unanswered backend
    | remote backend status message =>
      have range : 502 ≤ status ∧ status ≤ 504 := by simpa [QueryError.isTransient] using transient
      refine .gateway backend message ?_
      simp only [List.mem_cons, List.not_mem_nil, or_false]
      omega
    | malformed | config => cases transient
  · intro transient
    cases transient with
    | timeout | unanswered => rfl
    | gateway backend message passing =>
      simp only [List.mem_cons, List.not_mem_nil, or_false] at passing
      simp only [QueryError.isTransient, Bool.and_eq_true, decide_eq_true_eq]
      omega

/-! ### Attempts -/

variable (c : Client) (a : Retry.Arithmetic) (peer : (attempt : Nat) → Delivery)

theorem execute_isEnd :
    Retry.IsLastCall (Retry.IsFollowed a baseDelay QueryError.isTransient (c.outcome peer)) 1 (max c.settings.maxAttempts 1)
      (c.execute a peer).attempts :=
  Retry.run_isLastCall a _ _ _ _

theorem execute_isLastCall :
    Retry.IsLastCall (fun i => Retry.isWorthAnother QueryError.isTransient (c.outcome peer i) = true) 1
      (max c.settings.maxAttempts 1) (c.execute .unbounded peer).attempts :=
  Retry.unbounded_isLastCall _ _ _ _

theorem isWorthAnother_iff_transient {ended : Except QueryError Table} :
    Retry.isWorthAnother QueryError.isTransient ended = true ↔ ∃ e, ended = .error e ∧ Transient e := by
  simp only [Retry.isWorthAnother_iff, isTransient_iff]

/-- Words hold the waits of fifty-nine attempts and no more. -/
theorem hasRoom_iff {last : Nat} : Retry.HasRoom baseDelay last ↔ last ≤ 59 := by
  constructor
  · intro room
    refine Nat.le_of_not_lt fun many => ?_
    have beyond := (room 59 (by decide) many).2
    exact absurd beyond (by decide)
  · intro few i _ before
    have power : 2 ^ (i - 1) ≤ 2 ^ 57 := Nat.pow_le_pow_right (by decide) (by omega)
    exact ⟨Nat.lt_of_le_of_lt power (by decide), Nat.lt_of_le_of_lt (Nat.mul_le_mul_left 100 power) (by decide)⟩

variable {c a peer}

theorem execute_attempts (held : a ≠ .checked ∨ (c.execute .unbounded peer).attempts ≤ 59) :
    (c.execute a peer).attempts = (c.execute .unbounded peer).attempts :=
  (execute_isEnd c a peer).unique ((execute_isLastCall c peer).isFollowed (held.imp_right hasRoom_iff.mpr))

theorem execute_result? (held : a ≠ .checked ∨ (c.execute .unbounded peer).attempts ≤ 59) :
    (c.execute a peer).result? = some (c.outcome peer (c.execute .unbounded peer).attempts) := by
  rw [execute_returned, execute_attempts held]
  exact (execute_isLastCall c peer).returned?_eq

variable (c a peer)

def retryNotices (a : Retry.Arithmetic) (attempts : Nat) : List Notice :=
  (List.range' 1 (attempts - 1)).map fun attempt => .retrying attempt (Retry.delay a baseDelay attempt)

theorem execute_notices : (c.execute a peer).notices =
    retryNotices a (c.execute a peer).attempts ++ failureNotices (c.execute a peer).attempts (c.execute a peer).result? := by
  have waits := Retry.run_waits a c.settings.maxAttempts baseDelay QueryError.isTransient (c.outcome peer)
  have logged := congrArg (List.map fun wait : Nat × Nat => Notice.retrying wait.1 wait.2) waits
  rw [List.map_map, List.map_map] at logged
  exact congrArg (· ++ failureNotices (c.execute a peer).attempts (c.execute a peer).result?) logged

/-- The requests that arrive all ask for the same target. -/
theorem requests_eq (q : Query) : c.requests a q peer =
    List.replicate ((List.range' 1 (c.execute a peer).attempts).countP fun i => (peer i).arrives) (c.queryUrl q).target := by
  rw [Client.requests, Client.sent, List.filter_map, List.map_map, List.countP_eq_length_filter]
  exact List.map_const'

/-- A query is sent until its outcome is no transient error, or as often as allowed, and at least once.  Each attempt
is the same request; the last outcome is the result; each attempt before it is followed by a notice, and so is the last
if the query fails.  The waits double where words have no bound or the attempts are few; only a program that stops
where a word is full needs that they are few. -/
theorem execute_exact (q : Query) :
    (∀ i, ReadAs c.settings.timeoutSeconds (peer i) (c.outcome peer i)) ∧
    ∃ last,
      Retry.IsLastCall (fun i => ∃ e, c.outcome peer i = .error e ∧ Transient e) 1 (max c.settings.maxAttempts 1) last ∧
      (a = .unbounded ∨ last ≤ 59 → ∀ i, 1 ≤ i → i < last → Retry.delay a baseDelay i = 100 * 2 ^ (i - 1)) ∧
      (a ≠ .checked ∨ last ≤ 59 →
        (c.execute a peer).attempts = last ∧
        (c.execute a peer).result? = some (c.outcome peer last) ∧
        c.sent a q peer = (List.range' 1 last).map (fun i => ((c.queryUrl q).target, peer i)) ∧
        c.requests a q peer = List.replicate ((List.range' 1 last).countP fun i => (peer i).arrives) (c.queryUrl q).target ∧
        ((∃ table, c.outcome peer last = .ok table) ∧ (c.execute a peer).notices = retryNotices a last ∨
          (∃ e, c.outcome peer last = .error e) ∧ (c.execute a peer).notices = retryNotices a last ++ [.failed last] ∧
            (Notice.failed last).message = "Datasette query failed")) := by
  refine ⟨fun i => readAs_outcome _ (peer i), (c.execute .unbounded peer).attempts,
    by simpa only [isWorthAnother_iff_transient] using execute_isLastCall c peer,
    fun plain => Retry.delay_of_unbounded_or_hasRoom (plain.imp_right hasRoom_iff.mpr), fun held => ?_⟩
  have attempts := execute_attempts held
  have result := execute_result? held
  have requests := requests_eq c a peer q
  have notices := execute_notices c a peer
  rw [attempts] at requests
  rw [attempts, result] at notices
  refine ⟨attempts, result, by rw [Client.sent, attempts], requests, ?_⟩
  cases ended : c.outcome peer (c.execute .unbounded peer).attempts with
  | ok table =>
    rw [ended] at notices
    exact .inl ⟨⟨table, rfl⟩, notices.trans (List.append_nil _)⟩
  | error e =>
    rw [ended] at notices
    exact .inr ⟨⟨e, rfl⟩, notices, rfl⟩

end Gazetteer.Datasette

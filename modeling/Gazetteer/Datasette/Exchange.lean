import Gazetteer.Datasette.Reply
import Gazetteer.Retry

/-!
Sending a query.  The same request is sent until its outcome is no transient error or all attempts are used.
-/

namespace Gazetteer.Datasette

/-- What comes of a request. -/
inductive Delivery where
  /-- A complete response. -/
  | reply (status : Nat) (body : List UInt8)
  /-- A response whose body ends too early. -/
  | cutOff
  /-- The connection is closed before there is the head of a response. -/
  | closed
  /-- There is no connection. -/
  | refused
  /-- The request is taken, but not answered in full in time. -/
  | late
  /-- The connection is not taken up in time. -/
  | ignored
  deriving DecidableEq, Repr, Inhabited

/-- Whether the request reaches the server. -/
def Delivery.arrives : Delivery → Bool
  | .reply _ _ | .cutOff | .closed | .late => true
  | .refused | .ignored => false

def Delivery.outcome (seconds : Nat) : Delivery → Except QueryError Table
  | .reply status body => readReply status (if Http.hasContent status then body else [])
  | .cutOff => .error (.transport backendName false)
  | .closed | .refused => .error (.transport backendName true)
  | .late | .ignored => .error (.timeout backendName seconds)

/-- What is logged about a query. -/
inductive Notice where
  | retrying (attempt delay : Nat)
  | failed (attempts : Nat)
  deriving DecidableEq, Repr

def Notice.message : Notice → String
  | .retrying _ _ => Retry.waitMessage
  | .failed _ => "Datasette query failed"

/-- The wait after the first attempt, in milliseconds. -/
def baseDelay : Nat := 100

structure Exchange where
  /-- Nothing if the program stopped between two attempts. -/
  result? : Option (Except QueryError Table)
  attempts : Nat
  notices : List Notice

def failureNotices (attempts : Nat) : Option (Except QueryError Table) → List Notice
  | some (.error _) => [.failed attempts]
  | some (.ok _) | none => []

/-- Sends a query to a peer whose deliveries are numbered from one. -/
def Client.execute (c : Client) (a : Retry.Arithmetic) (peer : (attempt : Nat) → Delivery) : Exchange :=
  let retried := Retry.run a c.settings.maxAttempts baseDelay QueryError.isTransient fun attempt =>
    (peer attempt).outcome c.settings.timeoutSeconds
  { result? := retried.result?
    attempts := retried.attempts
    notices := (retried.waits.map fun wait => .retrying wait.attempt wait.delay)
      ++ failureNotices retried.attempts retried.result? }

/-- The attempts at a query in their order, each with its target and what comes of it. -/
def Client.sent (c : Client) (a : Retry.Arithmetic) (q : Query) (peer : (attempt : Nat) → Delivery) :
    List (String × Delivery) :=
  (List.range' 1 (c.execute a peer).attempts).map fun attempt => ((c.queryUrl q).target, peer attempt)

/-- The targets of the requests for a query that reach the peer. -/
def Client.requests (c : Client) (a : Retry.Arithmetic) (q : Query) (peer : (attempt : Nat) → Delivery) : List String :=
  ((c.sent a q peer).filter (·.2.arrives)).map (·.1)

end Gazetteer.Datasette

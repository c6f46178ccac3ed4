import Gazetteer.Query
import Gazetteer.Table

/-!
Dialogues with a backend.  A dialogue ends with an answer or asks one query and goes on with what the
backend replies.  Running it gives the answer and the queries that were asked, in order.
-/

namespace Gazetteer

inductive Dialogue (α : Type) where
  | answer (value : α)
  | ask (query : Query) (next : Except QueryError Table → Dialogue α)

namespace Dialogue

variable {α β : Type}

def bind : Dialogue α → (α → Dialogue β) → Dialogue β
  | .answer value, f => f value
  | .ask query next, f => .ask query fun reply => (next reply).bind f

instance : Monad Dialogue where
  pure := .answer
  bind := bind

def map (f : α → β) (d : Dialogue α) : Dialogue β := d.bind fun value => .answer (f value)

end Dialogue

/-- What replies to queries; its replies may depend on the queries that it was asked before. -/
structure Backend where
  name : String
  reply : (before : List Query) → Query → Except QueryError Table

/-- The answer of a dialogue and the queries asked in it, after earlier ones. -/
def Dialogue.run {α : Type} (backend : Backend) (before : List Query) : Dialogue α → α × List Query
  | .answer value => (value, [])
  | .ask query next =>
    let rest := (next (backend.reply before query)).run backend (before ++ [query])
    (rest.1, query :: rest.2)

theorem Dialogue.run_bind {α β : Type} (backend : Backend) (d : Dialogue α) (f : α → Dialogue β)
    (before : List Query) :
    (d.bind f).run backend before =
      let first := d.run backend before
      let second := (f first.1).run backend (before ++ first.2)
      (second.1, first.2 ++ second.2) := by
  induction d generalizing before with
  | answer value => simp [Dialogue.bind, Dialogue.run]
  | ask query next ih => simp [Dialogue.bind, Dialogue.run, ih]

/-- A dialogue that may fail at the first reply that is an error. -/
abbrev Inquiry (α : Type) := Dialogue (Except QueryError α)

namespace Inquiry

variable {α β : Type}

/-- Asks a query and reads the reply; an error ends the inquiry. -/
def query (q : Query) (read : Table → Except QueryError α) : Inquiry α :=
  .ask q fun reply => .answer (reply.bind read)

/-- Goes on with a result; an error ends the inquiry. -/
def andThen (d : Inquiry α) (f : α → Inquiry β) : Inquiry β :=
  Dialogue.bind d fun
    | .ok value => f value
    | .error e => .answer (.error e)

end Inquiry

end Gazetteer

/-!
Retrying with backoff.  An operation is called until it succeeds, fails in a way that is not worth another
call, or has been called as often as allowed.  Before a call that follows a failure comes a wait, and each
wait is twice as long as the one before.  Waits are reckoned in words of 64 bits, and what becomes of a wait
that no word holds depends on how the program was built.
-/

namespace Gazetteer

/-- A failure that is followed by another call. -/
structure Wait (ε : Type) where
  error : ε
  /-- The number of the call that failed. -/
  attempt : Nat
  /-- The wait, in milliseconds. -/
  delay : Nat
  deriving DecidableEq, Repr

/-- How calls ended, and what happened before the last one. -/
structure Retried (ε α : Type) where
  /-- What the last call came to; nothing if the program stopped because no word holds the wait after it. -/
  result? : Option (Except ε α)
  attempts : Nat
  waits : List (Wait ε)

namespace Retry

variable {ε α : Type}

/-- How many numbers a word of 64 bits tells apart. -/
def wordSize : Nat := 0x10000000000000000

/-- What becomes of a number that no word holds. -/
inductive Arithmetic where
  /-- Nothing: words have no bound. -/
  | unbounded
  /-- What goes beyond the word is cut off. -/
  | wrapping
  /-- The program stops. -/
  | checked
  deriving DecidableEq, Repr

def Arithmetic.word? : Arithmetic → Nat → Option Nat
  | .unbounded, n => some n
  | .wrapping, n => some (n % wordSize)
  | .checked, n => if n < wordSize then some n else none

/-- The wait after a call that failed.  The power and the wait are words. -/
def backoff? (a : Arithmetic) (base attempt : Nat) : Option Nat :=
  (a.word? (Nat.pow 2 (attempt - 1))).bind fun power => a.word? (base * power)

/-- Calls with a number and then at most `left` more calls. -/
def runFrom (a : Arithmetic) (base : Nat) (retryable : ε → Bool) (outcome : (attempt : Nat) → Except ε α) :
    (left attempt : Nat) → Retried ε α
  | 0, attempt => ⟨some (outcome attempt), attempt, []⟩
  | left + 1, attempt =>
    match outcome attempt with
    | .ok value => ⟨some (.ok value), attempt, []⟩
    | .error e =>
      if retryable e then
        match backoff? a base attempt with
        | none => ⟨none, attempt, []⟩
        | some delay =>
          let rest := runFrom a base retryable outcome left (attempt + 1)
          { rest with waits := ⟨e, attempt, delay⟩ :: rest.waits }
      else ⟨some (.error e), attempt, []⟩

/-- Calls up to `limit` times, and at least once.  Calls are numbered from one. -/
def run (a : Arithmetic) (limit base : Nat) (retryable : ε → Bool) (outcome : (attempt : Nat) → Except ε α) :
    Retried ε α :=
  runFrom a base retryable outcome (limit - 1) 1

/-- The text that goes with a wait. -/
def waitMessage : String := "Retrying after transient error"

end Retry

end Gazetteer

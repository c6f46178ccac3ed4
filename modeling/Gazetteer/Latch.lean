import Gazetteer.Watch

/-!
The latch that stops the server.  Any number of handles hold it, and each of them can raise it; once raised
it stays raised.  A wait ends when the latch is raised, or when no handle is left that could raise it.

The latch is a channel.  The handles share its sender and have a receiver each, and so has every wait, which holds no share of the
sender and may outlive the handle that it was begun with.
-/

namespace Gazetteer

inductive Latch.Waiting (w : Watch) where
  | running (receiver : w.Receiver)
  | ended

structure Latch (w : Watch := .counted) where
  channel : w.Shared := (w.opened false).1
  /-- How many handles share the sender, which goes with the last of them. -/
  shares : Nat := 1
  /-- The receivers of the handles made so far, of those that are still held. -/
  handles : List (Option w.Receiver) := [some (w.opened false).2]
  /-- The waits begun so far, without those that are given up. -/
  waits : List (Option (Latch.Waiting w)) := []

namespace Latch

variable {w : Watch}

/-- What is done with a handle or a wait; both are numbered in the order in which they were made. -/
inductive Act where
  | clone (handle : Nat)
  | raise (handle : Nat)
  | look (handle : Nat)
  | wait (handle : Nat)
  | drop (handle : Nat)
  | poll (wait : Nat)
  | giveUp (wait : Nat)
  deriving DecidableEq, Repr

inductive Answer where
  | done
  /-- The number of a new handle or a new wait. -/
  | made (number : Nat)
  | raised (value : Bool)
  | ended (value : Bool)
  deriving DecidableEq, Repr

/-- The receiver of a handle that is held. -/
def receiver? (l : Latch w) (handle : Nat) : Option w.Receiver := l.handles[handle]?.join

/-- A wait that is not given up. -/
def wait? (l : Latch w) (wait : Nat) : Option (Waiting w) := l.waits[wait]?.join

def clone (l : Latch w) (receiver : w.Receiver) : Latch w × Answer :=
  let (channel, other) := w.join l.channel receiver
  ({ l with channel, shares := l.shares + 1, handles := l.handles ++ [some other] }, .made l.handles.length)

/-- Nobody looks whether the value is received. -/
def raise (l : Latch w) : Latch w × Answer :=
  ({ l with channel := (w.send true l.channel).getD l.channel }, .done)

def wait (l : Latch w) (receiver : w.Receiver) : Latch w × Answer :=
  let (channel, other) := w.join l.channel receiver
  ({ l with channel, waits := l.waits ++ [some (.running other)] }, .made l.waits.length)

/-- The share in the sender goes before the receiver. -/
def drop (l : Latch w) (handle : Nat) (receiver : w.Receiver) : Latch w × Answer :=
  let shares := l.shares - 1
  let channel := if shares = 0 then w.close l.channel else l.channel
  ({ l with channel := w.leave channel receiver, shares, handles := l.handles.set handle none }, .done)

/-- A wait has ended whether it found the latch raised or nobody who could raise it. -/
def poll (l : Latch w) (wait : Nat) : Waiting w → Latch w × Answer
  | .ended => (l, .ended true)
  | .running receiver =>
    match w.waitFor id l.channel receiver with
    | (.pending, receiver) => ({ l with waits := l.waits.set wait (some (.running receiver)) }, .ended false)
    | (.found, receiver) | (.closed, receiver) =>
      ({ l with channel := w.leave l.channel receiver, waits := l.waits.set wait (some .ended) }, .ended true)

/-- A wait may be given up before or after its end. -/
def giveUp (l : Latch w) (wait : Nat) : Waiting w → Latch w × Answer
  | .ended => ({ l with waits := l.waits.set wait none }, .done)
  | .running receiver =>
    ({ l with channel := w.leave l.channel receiver, waits := l.waits.set wait none }, .done)

/-- An act on a handle that is not held or a wait that was never begun or is given up is refused. -/
def step (l : Latch w) : Act → Option (Latch w × Answer)
  | .clone handle => (l.receiver? handle).map l.clone
  | .raise handle => (l.receiver? handle).map fun _ => l.raise
  | .look handle => (l.receiver? handle).map fun receiver => (l, .raised (w.look l.channel receiver))
  | .wait handle => (l.receiver? handle).map l.wait
  | .drop handle => (l.receiver? handle).map (l.drop handle)
  | .poll wait => (l.wait? wait).map (l.poll wait)
  | .giveUp wait => (l.wait? wait).map (l.giveUp wait)

/-- The latch after a list of acts and the answer to each. -/
def run (l : Latch w) : List Act → Option (Latch w × List Answer)
  | [] => some (l, [])
  | act :: acts =>
    (l.step act).bind fun (next, answer) => (next.run acts).map fun (last, answers) => (last, answer :: answers)

end Latch

end Gazetteer

/-!
Watched values.  A sender replaces the value, and receivers look at it or wait for one that they want.  A channel is known by what
it documents of this; the channel that the program runs with counts its receivers.
-/

namespace Gazetteer

namespace Watch

/-- What there is to know about a channel. -/
structure View where
  value : Bool
  /-- How many receivers there are. -/
  receivers : Nat
  /-- Whether the sender is still there. -/
  isOpen : Bool
  deriving DecidableEq, Repr

/-- How far a receiver that waits has come. -/
inductive Progress where
  | pending
  | found
  /-- No value will be sent any more. -/
  | closed
  deriving DecidableEq, Repr

end Watch

structure Watch where
  /-- What the sender and the receivers share. -/
  Shared : Type
  /-- What a receiver keeps for itself. -/
  Receiver : Type
  view : Shared → Watch.View
  /-- A channel with a value, its sender and one receiver. -/
  opened : Bool → Shared × Receiver
  /-- Replaces the value, unless nobody would receive it. -/
  send : Bool → Shared → Option Shared
  /-- The sender is gone. -/
  close : Shared → Shared
  look : Shared → Receiver → Bool
  /-- A further receiver, made from one. -/
  join : Shared → Receiver → Shared × Receiver
  /-- A receiver is gone. -/
  leave : Shared → Receiver → Shared
  /-- Looks whether the value is wanted. -/
  waitFor : (Bool → Bool) → Shared → Receiver → Watch.Progress × Receiver

namespace Watch

/-- What is documented of a channel.  A value is sent as long as there is a receiver; one that waits looks at the value as it is
before anything else, and stops where no sender is left. -/
structure Documented (w : Watch) : Prop where
  view_opened (value : Bool) : w.view (w.opened value).1 = ⟨value, 1, true⟩
  view_send (value : Bool) (s : w.Shared) :
    (w.send value s).map w.view = if (w.view s).receivers = 0 then none else some { w.view s with value }
  view_close (s : w.Shared) : w.view (w.close s) = { w.view s with isOpen := false }
  look_eq (s : w.Shared) (r : w.Receiver) : w.look s r = (w.view s).value
  view_join (s : w.Shared) (r : w.Receiver) :
    w.view (w.join s r).1 = { w.view s with receivers := (w.view s).receivers + 1 }
  view_leave (s : w.Shared) (r : w.Receiver) :
    w.view (w.leave s r) = { w.view s with receivers := (w.view s).receivers - 1 }
  waitFor_eq (wanted : Bool → Bool) (s : w.Shared) (r : w.Receiver) :
    (w.waitFor wanted s r).1 =
      if wanted (w.view s).value then .found else if (w.view s).isOpen then .pending else .closed

/-- A channel that is what there is to know about it. -/
def counted : Watch where
  Shared := View
  Receiver := Unit
  view s := s
  opened value := (⟨value, 1, true⟩, ())
  send value s := if s.receivers = 0 then none else some { s with value }
  close s := { s with isOpen := false }
  look s _ := s.value
  join s _ := ({ s with receivers := s.receivers + 1 }, ())
  leave s _ := { s with receivers := s.receivers - 1 }
  waitFor wanted s _ := (if wanted s.value then .found else if s.isOpen then .pending else .closed, ())

theorem counted_documented : counted.Documented where
  view_opened _ := rfl
  view_send value s := by
    change (if s.receivers = 0 then none else some { s with value }).map id = _
    rw [Option.map_id]
    rfl
  view_close _ := rfl
  look_eq _ _ := rfl
  view_join _ _ := rfl
  view_leave _ _ := rfl
  waitFor_eq _ _ _ := rfl

end Watch

end Gazetteer

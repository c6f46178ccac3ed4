import Gazetteer.Net.Address

/-!
Taking up the address that the server listens on.
-/

namespace Gazetteer.Server

/-- Why an address and a port cannot be listened on. -/
inductive Refusal where
  /-- Another program has the port. -/
  | inUse
  /-- The address belongs to another machine. -/
  | notLocal
  deriving DecidableEq, Repr

def Refusal.message : Refusal → String
  | .inUse => "Address already in use (os error 98)"
  | .notLocal => "Cannot assign requested address (os error 99)"

/-- The network of the machine: what it refuses to listen on. -/
abbrev Network := Net.Address → Nat → Option Refusal

inductive Fault where
  | noAddress
  | refused (refusal : Refusal)
  deriving DecidableEq, Repr

def Fault.message : Fault → String
  | .noAddress => "invalid IP address syntax"
  | .refused refusal => refusal.message

/-- The address that is listened on. -/
def listen (network : Network) (host : String) (port : Nat) : Except Fault Net.Address :=
  match Net.Address.ofChars? host.toList with
  | none => .error .noAddress
  | some address =>
    match network address port with
    | some refusal => .error (.refused refusal)
    | none => .ok address

end Gazetteer.Server

import Gazetteer.Number.Binary64

/-!
JSON values.  Objects keep the order in which their keys were first written.
-/

namespace Gazetteer

/-- A JSON number: a whole number of 64 bits, or a double with its sign. -/
inductive Json.Number where
  | integer (value : Int)
  | double (negative : Bool) (size : Number.Binary64)
  deriving DecidableEq, Repr

inductive Json where
  | null
  | bool (value : Bool)
  | number (value : Json.Number)
  | text (value : String)
  | array (items : List Json)
  | object (fields : List (String × Json))
  deriving BEq, Repr, Inhabited

namespace Json

def nat (n : Nat) : Json := .number (.integer n)

def texts (values : List String) : Json := .array (values.map .text)

def ofOption (value : Option Json) : Json := value.getD .null

/-- The fields with a value given to a key: in its old place, or at the end. -/
def insertField (key : String) (value : Json) : List (String × Json) → List (String × Json)
  | [] => [(key, value)]
  | (k, v) :: rest => if k = key then (k, value) :: rest else (k, v) :: insertField key value rest

def lookup (key : String) (fields : List (String × Json)) : Option Json :=
  (fields.find? (·.1 == key)).map (·.2)

def field? (key : String) : Json → Option Json
  | .object fields => lookup key fields
  | _ => none

def text? : Json → Option String
  | .text s => some s
  | _ => none

def nat? : Json → Option Nat
  | .number (.integer n) => if 0 ≤ n then some n.toNat else none
  | _ => none

end Json

end Gazetteer

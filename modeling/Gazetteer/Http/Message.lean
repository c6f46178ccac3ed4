import Gazetteer.Json.Printer
import Gazetteer.Text.Split

/-!
Requests and responses.  A request names its method, its target and its headers; a response has a status,
headers and perhaps content.
-/

namespace Gazetteer.Http

abbrev Header := String × String

inductive Method where
  | get
  | head
  | options
  | other
  deriving DecidableEq, Repr

def Method.ofName (name : String) : Method :=
  if name = "GET" then .get
  else if name = "HEAD" then .head
  else if name = "OPTIONS" then .options
  else .other

/-- What a request asks for: a path and the text of a query, both as they were sent. -/
structure Target where
  path : List Char
  query : List Char
  deriving DecidableEq, Repr

/-- A query follows the first question mark; a fragment is not sent. -/
def Target.ofUri (uri : String) : Target :=
  let (path, query) := Text.splitAtFirst '?' (Text.splitAtFirst '#' uri.toList).1
  ⟨path, query⟩

structure Request where
  method : Method
  target : Target
  headers : List Header
  deriving DecidableEq, Repr

inductive Content where
  | empty
  | json (value : Json)
  /-- The description of the service. -/
  | document
  deriving BEq, Repr

/-- The least number of bytes that are worth compressing. -/
def leastCompressed : Nat := 32

def Content.isLong : Content → Bool
  | .empty => false
  | .json value => leastCompressed ≤ value.render.utf8ByteSize
  | .document => true

structure Response where
  status : Nat
  headers : List Header
  content : Content
  /-- Whether the content is sent compressed. -/
  gzipped : Bool := false
  deriving BEq, Repr

namespace Response

def empty (status : Nat) : Response := ⟨status, [], .empty, false⟩

def json (status : Nat) (value : Json) : Response :=
  ⟨status, [("content-type", "application/json")], .json value, false⟩

def document : Response := ⟨200, [("content-type", "application/json")], .document, false⟩

def addHeader (r : Response) (name value : String) : Response := { r with headers := r.headers ++ [(name, value)] }

def dropContent (r : Response) : Response := { r with content := .empty }

end Response

end Gazetteer.Http

import Gazetteer.Query
import Gazetteer.Table
import Gazetteer.Url.Parser

/-!
Where queries are sent and what a request for one looks like.
-/

namespace Gazetteer.Datasette

/-- How values reach the server: beside the statement, or inside it as literals. -/
inductive ParameterMode where
  | bound
  | inline
  deriving DecidableEq, Repr

def ParameterMode.name : ParameterMode → String
  | .bound => "bound"
  | .inline => "inline"

def ParameterMode.all : List ParameterMode := [.bound, .inline]

def ParameterMode.ofName? (name : String) : Option ParameterMode := all.find? (·.name == name)

structure Settings where
  url : String
  database : String
  timeoutSeconds : Nat
  mode : ParameterMode
  maxAttempts : Nat
  deriving DecidableEq, Repr

def backendName : String := "datasette"

/-- The text without slashes at its end. -/
def trimSlashes (s : String) : String := .ofList (s.toList.reverse.dropWhile (· == '/')).reverse

/-- The address of a database below the address of its server. -/
def endpoint (s : Settings) : String := trimSlashes s.url ++ "/" ++ s.database ++ ".json"

structure Client where
  settings : Settings
  url : Url
  deriving DecidableEq, Repr

/-- A client for an endpoint that is a URL. -/
def Client.ofSettings (s : Settings) : Except QueryError Client :=
  match Url.parse (endpoint s) with
  | .ok url => .ok ⟨s, url⟩
  | .error fault =>
    .error (.config ("invalid datasette url " ++ endpoint s ++ ": " ++ fault.message))

/-- The pairs that carry a query. -/
def queryPairs (mode : ParameterMode) (q : Query) : List (String × String) :=
  (match mode with
    | .bound => ("sql", q.sql) :: q.named
    | .inline => [("sql", q.inlined)])
    ++ [("_shape", "arrays")]

def Client.queryUrl (c : Client) (q : Query) : Url := c.url.addPairs (queryPairs c.settings.mode q)

end Gazetteer.Datasette

import Gazetteer.Http.Message
import Gazetteer.Http.Parameters
import Gazetteer.Table

/-!
Problems that a response can report.  What a backend said about its failure is not part of any response.
-/

namespace Gazetteer.Http

inductive Problem where
  | noRoute (path : String)
  /-- The segment of a path that names an entity is no text. -/
  | segmentBytes
  | segmentLength
  | parameter (error : ParameterError)
  | limitRange
  | datasetLength
  | missingEntity (entity : String)
  | backend (error : QueryError)
  deriving BEq, Repr

/-- The code and the text of a problem, under a status and its name. -/
structure Report where
  status : Nat
  kind : String
  code : String
  message : String
  deriving DecidableEq, Repr

def Report.response (r : Report) : Response :=
  .json r.status (.object [("error", .text r.kind), ("code", .text r.code), ("message", .text r.message)])

def badRequest (code message : String) : Report := ⟨400, "bad_request", code, message⟩

def notFound (code message : String) : Report := ⟨404, "not_found", code, message⟩

/-- The bounds of a limit. -/
def leastLimit : Nat := 1
def greatestLimit : Nat := 500

def isLimit (n : Nat) : Bool := leastLimit ≤ n && n ≤ greatestLimit

def limitMessage : String :=
  "Limit must be between " ++ toString leastLimit ++ " and " ++ toString greatestLimit

/-- The greatest length of the text that names an entity, in bytes, and of a dataset's name, in characters. -/
def greatestNameLength : Nat := 256

def isEntityName (name : String) : Bool := !name.isEmpty && name.utf8ByteSize ≤ greatestNameLength

def isDatasetName (name : String) : Bool := !name.isEmpty && name.length ≤ greatestNameLength

/-- The report of a failed query, which depends on the class of the error alone. -/
def failureReport : QueryError → Report
  | .timeout _ _ => ⟨504, "gateway_timeout", "REMOTE_TIMEOUT", "Remote query timed out"⟩
  | .malformed _ _ =>
    ⟨502, "bad_gateway", "REMOTE_RESPONSE_INVALID", "Remote query returned an unreadable response"⟩
  | .transport _ _ | .remote _ _ _ => ⟨502, "bad_gateway", "REMOTE_QUERY_FAILED", "Remote query failed"⟩
  | .config _ => ⟨500, "internal_error", "INTERNAL", "Query backend misconfigured"⟩

def Problem.report : Problem → Report
  | .noRoute path => notFound "ROUTE_NOT_FOUND" ("No route for " ++ path)
  | .segmentBytes => badRequest "PATH_PARSE_ERROR" ("Invalid URL: Invalid UTF-8 in " ++ quoted "entity")
  | .segmentLength =>
    badRequest "INVALID_ENTITY_ID"
      ("Invalid entity: must be 1-" ++ toString greatestNameLength ++ " characters")
  | .parameter error =>
    badRequest "QUERY_PARSE_ERROR"
      ("Failed to deserialize query string: " ++ error.key ++ ": " ++ error.fault.message)
  | .limitRange => badRequest "VALIDATION_ERROR" limitMessage
  | .datasetLength => badRequest "VALIDATION_ERROR" "dataset: validation failed"
  | .missingEntity entity => notFound "ENTITY_NOT_FOUND" ("Entity not found: " ++ entity)
  | .backend error => failureReport error

def Problem.response (p : Problem) : Response := p.report.response

end Gazetteer.Http

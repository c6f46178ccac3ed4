import Gazetteer.About
import Gazetteer.Filter.Normal
import Gazetteer.Http.Compression
import Gazetteer.Http.Problem
import Gazetteer.Http.Route
import Gazetteer.Search

/-!
The service.  A request is answered by a dialogue with the backend.  Everything that can be wrong with a
request is found before the first query.
-/

namespace Gazetteer.Http

/-! ### Reading requests -/

/-- The normalized filters of a query, with a limit in bounds. -/
def requestedFilters (query : List Char) : Except Problem Filters :=
  match readFilters query with
  | .error e => .error (.parameter e)
  | .ok f => if isLimit f.limit then .ok f.normalize else .error .limitRange

def requestedDataset (query : List Char) : Except Problem (Option String) :=
  match readDataset query with
  | .error e => .error (.parameter e)
  | .ok none => .ok none
  | .ok (some name) => if isDatasetName name then .ok (some name) else .error .datasetLength

def requestedEntity (segment : String) : Except Problem String :=
  match Text.decodeSegment? segment.toList with
  | none => .error .segmentBytes
  | some name => if isEntityName name then .ok name else .error .segmentLength

/-! ### Answering -/

/-- Answers a request that could be read. -/
def ifRead {α : Type} (read : Except Problem α) (answer : α → Dialogue Response) : Dialogue Response :=
  match read with
  | .ok value => answer value
  | .error p => .answer p.response

/-- The response to what an inquiry finds. -/
def respondWith {α : Type} (inquiry : Inquiry α) (respond : α → Response) : Dialogue Response :=
  Dialogue.map
    (fun
      | .ok value => respond value
      | .error e => (Problem.backend e).response)
    inquiry

def healthJson (backend : String) : Json :=
  .object [("status", .text "ok"), ("version", .text version), ("backend", .text backend)]

def countJson (f : Filters) (n : Nat) : Json := .object [("query", f.toJson), ("count", .nat n)]

def entityResponse (entity : String) : Option Entity.Record → Response
  | some record => .json 200 record.toJson
  | none => (Problem.missingEntity entity).response

/-- The answer of a route to a query, from the backend with a name. -/
def Route.answer (backend : String) (query : List Char) : Route → Dialogue Response
  | .document => .answer .document
  | .health => .answer (.json 200 (healthJson backend))
  | .search =>
    ifRead (requestedFilters query) fun f => respondWith (Search.page f) fun page => .json 200 page.toJson
  | .count =>
    ifRead (requestedFilters query) fun f => respondWith (Search.count f) fun n => .json 200 (countJson f n)
  | .preview =>
    ifRead (requestedFilters query) fun f => .answer (.json 200 (Search.preview f).toJson)
  | .entity segment =>
    ifRead (requestedEntity segment) fun entity => respondWith (Search.entity? entity) (entityResponse entity)
  | .datasetCounts =>
    ifRead (requestedDataset query) fun dataset =>
      respondWith (Search.datasetCounts dataset) fun counts => .json 200 (.array (counts.map (·.toJson)))

/-! ### The whole service -/

def allowedMethods : String := "GET,HEAD"

/-- Any page may read any response. -/
def Response.allowOrigins (r : Response) : Response :=
  (r.addHeader "access-control-allow-origin" "*").addHeader "vary"
    "origin, access-control-request-method, access-control-request-headers"

/-- The methods of a route are told where there is a route. -/
def Response.allowMethods (r : Response) (route : Option Route) : Response :=
  if route.isSome then r.addHeader "allow" allowedMethods else r

/-- The answer to a question about what may be requested. -/
def preflight (route : Option Route) : Response :=
  (((Response.empty 200).addHeader "access-control-allow-methods" "GET,HEAD,OPTIONS").addHeader
    "access-control-allow-headers" "content-type,accept,origin,cache-control").allowMethods route

/-- The answer before it is made fit for the client. -/
def plainAnswer (backend : String) (r : Request) : Dialogue Response :=
  match Route.ofPath? r.target.path with
  | none => .answer (Problem.noRoute (.ofList r.target.path)).response
  | some route =>
    if r.method = .get || r.method = .head then route.answer backend r.target.query
    else .answer ((Response.empty 405).allowMethods (some route))

/-- A response as it is sent. -/
def finish (r : Request) (response : Response) : Response :=
  let sent := (response.compress r.headers).allowOrigins
  if r.method = .head then sent.dropContent else sent

def respond (backend : String) (r : Request) : Dialogue Response :=
  if r.method = .options then .answer (preflight (Route.ofPath? r.target.path)).allowOrigins
  else Dialogue.map (finish r) (plainAnswer backend r)

end Gazetteer.Http

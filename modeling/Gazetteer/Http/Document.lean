import Gazetteer.About
import Gazetteer.Entity.Record
import Gazetteer.Filter.Normal

/-!
The description of the service: its operations, their parameters and responses, and the shapes of what
they return.
-/

namespace Gazetteer.Http.Document

structure Tag where
  name : String
  description : String
  deriving DecidableEq, Repr

structure Parameter where
  name : String
  place : String
  required : Bool
  deriving DecidableEq, Repr

structure Outcome where
  status : Nat
  description : String
  deriving DecidableEq, Repr

/-- A `get` operation on a path. -/
structure Operation where
  path : String
  name : String
  summary : String
  tag : Tag
  parameters : List Parameter := []
  outcomes : List Outcome
  deriving DecidableEq, Repr

/-- The shape of a value: an object with properties, or one of several names. -/
inductive Shape where
  | properties (names : List String)
  | choices (names : List String)
  deriving DecidableEq, Repr

structure Schema where
  name : String
  shape : Shape
  deriving DecidableEq, Repr

def title : String := "Entity Search API"

def description : String := "Read-only entity search over a Datasette endpoint"

def healthTag : Tag := ⟨"health", "Health check endpoint"⟩
def entityTag : Tag := ⟨"entity", "Entity search and lookup"⟩
def datasetsTag : Tag := ⟨"datasets", "Per-dataset statistics"⟩

def tags : List Tag := [healthTag, entityTag, datasetsTag]

def invalidQuery : Outcome := ⟨400, "Invalid query parameters"⟩
def queryFailed : Outcome := ⟨502, "Remote query failed"⟩
def queryTimedOut : Outcome := ⟨504, "Remote query timed out"⟩

/-- The operations, in the order of their paths. -/
def operations : List Operation :=
  [{ path := "/api/v1/datasets/entity-counts", name := "dataset_entity_counts"
     summary := "Entity counts per dataset", tag := datasetsTag
     parameters := [⟨"dataset", "query", false⟩], outcomes := [⟨200, "Counts per dataset"⟩, queryFailed] },
    { path := "/api/v1/entity", name := "search_entities", summary := "Search entities", tag := entityTag
      outcomes := [⟨200, "Matching entities"⟩, invalidQuery, queryFailed, queryTimedOut] },
    { path := "/api/v1/entity/count", name := "count_entities"
      summary := "Count entities matching the filters", tag := entityTag
      outcomes := [⟨200, "Match count"⟩, invalidQuery, queryFailed, queryTimedOut] },
    { path := "/api/v1/entity/sql", name := "entity_sql"
      summary := "Show the SQL a search would run, without running it", tag := entityTag
      outcomes := [⟨200, "Compiled queries"⟩, invalidQuery] },
    { path := "/api/v1/entity/\x7bentity\x7d", name := "get_entity", summary := "Get a single entity"
      tag := entityTag, parameters := [⟨"entity", "path", true⟩]
      outcomes := [⟨200, "Entity"⟩, ⟨404, "Entity not found"⟩, queryFailed] },
    { path := "/api/v1/health", name := "health", summary := "Health check endpoint", tag := healthTag
      outcomes := [⟨200, "Service is healthy"⟩] }]

/-- What is returned, in the order of the names. -/
def schemas : List Schema :=
  [⟨"DatasetCountsQuery", .properties ["dataset"]⟩,
    ⟨"DatasetEntityCount", .properties ["count", "dataset"]⟩,
    ⟨"DateMatch", .choices (Filter.DateMatch.choices.map (·.name))⟩,
    ⟨"EntityCountResponse", .properties ["count", "query"]⟩,
    ⟨"EntityRecord", .properties (ordered (Entity.Field.all.map (·.column)))⟩,
    ⟨"EntitySearchResponse", .properties ["count", "query", "results"]⟩,
    ⟨"EntriesOption", .choices Filter.Lifecycle.names⟩,
    ⟨"FilterSet", .properties (ordered (Filter.Key.all.map (·.name)))⟩,
    ⟨"GeometryRelation", .choices Filter.Relation.names⟩,
    ⟨"HealthResponse", .properties ["backend", "status", "version"]⟩,
    ⟨"SqlPreview", .properties ["count_sql", "inline_sql", "params", "sql"]⟩]

def Parameter.toJson (p : Parameter) : Json := .array [.text p.name, .text p.place, .bool p.required]

def Outcome.toJson (o : Outcome) : Json := .array [.text (toString o.status), .text o.description]

def Operation.toJson (o : Operation) : Json :=
  .object [("path", .text o.path), ("methods", .texts ["get"]), ("tags", .texts [o.tag.name]),
    ("operation_id", .text o.name), ("summary", .text o.summary),
    ("parameters", .array (o.parameters.map (·.toJson))), ("responses", .array (o.outcomes.map (·.toJson)))]

def Tag.toJson (t : Tag) : Json := .object [("name", .text t.name), ("description", .text t.description)]

def Schema.toJson (s : Schema) : Json :=
  match s.shape with
  | .properties names => .object [("name", .text s.name), ("properties", .texts names), ("enum", .null)]
  | .choices names => .object [("name", .text s.name), ("properties", .texts []), ("enum", .texts names)]

/-- An outline of the description. -/
def outline : Json :=
  .object [("title", .text title), ("version", .text version), ("description", .text description),
    ("tags", .array (tags.map (·.toJson))), ("paths", .array (operations.map (·.toJson))),
    ("schemas", .array (schemas.map (·.toJson)))]

end Gazetteer.Http.Document

/-!
The routes of the service.  A path is compared with them as it was sent, segment by segment; the segment
that names an entity may be any that is not empty and not the name of a fixed route.
-/

namespace Gazetteer.Http

inductive Route where
  | document
  | health
  | search
  | count
  | preview
  | entity (segment : String)
  | datasetCounts
  deriving DecidableEq, Repr

namespace Route

def ofSegments? : List String → Option Route
  | ["", "api", "openapi.json"] => some .document
  | ["", "api", "v1", "health"] => some .health
  | ["", "api", "v1", "entity"] => some .search
  | ["", "api", "v1", "entity", "count"] => some .count
  | ["", "api", "v1", "entity", "sql"] => some .preview
  | ["", "api", "v1", "entity", segment] => if segment.isEmpty then none else some (.entity segment)
  | ["", "api", "v1", "datasets", "entity-counts"] => some .datasetCounts
  | _ => none

def ofPath? (path : List Char) : Option Route := ofSegments? ((path.splitOn '/').map .ofList)

end Route

end Gazetteer.Http

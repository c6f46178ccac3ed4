import Gazetteer.Filter.Basic
import Gazetteer.Text.Utf8

/-!
The normal form of filters.  Empty texts count as absent.  The lists that name values of a column are
ordered by their bytes and hold each value once; the other lists keep their order.
-/

namespace Gazetteer

open Gazetteer.Filter

/-- The order of texts by their UTF-8 bytes. -/
def bytesBefore (a b : String) : Prop := Text.Utf8.bytes a < Text.Utf8.bytes b

instance (a b : String) : Decidable (bytesBefore a b) :=
  inferInstanceAs (Decidable (Text.Utf8.bytes a < Text.Utf8.bytes b))

/-- Adds a value to values in order, unless it is there. -/
def insertOrdered (value : String) : List String → List String
  | [] => [value]
  | v :: rest =>
    if value = v then v :: rest
    else if bytesBefore value v then value :: v :: rest
    else v :: insertOrdered value rest

def present (values : List String) : List String := values.filter (!·.isEmpty)

/-- The values that are not empty, each once, in order. -/
def ordered (values : List String) : List String := (present values).foldr insertOrdered []

def presentText (value : Option String) : Option String := value.filter (!·.isEmpty)

namespace Filter

/-- The lists that name values of a column. -/
def ListKey.isMembership : ListKey → Bool
  | .typology | .dataset | .entity | .curiePrefix | .reference => true
  | .curie | .geometry | .geometryEntity | .geometryReference => false

def DateFilter.normalize (d : DateFilter) : DateFilter where
  date := presentText d.date
  year := presentText d.year
  month := presentText d.month
  day := presentText d.day
  matching := d.matching

end Filter

namespace Filters

def normalize (f : Filters) : Filters where
  typology := ordered f.typology
  dataset := ordered f.dataset
  entity := ordered f.entity
  curiePrefix := ordered f.curiePrefix
  reference := ordered f.reference
  curie := present f.curie
  lifecycle := f.lifecycle
  startDate := f.startDate.normalize
  endDate := f.endDate.normalize
  entryDate := f.entryDate.normalize
  longitude := presentText f.longitude
  latitude := presentText f.latitude
  geometry := present f.geometry
  geometryEntity := present f.geometryEntity
  geometryReference := present f.geometryReference
  relation := f.relation
  nextEntity := presentText f.nextEntity
  limit := f.limit

theorem normalize_list (f : Filters) (key : ListKey) :
    f.normalize.list key = if key.isMembership then ordered (f.list key) else present (f.list key) := by
  cases key <;> rfl

theorem normalize_text (f : Filters) (key : TextKey) : f.normalize.text key = presentText (f.text key) := by
  cases key with
  | date column part => cases column <;> cases part <;> rfl
  | _ => rfl

end Filters

end Gazetteer

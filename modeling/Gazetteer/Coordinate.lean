import Gazetteer.Number.Decimal
import Gazetteer.Text.Blank

/-!
Coordinates and points.  A coordinate is rounded half to even to six places, and written with all six when
its mantissa has room for them.
-/

namespace Gazetteer

namespace Coordinate

def places : Nat := 6

def settle (d : Number.Decimal) : Number.Decimal :=
  let rounded := d.roundTo places
  rounded.pad (places - rounded.scale)

def read? (s : String) : Option Number.Decimal :=
  (Number.Decimal.read? (Text.trimChars s.toList)).map settle

end Coordinate

/-- The well-known text of a point, if both coordinates are there and are numbers. -/
def point? (longitude latitude : Option String) : Option String :=
  longitude.bind fun lon =>
    latitude.bind fun lat =>
      (Coordinate.read? lon).bind fun x =>
        (Coordinate.read? lat).map fun y =>
          "POINT(" ++ .ofList x.chars ++ " " ++ .ofList y.chars ++ ")"

end Gazetteer

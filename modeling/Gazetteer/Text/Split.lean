/-!
Cutting texts at a character.
-/

namespace Gazetteer.Text

/-- The text before the first occurrence of a character and the text after it, empty if there is none. -/
def splitAtFirst (sep : Char) (cs : List Char) : List Char × List Char :=
  (cs.takeWhile (· != sep), (cs.dropWhile (· != sep)).drop 1)

end Gazetteer.Text

/-!
Environment variables.  A name that stands twice has the value of its first place, so adding a variable at
the end never changes one that is there.
-/

namespace Gazetteer

abbrev Variables := List (String × String)

namespace Variables

def get? (vs : Variables) (name : String) : Option String := (vs.find? (·.1 == name)).map (·.2)

def add (vs : Variables) (name value : String) : Variables := vs ++ [(name, value)]

theorem get?_add (vs : Variables) (name value other : String) :
    (vs.add name value).get? other = (vs.get? other).or (if name = other then some value else none) := by
  by_cases h : name = other
  · cases found : vs.find? (·.1 == other) <;> simp [get?, add, h, found]
  · have differs : (name == other) = false := by simp [h]
    cases found : vs.find? (·.1 == other) <;> simp [get?, add, h, found, differs]

end Variables

end Gazetteer

/-!
What the service says about itself.
-/

namespace Gazetteer

def programName : String := "entity-search"

def version : String := "0.3.1"

end Gazetteer

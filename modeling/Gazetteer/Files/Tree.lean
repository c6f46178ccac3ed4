import Gazetteer.Files.Path

/-!
File trees.  A tree says what stands at a list of names below the root; a path is followed through it name
by name, and only a directory can be passed.
-/

namespace Gazetteer

inductive FileEntry where
  | directory
  | file (text : String)
  deriving DecidableEq, Repr

abbrev FileTree := List Path.Name → Option FileEntry

namespace FileTree

/-- Where a name leads from a directory. -/
def step (tree : FileTree) (here : List Path.Name) (name : Path.Name) : Option (List Path.Name) :=
  if tree here = some .directory then
    if Path.stays name then some here
    else if name = Path.parent then some here.dropLast
    else some (here ++ [name])
  else none

/-- What stands at the end of an absolute path. -/
def content? (tree : FileTree) (path : String) : Option FileEntry :=
  ((path.toList.splitOn '/').foldlM tree.step []).bind tree

/-- The tree of the listed entries and the directories above them. -/
def ofEntries (entries : List (String × FileEntry)) : FileTree := fun names =>
  match entries.find? fun entry => Path.names entry.1 == names with
  | some entry => some entry.2
  | none =>
    if names.isEmpty || entries.any fun entry => names.isPrefixOf (Path.names entry.1) then some .directory
    else none

end FileTree

end Gazetteer

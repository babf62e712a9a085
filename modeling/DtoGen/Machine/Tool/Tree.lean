import DtoGen.Machine.Expansion.Glob
import DtoGen.Machine.Tool.Path

namespace DtoGen.FileTree

/-- Puts what is below one place below another one. -/
def move (tree : FileTree) (source target : Place) : FileTree :=
  let moved (name : Place) : Place :=
    if source.isPrefixOf name then target ++ name.drop source.length else name
  { tree with
    items := (tree.remove target).items.map fun (names, entry) => (names.map moved, entry) }

/-- Gives what is at a place one more name, which may have been that of something else. -/
def addName (tree : FileTree) (place name : Place) : FileTree :=
  let tree := tree.remove name
  match tree.number? place with
  | some number =>
    { tree with items := tree.items.modify number fun (names, entry) => (names ++ [name], entry) }
  | none => tree

/-- Puts something new at a place, whatever was there. -/
def replace (tree : FileTree) (place : Place) (entry : Entry) : FileTree :=
  (tree.remove place).set place entry

/-- The entries below a place, itself included, the nearer ones first. -/
def branch (tree : FileTree) (place : Place) : List (Place × Entry) :=
  let below := tree.entries.filter fun entry => place.isPrefixOf entry.1
  let below := if (below.lookup place).isSome then below
    else (tree.entry? place).toList.map (fun entry => (place, entry)) ++ below
  below.mergeSort fun a b => decide (a.1.length ≤ b.1.length)

/-- Puts a copy of what is at one place to another one. What is there stays as far as it is not
overwritten. -/
def copyBranch (tree : FileTree) (source target : Place) : FileTree :=
  (tree.branch source).foldl
    (fun copied (place, entry) => copied.set (target ++ place.drop source.length) entry) tree

def namesAt (tree : FileTree) (place : Place) : List String :=
  tree.names ⟨Tool.placeText place⟩

/-- Whether there is nothing in a directory. -/
def isEmptyAt (tree : FileTree) (place : Place) : Bool :=
  (tree.namesAt place).isEmpty

/-- Where something new may be put: its directory has to be there. -/
def freePlace? (tree : FileTree) (path : Path) : Option Place := do
  let place ← tree.placeOf? path
  if tree.isClosed place || !tree.isDirectory place.dropLast then none else some place

end DtoGen.FileTree

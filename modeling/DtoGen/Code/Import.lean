import DtoGen.Code.Fragment
import DtoGen.Upsert

namespace DtoGen

structure Import where
  source : String
  names : List String
  typeOnly : Bool
deriving DecidableEq, Repr, Inhabited

namespace Import

def statement (i : Import) : String :=
  if i.names.isEmpty then "import '" ++ i.source ++ "';"
  else
    "import " ++ (if i.typeOnly then "type " else "") ++ "\x7b " ++ ", ".intercalate i.names
      ++ " \x7d from '" ++ i.source ++ "';"

def fragments (i : Import) : List Fragment :=
  [.line i.statement]

end Import

structure Imports where
  entries : List (String × List String)
deriving DecidableEq, Repr

namespace Imports

def empty : Imports :=
  ⟨[]⟩

def isEmpty (imports : Imports) : Bool :=
  imports.entries.isEmpty

/-- Inserts into an ascending list that has no repetitions. -/
def insertName (name : String) : List String → List String
  | [] => [name]
  | other :: names =>
    if name < other then name :: other :: names
    else if other < name then other :: insertName name names
    else other :: names

def add (imports : Imports) (source name : String) : Imports :=
  ⟨upsert (·.1 == source) (fun entry => (entry.1, insertName name entry.2)) (source, [name])
    imports.entries⟩

def ofPairs (pairs : List (String × String)) : Imports :=
  pairs.foldl (fun imports pair => imports.add pair.1 pair.2) empty

def has (imports : Imports) (source name : String) : Bool :=
  match imports.entries.find? (·.1 == source) with
  | some (_, names) => names.contains name
  | none => false

def isRelative (source : String) : Bool :=
  source.toList.head? == some '.'

/-- Packages first, then relative paths. -/
def toList (imports : Imports) : List Import :=
  let (relative, packages) := imports.entries.partition fun entry => isRelative entry.1
  (packages ++ relative).map fun (source, names) => ⟨source, names, false⟩

end Imports

end DtoGen

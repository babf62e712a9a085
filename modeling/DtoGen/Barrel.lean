import DtoGen.FileSpec
import DtoGen.Upsert

namespace DtoGen

/-- The barrels of the files added so far, each with its directory. -/
structure Barrels where
  fileName : String
  entries : List (Path × FileSpec)
deriving Repr, Inhabited

namespace Barrels

def exportLine (moduleName : String) : String :=
  "export * from './" ++ moduleName ++ "';"

def empty (extension : String) : Barrels :=
  ⟨"index." ++ extension, []⟩

def get? (barrels : Barrels) (directory : Path) : Option FileSpec :=
  (barrels.entries.find? fun entry => entry.1.samePlace directory).map (·.2)

/-- Adds the file's line to the barrel of its directory, or opens that barrel at the end. -/
def add (barrels : Barrels) (file : FileSpec) : Barrels :=
  let directory := file.directory
  let line := exportLine file.moduleName
  { barrels with
    entries := upsert (·.1.samePlace directory)
      (fun (known, barrel) => (known, ⟨barrel.path, barrel.content ++ "\n" ++ line⟩))
      (directory, ⟨directory / ⟨barrels.fileName⟩, line⟩) barrels.entries }

def size (barrels : Barrels) : Nat :=
  barrels.entries.length

def files (barrels : Barrels) : List FileSpec :=
  barrels.entries.map (·.2)

def ofFiles (extension : String) (files : List FileSpec) : Barrels :=
  files.foldl add (empty extension)

end Barrels

end DtoGen

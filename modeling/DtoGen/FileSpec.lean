import DtoGen.Path

namespace DtoGen

structure FileSpec where
  path : Path
  content : String
deriving DecidableEq, Repr, Inhabited

namespace FileSpec

/-- A bare file name lives in the empty, that is the current, directory. -/
def directory (file : FileSpec) : Path :=
  file.path.parentOrEmpty

/-- The file name without its last extension. -/
def moduleName (file : FileSpec) : String :=
  file.path.stem?.getD ""

end FileSpec

end DtoGen

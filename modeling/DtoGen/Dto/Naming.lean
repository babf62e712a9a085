import DtoGen.Options

namespace DtoGen

/-- The three input classes of a model. -/
inductive DtoKind
  | connect
  | create
  | update
deriving DecidableEq, Repr

namespace DtoKind

def all : List DtoKind :=
  [connect, create, update]

def verb : DtoKind → String
  | connect => "connect"
  | create => "create"
  | update => "update"

end DtoKind

namespace Options

def dtoPrefix (options : Options) : DtoKind → String
  | .connect => options.connectDtoPrefix
  | .create => options.createDtoPrefix
  | .update => options.updateDtoPrefix

def dtoClass (options : Options) (kind : DtoKind) (model : String) : String :=
  options.dtoPrefix kind ++ model ++ options.dtoSuffix

def entityClass (options : Options) (model : String) : String :=
  options.entityPrefix ++ model ++ options.entitySuffix

/-- The module of a file, that is its name without the extension. -/
def dtoModule (options : Options) (kind : DtoKind) (model : String) : String :=
  options.fileNamingStyle.apply (kind.verb ++ " " ++ model) ++ ".dto"

def modelDirectory (options : Options) (model : String) : String :=
  options.fileNamingStyle.apply model

def entityModule (options : Options) (model : String) : String :=
  options.modelDirectory model ++ ".entity"

/-- Everything in the output directory itself, or a directory for each model and kind. -/
def subdirectory (options : Options) (model leaf : String) : Path :=
  if options.outputToNestJsResourceStructure then
    (⟨options.modelDirectory model⟩ : Path) / ⟨leaf⟩
  else ⟨""⟩

def dtoDirectory (options : Options) (model : String) : Path :=
  options.subdirectory model "dto"

def entityDirectory (options : Options) (model : String) : Path :=
  options.subdirectory model "entities"

end Options

/-- The class that wraps `connect` for one relation field. -/
def relationInputClass (kind : DtoKind) (model field : String) : String :=
  pascalCase kind.verb ++ model ++ pascalCase field ++ "RelationInputDto"

namespace Component

def text : Component → String
  | root => "/"
  | here => "."
  | up => ".."
  | name text => text

end Component

/-- How many components two paths have in common at their start. -/
def commonLength : List Component → List Component → Nat
  | a :: as, b :: bs => if a = b then commonLength as bs + 1 else 0
  | _, _ => 0

/-- How a module in `source` names the module `name` of `target`; both directories are relative to
one root. -/
def importSpecifier (source target : Path) (name : String) : String :=
  let start := source.components
  let goal := target.components
  let common := commonLength start goal
  let steps := List.replicate (start.length - common) ".." ++ (goal.drop common).map Component.text
  let specifier := "/".intercalate (steps ++ [name])
  if start.length = common then "./" ++ specifier else specifier

end DtoGen

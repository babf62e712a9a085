import DtoGen.Environment
import DtoGen.Options.Raw

namespace DtoGen

/-- Where generated files go, as written. -/
inductive OutputLocation
  | literal (path : Path)
  | variable (name : String)
deriving DecidableEq, Repr

namespace OutputLocation

def trimQuotes (cs : List Char) : List Char :=
  ((cs.dropWhile (· == '"')).reverse.dropWhile (· == '"')).reverse

/-- The text between `env(` and the closing parenthesis. -/
def variableText? (cs : List Char) : Option (List Char) :=
  if !("env(".toList).isPrefixOf cs then none
  else
    let rest := cs.drop 4
    if rest.getLast? = some ')' then some rest.dropLast else none

def ofText? (text : String) : Option OutputLocation :=
  match Text.trim text.toList with
  | [] => none
  | cs =>
    match variableText? cs with
    | some inner => some (.variable (String.ofList (trimQuotes (Text.trim inner))))
    | none => some (.literal ⟨String.ofList cs⟩)

def resolve (env : Environment) (text : String) : Except ConfigError Path :=
  match ofText? text with
  | none => .error .noOutput
  | some (.literal path) => .ok path
  | some (.variable name) =>
    match env name with
    | some value => .ok ⟨value⟩
    | none => .error (.unsetVariable name)

end OutputLocation

structure Options where
  output : Path
  connectDtoPrefix : String
  createDtoPrefix : String
  updateDtoPrefix : String
  dtoSuffix : String
  entityPrefix : String
  entitySuffix : String
  fileNamingStyle : NamingStyle
  /-- Where the search for the formatter's configuration starts, instead of the working
  directory. -/
  prettierConfig : Option Path
  exportRelationModifierClasses : Bool
  outputToNestJsResourceStructure : Bool
  entitiesOnly : Bool
  usePrettier : Bool
  reExport : Bool
deriving DecidableEq, Repr, Inhabited

namespace Options

def flag (text : Option String) (default : Bool) : Bool :=
  match text with
  | some "true" => true
  | some "false" => false
  | _ => default

def namingStyle (raw : RawOptions) : Except ConfigError NamingStyle :=
  match raw.value? .fileNamingStyle with
  | none => .ok default
  | some text =>
    match NamingStyle.ofName? text with
    | some style => .ok style
    | none => .error (.badNamingStyle text)

/-- The naming style is looked at before the output location. -/
def normalize (env : Environment) (raw : RawOptions) (output : String) :
    Except ConfigError Options := do
  let style ← namingStyle raw
  let output ← OutputLocation.resolve env output
  let text (setting : Setting) (default : String) := (raw.value? setting).getD default
  let flag (setting : Setting) (default : Bool) := flag (raw.value? setting) default
  return {
    output
    connectDtoPrefix := text .connectDtoPrefix "Connect"
    createDtoPrefix := text .createDtoPrefix "Create"
    updateDtoPrefix := text .updateDtoPrefix "Update"
    dtoSuffix := text .dtoSuffix "Dto"
    entityPrefix := text .entityPrefix ""
    entitySuffix := text .entitySuffix ""
    fileNamingStyle := style
    prettierConfig := ((raw.value? .prettierConfig).filter (· != "")).map Path.mk
    exportRelationModifierClasses := flag .exportRelationModifierClasses true
    outputToNestJsResourceStructure := flag .outputToNestJsResourceStructure false
    entitiesOnly := flag .entitiesOnly false
    usePrettier := flag .usePrettier true
    reExport := flag .reExport false
  }

end Options

end DtoGen

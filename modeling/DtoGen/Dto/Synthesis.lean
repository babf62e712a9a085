import DtoGen.Dto.File

namespace DtoGen

inductive SchemaFault
  | repeatedModel (name : String)
  | unknownModel (model field target : String)
deriving DecidableEq, Repr

namespace SchemaFault

def message : SchemaFault → String
  | repeatedModel name => "model '" ++ name ++ "' is defined more than once"
  | unknownModel model field target =>
    "field '" ++ model ++ "." ++ field ++ "' references unknown model '" ++ target ++ "'"

end SchemaFault

namespace Schema

/-- The first name that is equal to an earlier one. -/
def firstRepeated? (seen : List String) : List String → Option String
  | [] => none
  | name :: names =>
    if seen.contains name then some name else firstRepeated? (name :: seen) names

def danglingRelation? (schema : Schema) (model : Model) : Option SchemaFault :=
  (model.relations.find? fun field => (schema.model? field.typeName).isNone).map fun field =>
    .unknownModel model.name field.name field.typeName

/-- Repeated names are looked for first. -/
def fault? (schema : Schema) : Option SchemaFault :=
  match firstRepeated? [] (schema.models.map Model.name) with
  | some name => some (.repeatedModel name)
  | none => schema.models.findSome? schema.danglingRelation?

def dtoFiles (options : Options) (schema : Schema) : Except SchemaFault (List DtoFile) :=
  match schema.fault? with
  | some fault => .error fault
  | none => .ok (schema.models.flatMap fun model =>
    ModelScope.files ⟨options, model⟩ options.output)

end Schema

end DtoGen

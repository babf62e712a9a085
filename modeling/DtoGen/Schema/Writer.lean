import DtoGen.Json.Writer
import DtoGen.Schema.Basic

namespace DtoGen

namespace Json

def optionalText (key : String) : Option String → List (String × Json)
  | none => []
  | some text => [(key, .string text)]

end Json

def Field.toJson (field : Field) : Json :=
  .object <|
    [ ("name", .string field.name),
      ("kind", .string field.kind.name),
      ("type", .string field.typeName),
      ("isList", .bool field.isList),
      ("isRequired", .bool field.isRequired),
      ("isUnique", .bool field.isUnique),
      ("isId", .bool field.isId),
      ("isReadOnly", .bool field.isReadOnly),
      ("hasDefaultValue", .bool field.hasDefaultValue),
      ("isUpdatedAt", .bool field.isUpdatedAt) ]
    ++ Json.optionalText "relationName" field.relationName
    ++ (if field.relationFromFields.isEmpty then []
        else [("relationFromFields", .array (field.relationFromFields.map .string))])
    ++ Json.optionalText "documentation" field.documentation

def Model.toJson (model : Model) : Json :=
  .object <|
    [("name", .string model.name)]
    ++ Json.optionalText "dbName" model.dbName
    ++ [("fields", .array (model.fields.map Field.toJson))]
    ++ Json.optionalText "documentation" model.documentation

def EnumValue.toJson (value : EnumValue) : Json :=
  .object <| [("name", .string value.name)] ++ Json.optionalText "dbName" value.dbName

def Enumeration.toJson (enum : Enumeration) : Json :=
  .object
    [ ("name", .string enum.name),
      ("values", .array (enum.values.map EnumValue.toJson)) ]

def Schema.toJson (schema : Schema) : Json :=
  .object
    [ ("models", .array (schema.models.map Model.toJson)),
      ("enums", .array (schema.enums.map Enumeration.toJson)) ]

end DtoGen

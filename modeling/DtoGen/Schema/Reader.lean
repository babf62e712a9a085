import DtoGen.Config.Error
import DtoGen.Json.Reader
import DtoGen.Schema.Basic
import DtoGen.Text.Position

namespace DtoGen

open Json Json.Reader

def Field.reader : Reader :=
  record
    [ .required "name" text,
      .required "kind" (choice (FieldKind.all.map FieldKind.name)),
      .required "type" text,
      .flag "isList",
      .flag "isRequired",
      .flag "isUnique",
      .flag "isId",
      .flag "isReadOnly",
      .flag "hasDefaultValue",
      .flag "isUpdatedAt",
      .optionalText "relationName",
      .list "relationFromFields" text,
      .optionalText "documentation" ]

def Model.reader : Reader :=
  record
    [ .required "name" text,
      .optionalText "dbName",
      .list "fields" Field.reader,
      .optionalText "documentation" ]

def EnumValue.reader : Reader :=
  record [.required "name" text, .optionalText "dbName"]

def Enumeration.reader : Reader :=
  record [.required "name" text, .list "values" EnumValue.reader]

def Schema.reader : Reader :=
  record [.list "models" Model.reader, .list "enums" Enumeration.reader]

def Field.ofValue? : Json.Value → Option Field
  | .list
      [ .text name, .text kind, .text typeName, .flag isList, .flag isRequired, .flag isUnique,
        .flag isId, .flag isReadOnly, .flag hasDefaultValue, .flag isUpdatedAt, relationName,
        relationFromFields, documentation ] => do
    return {
      name, typeName, isList, isRequired, isUnique, isId, isReadOnly, hasDefaultValue, isUpdatedAt
      kind := ← FieldKind.ofName? kind
      relationName := ← relationName.optionalText?
      relationFromFields := ← relationFromFields.list? Json.Value.text?
      documentation := ← documentation.optionalText?
    }
  | _ => none

def Model.ofValue? : Json.Value → Option Model
  | .list [.text name, dbName, fields, documentation] => do
    return {
      name
      dbName := ← dbName.optionalText?
      fields := ← fields.list? Field.ofValue?
      documentation := ← documentation.optionalText?
    }
  | _ => none

def EnumValue.ofValue? : Json.Value → Option EnumValue
  | .list [.text name, dbName] => do
    return { name, dbName := ← dbName.optionalText? }
  | _ => none

def Enumeration.ofValue? : Json.Value → Option Enumeration
  | .list [.text name, values] => do
    return { name, values := ← values.list? EnumValue.ofValue? }
  | _ => none

def Schema.ofValue? : Json.Value → Option Schema
  | .list [models, enums] => do
    return { models := ← models.list? Model.ofValue?, enums := ← enums.list? Enumeration.ofValue? }
  | _ => none

namespace Schema

/-- The schema that a text describes, or the number of bytes seen at its first fault. -/
def read (content : String) : Except Nat Schema := do
  match ofValue? (← readText reader content) with
  | some schema => .ok schema
  | none => .error content.utf8ByteSize

def parse (content fileName : String) : Except ConfigError Schema :=
  match read content with
  | .ok schema => .ok schema
  | .error seen =>
    .error (.badSchema fileName (Position.offset? content (Position.after content seen)))

end Schema

end DtoGen

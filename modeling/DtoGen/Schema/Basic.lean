namespace DtoGen

/-- What a field's type name refers to. -/
inductive FieldKind
  | scalar
  | relation
  | enumeration
  | unsupported
deriving DecidableEq, Repr, Inhabited

namespace FieldKind

def all : List FieldKind :=
  [scalar, relation, enumeration, unsupported]

def name : FieldKind → String
  | scalar => "scalar"
  | relation => "object"
  | enumeration => "enum"
  | unsupported => "unsupported"

def ofName? (s : String) : Option FieldKind :=
  all.find? (·.name == s)

theorem ofName?_name (kind : FieldKind) : ofName? kind.name = some kind := by
  cases kind <;> rfl

end FieldKind

inductive ScalarType
  | string
  | boolean
  | int
  | bigInt
  | float
  | decimal
  | dateTime
  | json
  | bytes
deriving DecidableEq, Repr

namespace ScalarType

def all : List ScalarType :=
  [string, boolean, int, bigInt, float, decimal, dateTime, json, bytes]

def name : ScalarType → String
  | string => "String"
  | boolean => "Boolean"
  | int => "Int"
  | bigInt => "BigInt"
  | float => "Float"
  | decimal => "Decimal"
  | dateTime => "DateTime"
  | json => "Json"
  | bytes => "Bytes"

def ofName? (s : String) : Option ScalarType :=
  all.find? (·.name == s)

end ScalarType

structure Field where
  name : String
  kind : FieldKind
  typeName : String
  isList : Bool
  isRequired : Bool
  isUnique : Bool
  isId : Bool
  isReadOnly : Bool
  hasDefaultValue : Bool
  isUpdatedAt : Bool
  relationName : Option String
  /-- The scalar fields of the same model that hold the relation's key. -/
  relationFromFields : List String
  documentation : Option String
deriving DecidableEq, Repr, Inhabited

namespace Field

def isRelation (field : Field) : Bool :=
  field.kind == .relation

def isEnum (field : Field) : Bool :=
  field.kind == .enumeration

def scalarType? (field : Field) : Option ScalarType :=
  match field.kind with
  | .scalar => ScalarType.ofName? field.typeName
  | _ => none

/-- A column, as opposed to a relation or a type that is not known. -/
def isColumn (field : Field) : Bool :=
  field.scalarType?.isSome || field.isEnum

/-- Whether the database fills the field in by itself. -/
def isGenerated (field : Field) : Bool :=
  (field.isId && field.hasDefaultValue) || field.isUpdatedAt

end Field

structure Model where
  name : String
  dbName : Option String
  fields : List Field
  documentation : Option String
deriving DecidableEq, Repr, Inhabited

namespace Model

def field? (model : Model) (name : String) : Option Field :=
  model.fields.find? (·.name == name)

def relations (model : Model) : List Field :=
  model.fields.filter (·.isRelation)

/-- The fields that identify one record. -/
def identifying (model : Model) : List Field :=
  model.fields.filter fun field => field.isId || field.isUnique

/-- Whether a relation of the model is held by the field of this name. -/
def isForeignKey (model : Model) (name : String) : Bool :=
  model.relations.any (·.relationFromFields.contains name)

end Model

structure EnumValue where
  name : String
  dbName : Option String
deriving DecidableEq, Repr, Inhabited

structure Enumeration where
  name : String
  values : List EnumValue
deriving DecidableEq, Repr, Inhabited

structure Schema where
  models : List Model
  enums : List Enumeration
deriving DecidableEq, Repr, Inhabited

namespace Schema

def model? (schema : Schema) (name : String) : Option Model :=
  schema.models.find? (·.name == name)

def hasEnum (schema : Schema) (name : String) : Bool :=
  schema.enums.any (·.name == name)

end Schema

end DtoGen

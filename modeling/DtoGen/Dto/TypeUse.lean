import DtoGen.Schema.Basic

namespace DtoGen

/-- A symbol and the module it is imported from. -/
structure Symbol where
  source : String
  name : String
deriving DecidableEq, Repr

structure TypeUse where
  text : String
  symbols : List Symbol
deriving Repr

def prismaClient : String :=
  "@prisma/client"

namespace ScalarType

def typeText : ScalarType → String
  | string => "string"
  | boolean => "boolean"
  | int | float => "number"
  | bigInt => "bigint"
  | dateTime => "Date"
  | json => "Prisma.JsonValue"
  | decimal => "Prisma.Decimal"
  | bytes => "Buffer"

/-- Whether the type is a member of the `Prisma` namespace. -/
def inNamespace : ScalarType → Bool
  | json | decimal => true
  | _ => false

end ScalarType

namespace TypeUse

def listOf (type : String) (isList : Bool) : String :=
  if isList then type ++ "[]" else type

/-- The type of a field that is no relation. -/
def ofColumn (field : Field) : TypeUse :=
  match field.kind with
  | .enumeration => ⟨listOf field.typeName field.isList, [⟨prismaClient, field.typeName⟩]⟩
  | _ =>
    match field.scalarType? with
    | some scalar =>
      ⟨listOf scalar.typeText field.isList,
        if scalar.inNamespace then [⟨prismaClient, "Prisma"⟩] else []⟩
    | none => ⟨listOf "unknown" field.isList, []⟩

end TypeUse

end DtoGen

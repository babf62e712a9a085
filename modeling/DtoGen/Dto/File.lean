import DtoGen.Code.Module
import DtoGen.Dto.Naming
import DtoGen.Dto.TypeUse
import DtoGen.FileSpec

namespace DtoGen

/-- A generated file before it is rendered. The last class is the one that the file is for. -/
structure DtoFile where
  path : Path
  imports : List Import
  classes : List Class
deriving Repr

namespace DtoFile

def extension : String :=
  "ts"

def content (file : DtoFile) : String :=
  CodeModule.render default ⟨file.imports, file.classes.map Class.fragments⟩

def spec (file : DtoFile) : FileSpec :=
  ⟨file.path, file.content⟩

end DtoFile

/-- A property with the symbols that its type needs. -/
structure Member where
  property : Property
  symbols : List Symbol
deriving Repr

namespace Member

def ofField (field : Field) (use : TypeUse) (isOptional isNullable : Bool) : Member :=
  ⟨⟨field.name, use.text, isOptional, isNullable, field.documentation⟩, use.symbols⟩

end Member

/-- A helper class, and the property that refers to it. -/
structure RelationInput where
  helper : Class
  member : Member
deriving Repr

namespace Model

/-- The fields that a client may set: columns that the database does not fill in, that may be
written, and that hold no relation's key. -/
def writable (model : Model) : List Field :=
  model.fields.filter fun field =>
    field.isColumn && !field.isGenerated && !field.isReadOnly && !model.isForeignKey field.name

end Model

namespace Field

def acceptsNull (field : Field) : Bool :=
  !(field.isRequired || field.isList)

/-- Whether the model of the field holds the key of a relation that must exist. -/
def ownsRequiredRelation (field : Field) : Bool :=
  field.isRequired && !field.isList && !field.relationFromFields.isEmpty

end Field

/-- Everything the files of one model are made from. -/
structure ModelScope where
  options : Options
  model : Model

namespace ModelScope

def dtoPath (scope : ModelScope) (base : Path) (kind : DtoKind) : Path :=
  base / scope.options.dtoDirectory scope.model.name
    / ⟨scope.options.dtoModule kind scope.model.name ++ "." ++ DtoFile.extension⟩

def entityPath (scope : ModelScope) (base : Path) : Path :=
  base / scope.options.entityDirectory scope.model.name
    / ⟨scope.options.entityModule scope.model.name ++ "." ++ DtoFile.extension⟩

def importsOf (members : List Member) : List Import :=
  let symbols := members.flatMap Member.symbols
  (Imports.ofPairs (symbols.map fun symbol => (symbol.source, symbol.name))).toList

def mainClass (name : String) (documentation : Option String) (members : List Member) : Class :=
  ⟨name, true, documentation, members.map Member.property⟩

/-- The connect class of another model, as an input file of this one names it. -/
def connectSymbol (scope : ModelScope) (target : String) : Symbol :=
  let options := scope.options
  ⟨importSpecifier (options.dtoDirectory scope.model.name) (options.dtoDirectory target)
      (options.dtoModule .connect target),
    options.dtoClass .connect target⟩

/-- A model's own entity needs no import. -/
def entityUse (scope : ModelScope) (target : String) (isList : Bool) : TypeUse :=
  let options := scope.options
  let name := options.entityClass target
  let source := importSpecifier (options.entityDirectory scope.model.name)
    (options.entityDirectory target) (options.entityModule target)
  ⟨TypeUse.listOf name isList, if target = scope.model.name then [] else [⟨source, name⟩]⟩

def connectMember (field : Field) : Member :=
  .ofField field (.ofColumn field) true false

def connectFile (scope : ModelScope) (base : Path) : DtoFile :=
  let members := (scope.model.identifying.filter Field.isColumn).map connectMember
  ⟨scope.dtoPath base .connect, importsOf members,
    [mainClass (scope.options.dtoClass .connect scope.model.name) none members]⟩

/-- `isOptional` decides about the property in the main class. -/
def relationInput (scope : ModelScope) (kind : DtoKind) (isOptional : Field → Bool)
    (field : Field) : RelationInput :=
  let name := relationInputClass kind scope.model.name field.name
  let symbol := scope.connectSymbol field.typeName
  let connect : Property := ⟨"connect", TypeUse.listOf symbol.name field.isList, false, false, none⟩
  ⟨⟨name, scope.options.exportRelationModifierClasses, none, [connect]⟩,
    .ofField field ⟨name, [symbol]⟩ (isOptional field) false⟩

/-- An input file: columns, then relations, with the helper classes of these in front. -/
def inputFile (scope : ModelScope) (base : Path) (kind : DtoKind)
    (isOptionalColumn isOptionalRelation : Field → Bool) : DtoFile :=
  let columns := scope.model.writable.map fun field =>
    Member.ofField field (.ofColumn field) (isOptionalColumn field) field.acceptsNull
  let relations := scope.model.relations.map (scope.relationInput kind isOptionalRelation)
  let members := columns ++ relations.map RelationInput.member
  ⟨scope.dtoPath base kind, importsOf members,
    relations.map RelationInput.helper
      ++ [mainClass (scope.options.dtoClass kind scope.model.name) none members]⟩

/-- Columns that have a default or accept null may be left out, and so may relations whose key this
model does not hold or need. -/
def createFile (scope : ModelScope) (base : Path) : DtoFile :=
  scope.inputFile base .create (fun field => !field.isRequired || field.hasDefaultValue)
    fun field => !field.ownsRequiredRelation

def updateFile (scope : ModelScope) (base : Path) : DtoFile :=
  scope.inputFile base .update (fun _ => true) fun _ => true

/-- Relations are loaded on request only, and so are optional. -/
def entityMember (scope : ModelScope) (field : Field) : Member :=
  if field.isRelation then
    .ofField field (scope.entityUse field.typeName field.isList) true false
  else .ofField field (.ofColumn field) field.acceptsNull field.acceptsNull

def entityFile (scope : ModelScope) (base : Path) : DtoFile :=
  let members := scope.model.fields.map scope.entityMember
  ⟨scope.entityPath base, importsOf members,
    [mainClass (scope.options.entityClass scope.model.name) scope.model.documentation members]⟩

def dtoFile (scope : ModelScope) (base : Path) : DtoKind → DtoFile
  | .connect => scope.connectFile base
  | .create => scope.createFile base
  | .update => scope.updateFile base

/-- In the order in which they are generated. -/
def files (scope : ModelScope) (base : Path) : List DtoFile :=
  (if scope.options.entitiesOnly then [] else DtoKind.all.map (scope.dtoFile base))
    ++ [scope.entityFile base]

end ModelScope

end DtoGen

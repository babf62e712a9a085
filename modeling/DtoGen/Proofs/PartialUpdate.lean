import DtoGen.Dto.File

namespace DtoGen

/-- What two files make of the same fields, one field after the other. -/
inductive PairedOff {α : Type} (R : Field → α → α → Prop) :
    List Field → List α → List α → Prop
  | nil : PairedOff R [] [] []
  | cons {field : Field} {fields : List Field} {a b : α} {as bs : List α} (head : R field a b)
    (tail : PairedOff R fields as bs) : PairedOff R (field :: fields) (a :: as) (b :: bs)

namespace PairedOff

variable {α : Type} {R : Field → α → α → Prop} {fields : List Field}

theorem of_map {make remake : Field → α} (h : ∀ field ∈ fields, R field (make field) (remake field)) :
    PairedOff R fields (fields.map make) (fields.map remake) := by
  induction fields with
  | nil => exact .nil
  | cons field fields ih =>
    refine .cons (h field List.mem_cons_self) (ih ?_)
    intro other hother
    exact h other (List.mem_cons_of_mem _ hother)

theorem append {more : List Field} {as bs cs ds : List α} (h : PairedOff R fields as bs)
    (hmore : PairedOff R more cs ds) : PairedOff R (fields ++ more) (as ++ cs) (bs ++ ds) := by
  induction h with
  | nil => exact hmore
  | cons head _ ih => exact .cons head ih

end PairedOff

namespace Field

theorem isColumn_of_isRelation {field : Field} (h : field.isRelation = true) :
    field.isColumn = false := by
  have hkind : field.kind = .relation := by simpa [isRelation] using h
  simp [isColumn, scalarType?, isEnum, hkind]

end Field

namespace Model

/-- What the names of the helper classes for a relation have in common. -/
def helperStem (model : Model) (field : Field) : String :=
  model.name ++ pascalCase field.name ++ "RelationInputDto"

end Model

theorem relationInputClass_create (model : Model) (field : Field) :
    relationInputClass .create model.name field.name = "Create" ++ model.helperStem field := by
  have hverb : pascalCase DtoKind.create.verb = "Create" := by decide
  simp only [relationInputClass, hverb, Model.helperStem, String.append_assoc]

theorem relationInputClass_update (model : Model) (field : Field) :
    relationInputClass .update model.name field.name = "Update" ++ model.helperStem field := by
  have hverb : pascalCase DtoKind.update.verb = "Update" := by decide
  simp only [relationInputClass, hverb, Model.helperStem, String.append_assoc]

/-- The properties of the two main classes for one field. -/
structure Property.LeftOpen (model : Model) (field : Field) (create update : Property) : Prop where
  names : create.name = field.name ∧ update.name = field.name
  documentation : update.documentation = create.documentation
  nullability : update.isNullable = create.isNullable
  optional : update.isOptional = true
  columnType : field.isColumn = true → update.type = create.type
  relationType : field.isRelation = true →
    create.type = "Create" ++ model.helperStem field ∧
      update.type = "Update" ++ model.helperStem field

/-- The helper classes of the two files for one relation. -/
structure Class.SameConnect (model : Model) (field : Field) (create update : Class) : Prop where
  names : create.name = "Create" ++ model.helperStem field ∧
    update.name = "Update" ++ model.helperStem field
  exported : update.isExported = create.isExported
  connect : ∃ type, create.properties = [⟨"connect", type, false, false, none⟩] ∧
    update.properties = create.properties

namespace DtoFile

/-- An update file beside the create file of the same model. The last class of a file is its main
class, and the helper classes stand in front. -/
structure LeavesOpen (update create : DtoFile) (model : Model) : Prop where
  imports : update.imports = create.imports
  classes : ∃ helpers main helpers' main',
    create.classes = helpers ++ [main] ∧ update.classes = helpers' ++ [main'] ∧
    PairedOff (Class.SameConnect model) model.relations helpers helpers' ∧
    PairedOff (Property.LeftOpen model) (model.writable ++ model.relations)
      main.properties main'.properties

end DtoFile

namespace ModelScope

/-- Whichever kind of input a file is for, and whatever it leaves open, it imports the same. -/
theorem imports_inputFile (scope : ModelScope) (base : Path) (kind kind' : DtoKind)
    (isOptionalColumn isOptionalRelation isOptionalColumn' isOptionalRelation' : Field → Bool) :
    (scope.inputFile base kind isOptionalColumn isOptionalRelation).imports
      = (scope.inputFile base kind' isOptionalColumn' isOptionalRelation').imports := by
  have hsymbols : ∀ (kind : DtoKind) (isOptionalColumn isOptionalRelation : Field → Bool),
      ((scope.model.writable.map fun field => Member.ofField field (.ofColumn field)
          (isOptionalColumn field) field.acceptsNull)
        ++ (scope.model.relations.map (scope.relationInput kind isOptionalRelation)).map
          RelationInput.member).flatMap Member.symbols
      = scope.model.writable.flatMap (fun field => (TypeUse.ofColumn field).symbols)
        ++ scope.model.relations.flatMap fun field => [scope.connectSymbol field.typeName] := by
    intro kind isOptionalColumn isOptionalRelation
    rw [List.flatMap_append, List.flatMap_map, List.map_map, List.flatMap_map]
    rfl
  simp only [inputFile, importsOf, hsymbols]

theorem column_leftOpen {model : Model} {field : Field} (hfield : field ∈ model.writable)
    (isOptional : Bool) : Property.LeftOpen model field
      (Member.ofField field (.ofColumn field) isOptional field.acceptsNull).property
      (Member.ofField field (.ofColumn field) true field.acceptsNull).property := by
  refine ⟨⟨rfl, rfl⟩, rfl, rfl, rfl, fun _ => rfl, fun hrelation => ?_⟩
  have hcolumn := (List.mem_filter.mp hfield).2
  simp [Field.isColumn_of_isRelation hrelation] at hcolumn

theorem relation_leftOpen (scope : ModelScope) {field : Field}
    (hfield : field ∈ scope.model.relations) (isOptional : Field → Bool) :
    Property.LeftOpen scope.model field
      (scope.relationInput .create isOptional field).member.property
      (scope.relationInput .update (fun _ => true) field).member.property := by
  refine ⟨⟨rfl, rfl⟩, rfl, rfl, rfl, fun hcolumn => ?_, fun _ =>
    ⟨relationInputClass_create _ _, relationInputClass_update _ _⟩⟩
  have hrelation := (List.mem_filter.mp hfield).2
  rw [Field.isColumn_of_isRelation hrelation] at hcolumn
  cases hcolumn

theorem helper_sameConnect (scope : ModelScope) (field : Field) (isOptional : Field → Bool) :
    Class.SameConnect scope.model field (scope.relationInput .create isOptional field).helper
      (scope.relationInput .update (fun _ => true) field).helper :=
  ⟨⟨relationInputClass_create _ _, relationInputClass_update _ _⟩, rfl, _, rfl, rfl⟩

/-- An update is a creation with every property left open. -/
theorem updateFile_leavesOpen (scope : ModelScope) (base : Path) :
    (scope.updateFile base).LeavesOpen (scope.createFile base) scope.model := by
  refine ⟨imports_inputFile _ _ _ _ _ _ _ _, _, _, _, _, rfl, rfl, ?_, ?_⟩
  · rw [List.map_map, List.map_map]
    exact PairedOff.of_map fun field _ => helper_sameConnect scope field _
  · simp only [mainClass, List.map_append, List.map_map]
    refine PairedOff.append ?_ ?_
    · exact PairedOff.of_map fun field hfield => column_leftOpen hfield _
    · exact PairedOff.of_map fun field hfield => relation_leftOpen scope hfield _

end ModelScope

end DtoGen

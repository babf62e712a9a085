import DtoGen.Proofs.PartialUpdate

namespace DtoGen

theorem Field.isRelation_of_isColumn {field : Field} (h : field.isColumn = true) :
    field.isRelation = false := by
  rw [← Bool.not_eq_true]
  intro hrelation
  rw [isColumn_of_isRelation hrelation] at h
  cases h

namespace Model

variable {model : Model} {field : Field} {name : String}

theorem isForeignKey_iff : model.isForeignKey name = true ↔
    ∃ relation ∈ model.relations, name ∈ relation.relationFromFields := by
  simp only [isForeignKey, List.any_eq_true, List.contains_iff_mem]

theorem mem_relations : field ∈ model.relations ↔
    field ∈ model.fields ∧ field.isRelation = true :=
  List.mem_filter

theorem mem_writable : field ∈ model.writable ↔
    field ∈ model.fields ∧ field.isColumn = true ∧ field.isGenerated = false ∧
      field.isReadOnly = false ∧ model.isForeignKey field.name = false := by
  simp only [writable, List.mem_filter, Bool.and_eq_true, Bool.not_eq_true', and_assoc]

theorem isColumn_of_mem_writable (h : field ∈ model.writable) : field.isColumn = true :=
  (mem_writable.mp h).2.1

theorem not_mem_relations_of_isColumn (h : field.isColumn = true) : field ∉ model.relations := by
  intro hmem
  have hrelation := (mem_relations.mp hmem).2
  rw [Field.isRelation_of_isColumn h] at hrelation
  cases hrelation

/-- What is shown of a model is shown as often as it occurs. -/
theorem count_shown (h : field ∈ model.writable ++ model.relations) :
    (model.writable ++ model.relations).count field = model.fields.count field := by
  rw [List.count_append]
  rcases List.mem_append.mp h with hwritable | hrelation
  · have hnone : field ∉ model.relations :=
      not_mem_relations_of_isColumn (isColumn_of_mem_writable hwritable)
    rw [List.count_eq_zero.mpr hnone, Nat.add_zero]
    exact List.count_filter (List.mem_filter.mp hwritable).2
  · have hnone : field ∉ model.writable := fun hwritable =>
      not_mem_relations_of_isColumn (isColumn_of_mem_writable hwritable) hrelation
    rw [List.count_eq_zero.mpr hnone, Nat.zero_add]
    exact List.count_filter (List.mem_filter.mp hrelation).2

/-- A column that is not writable is filled in, protected, or brought by a relation. -/
theorem reason_of_not_mem_writable (hfield : field ∈ model.fields)
    (hcolumn : field.isColumn = true) (h : field ∉ model.writable) :
    field.isGenerated = true ∨ field.isReadOnly = true ∨
      ∃ relation ∈ model.relations, field.name ∈ relation.relationFromFields := by
  rw [← isForeignKey_iff]
  cases hgenerated : field.isGenerated with
  | true => exact .inl rfl
  | false =>
    cases hreadOnly : field.isReadOnly with
    | true => exact .inr (.inl rfl)
    | false =>
      cases hkey : model.isForeignKey field.name with
      | true => exact .inr (.inr rfl)
      | false => exact absurd (mem_writable.mpr ⟨hfield, hcolumn, hgenerated, hreadOnly, hkey⟩) h

end Model

/-- A create class of a model, with the fields that its properties are made for. -/
structure Class.CreatesRecord (main : Class) (model : Model) (made : List (Field × Property)) :
    Prop where
  properties : main.properties = made.map Prod.snd
  /-- Writable columns in the order of the schema, then relations in the order of the schema. -/
  inOrder : made.map Prod.fst = model.writable ++ model.relations
  named : ∀ entry ∈ made, entry.2.name = entry.1.name
  once : ∀ entry ∈ made, (made.map Prod.fst).count entry.1 = model.fields.count entry.1
  relations : ∀ field ∈ model.fields, field.isRelation = true → field ∈ made.map Prod.fst
  demands : ∀ field ∈ model.fields, field.isColumn = true → field.isRequired = true →
    field.hasDefaultValue = false → field.isGenerated = false → field.isReadOnly = false →
    (∀ relation ∈ model.relations, field.name ∉ relation.relationFromFields) →
    ∃ property, (field, property) ∈ made ∧
      property.isOptional = false ∧ property.isNullable = false
  leavesOut : ∀ field ∈ model.fields, field.isColumn = true → field ∉ made.map Prod.fst →
    field.isGenerated = true ∨ field.isReadOnly = true ∨
      ∃ relation ∈ made.map Prod.fst, relation.isRelation = true ∧
        field.name ∈ relation.relationFromFields
  /-- What has no choice is a required column without a default, or a relation to one record whose
  key the model holds and needs. -/
  mandatory_iff : ∀ entry ∈ made, entry.2.isOptional = false ↔
    (entry.1.isColumn = true ∧ entry.1.isRequired = true ∧ entry.1.hasDefaultValue = false) ∨
      (entry.1.isRelation = true ∧ entry.1.isRequired = true ∧ entry.1.isList = false ∧
        entry.1.relationFromFields ≠ [])

namespace ModelScope

/-- The property of a create class for a column. -/
def createColumn (field : Field) : Property :=
  (Member.ofField field (.ofColumn field) (!field.isRequired || field.hasDefaultValue)
    field.acceptsNull).property

/-- The property of a create class for a relation. -/
def createRelation (scope : ModelScope) (field : Field) : Property :=
  (scope.relationInput .create (fun field => !field.ownsRequiredRelation) field).member.property

/-- The fields that a create class shows, each with its property. -/
def creation (scope : ModelScope) : List (Field × Property) :=
  scope.model.writable.map (fun field => (field, createColumn field))
    ++ scope.model.relations.map fun field => (field, scope.createRelation field)

variable {scope : ModelScope} {field : Field}

theorem fields_creation (scope : ModelScope) :
    scope.creation.map Prod.fst = scope.model.writable ++ scope.model.relations := by
  simp only [creation, List.map_append, List.map_map, Function.comp_def, List.map_id']

theorem mem_creation {entry : Field × Property} : entry ∈ scope.creation ↔
    (entry.1 ∈ scope.model.writable ∧ entry.2 = createColumn entry.1) ∨
      (entry.1 ∈ scope.model.relations ∧ entry.2 = scope.createRelation entry.1) := by
  obtain ⟨field, property⟩ := entry
  simp only [creation, List.mem_append, List.mem_map, Prod.mk.injEq]
  constructor
  · rintro (⟨_, hmem, rfl, rfl⟩ | ⟨_, hmem, rfl, rfl⟩)
    · exact .inl ⟨hmem, rfl⟩
    · exact .inr ⟨hmem, rfl⟩
  · rintro (⟨hmem, rfl⟩ | ⟨hmem, rfl⟩)
    · exact .inl ⟨field, hmem, rfl, rfl⟩
    · exact .inr ⟨field, hmem, rfl, rfl⟩

theorem properties_createFile (scope : ModelScope) (base : Path) :
    ∃ helpers main, (scope.createFile base).classes = helpers ++ [main] ∧
      main.name = scope.options.dtoClass .create scope.model.name ∧
      main.properties = scope.creation.map Prod.snd := by
  refine ⟨_, _, rfl, rfl, ?_⟩
  simp only [mainClass, creation, List.map_append, List.map_map]
  rfl

theorem createColumn_mandatory_iff : (createColumn field).isOptional = false ↔
    field.isRequired = true ∧ field.hasDefaultValue = false := by
  simp only [createColumn, Member.ofField, Bool.or_eq_false_iff, Bool.not_eq_false']

theorem createRelation_mandatory_iff : (scope.createRelation field).isOptional = false ↔
    field.isRequired = true ∧ field.isList = false ∧ field.relationFromFields ≠ [] := by
  simp only [createRelation, relationInput, Member.ofField, Field.ownsRequiredRelation,
    Bool.not_eq_false', Bool.and_eq_true, Bool.not_eq_true', List.isEmpty_eq_false_iff, and_assoc]

/-- A create class asks for all that a new record cannot do without, and everything else may be left
out. -/
theorem createFile_createsRecord (scope : ModelScope) (base : Path) :
    ∃ helpers main made, (scope.createFile base).classes = helpers ++ [main] ∧
      main.name = scope.options.dtoClass .create scope.model.name ∧
      main.CreatesRecord scope.model made := by
  obtain ⟨helpers, main, hclasses, hname, hproperties⟩ := properties_createFile scope base
  have hfields := fields_creation scope
  refine ⟨helpers, main, scope.creation, hclasses, hname, hproperties, hfields, ?named, ?once,
    ?relations, ?demands, ?leavesOut, ?mandatory⟩
  case named =>
    intro entry hentry
    rcases mem_creation.mp hentry with ⟨_, hproperty⟩ | ⟨_, hproperty⟩
    · rw [hproperty]
      rfl
    · rw [hproperty]
      rfl
  case once =>
    intro entry hentry
    have hshown := List.mem_map_of_mem (f := Prod.fst) hentry
    rw [hfields] at hshown ⊢
    exact Model.count_shown hshown
  case relations =>
    intro field hfield hrelation
    rw [hfields]
    exact List.mem_append_right _ (Model.mem_relations.mpr ⟨hfield, hrelation⟩)
  case demands =>
    intro field hfield hcolumn hrequired hdefault hgenerated hreadOnly hkey
    have hfree : scope.model.isForeignKey field.name = false := by
      rw [← Bool.not_eq_true, Model.isForeignKey_iff]
      rintro ⟨relation, hrelation, hheld⟩
      exact hkey relation hrelation hheld
    have hwritable := Model.mem_writable.mpr ⟨hfield, hcolumn, hgenerated, hreadOnly, hfree⟩
    refine ⟨createColumn field, mem_creation.mpr (.inl ⟨hwritable, rfl⟩), ?_, ?_⟩
    · exact createColumn_mandatory_iff.mpr ⟨hrequired, hdefault⟩
    · simp only [createColumn, Member.ofField, Field.acceptsNull, hrequired, Bool.true_or,
        Bool.not_true]
  case leavesOut =>
    intro field hfield hcolumn hmissing
    rw [hfields] at hmissing ⊢
    have hlocked : field ∉ scope.model.writable := fun h => hmissing (List.mem_append_left _ h)
    rcases Model.reason_of_not_mem_writable hfield hcolumn hlocked with
      hgenerated | hreadOnly | ⟨relation, hrelation, hheld⟩
    · exact .inl hgenerated
    · exact .inr (.inl hreadOnly)
    · exact .inr (.inr ⟨relation, List.mem_append_right _ hrelation,
        (Model.mem_relations.mp hrelation).2, hheld⟩)
  case mandatory =>
    intro entry hentry
    rcases mem_creation.mp hentry with ⟨hwritable, hproperty⟩ | ⟨hrelation, hproperty⟩
    · have hcolumn := Model.isColumn_of_mem_writable hwritable
      have hother := Field.isRelation_of_isColumn hcolumn
      rw [hproperty, createColumn_mandatory_iff]
      simp only [hcolumn, hother, Bool.false_eq_true, true_and, false_and, or_false]
    · have hrelated := (Model.mem_relations.mp hrelation).2
      have hother := Field.isColumn_of_isRelation hrelated
      rw [hproperty, createRelation_mandatory_iff]
      simp only [hrelated, hother, Bool.false_eq_true, true_and, false_and, false_or]

end ModelScope

end DtoGen

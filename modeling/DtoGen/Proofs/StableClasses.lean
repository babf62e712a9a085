import DtoGen.Proofs.ImportCollection
import DtoGen.Proofs.ImportResolution
import DtoGen.Proofs.RenderedLines
import Mathlib.Data.List.Forall2

namespace DtoGen

/-- A specifier climbs, or starts where it is. -/
theorem isRelative_importSpecifier (source target : Path) (name : String) :
    Imports.isRelative (importSpecifier source target name) = true := by
  obtain ⟨common, before, behind, hstart, _, hlen⟩ :=
    commonLength_split source.components target.components
  simp only [importSpecifier, hlen]
  split
  · rw [Imports.isRelative, String.toList_append]
    rfl
  · rename_i hne
    have hbefore : ∃ k, source.components.length - common.length = k + 1 := by
      rw [hstart, List.length_append] at hne ⊢
      exact ⟨before.length - 1, by omega⟩
    obtain ⟨k, hk⟩ := hbefore
    rw [hk, List.replicate_succ, List.cons_append, List.cons_append, Imports.isRelative,
      String.toList_intercalate, List.map_cons, List.intercalate_cons_of_ne_nil (by simp)]
    rfl

/-- The two symbols have one name and are the same, but for the way to their modules. -/
structure Symbol.SameName (a b : Symbol) : Prop where
  name : a.name = b.name
  source : a.source = b.source ∨
    Imports.isRelative a.source = true ∧ Imports.isRelative b.source = true

/-- The two members differ in the ways to the modules that their types come from. -/
structure Member.Alike (a b : Member) : Prop where
  property : a.property = b.property
  symbols : List.Forall₂ Symbol.SameName a.symbols b.symbols

namespace Member

theorem Alike.refl (a : Member) : a.Alike a :=
  ⟨rfl, List.forall₂_same.mpr fun _ _ => ⟨rfl, .inl rfl⟩⟩

theorem properties_eq {members others : List Member} (h : List.Forall₂ Alike members others) :
    members.map property = others.map property := by
  induction h with
  | nil => rfl
  | cons head _ ih => rw [List.map_cons, List.map_cons, head.property, ih]

theorem symbols_alike {members others : List Member} (h : List.Forall₂ Alike members others) :
    List.Forall₂ Symbol.SameName (members.flatMap symbols) (others.flatMap symbols) := by
  induction h with
  | nil => exact .nil
  | cons head _ ih => exact List.rel_append head.symbols ih

/-- Members that are made from the same fields. -/
theorem alike_of_map {fields : List Field} {make remake : Field → Member}
    (h : ∀ field ∈ fields, (make field).Alike (remake field)) :
    List.Forall₂ Alike (fields.map make) (fields.map remake) := by
  rw [List.forall₂_map_left_iff, List.forall₂_map_right_iff]
  exact List.forall₂_same.mpr h

end Member

namespace DtoFile

/-- The name is imported over a relative path. -/
def ImportsRelatively (file : DtoFile) (name : String) : Prop :=
  ∃ i ∈ file.imports, Imports.isRelative i.source = true ∧ name ∈ i.names

def packageImports (file : DtoFile) : List Import :=
  file.imports.filter fun i => !Imports.isRelative i.source

/-- The files have the same classes, letter by letter, and import the same symbols. Only relative
specifiers can differ, and so the grouping of what is imported over them. -/
structure SaysTheSame (file other : DtoFile) : Prop where
  classes : file.classes = other.classes
  text : ∃ rest, file.content = file.importText ++ rest ∧ other.content = other.importText ++ rest
  packages : file.packageImports = other.packageImports
  relative : ∀ name, file.ImportsRelatively name ↔ other.ImportsRelatively name

end DtoFile

namespace ModelScope

theorem importsOf_eq_nil {members : List Member} :
    importsOf members = [] ↔ members.flatMap Member.symbols = [] := by
  constructor
  · intro h
    rw [List.eq_nil_iff_forall_not_mem]
    intro symbol hsymbol
    have himported : ∃ i ∈ importsOf members, i.source = symbol.source ∧ symbol.name ∈ i.names :=
      imported_iff.mpr (List.mem_flatMap.mp hsymbol)
    simp [h] at himported
  · intro h
    simp only [importsOf, h]
    rfl

theorem packages_importsOf (members : List Member) :
    (importsOf members).filter (fun i => !Imports.isRelative i.source)
      = ((Imports.ofPairs (((members.flatMap Member.symbols).filter fun symbol =>
          !Imports.isRelative symbol.source).map fun symbol =>
            (symbol.source, symbol.name))).entries.map fun entry =>
              ⟨entry.1, entry.2, false⟩) := by
  rw [importsOf, Imports.filter_toList_packages, Imports.only_ofPairs, List.filter_map]
  rfl

theorem packages_alike {symbols others : List Symbol}
    (h : List.Forall₂ Symbol.SameName symbols others) :
    symbols.filter (fun symbol => !Imports.isRelative symbol.source)
      = others.filter fun symbol => !Imports.isRelative symbol.source := by
  induction h with
  | nil => rfl
  | @cons a b as bs head _ ih =>
    rcases head.source with hsource | ⟨ha, hb⟩
    · obtain ⟨source, name⟩ := a
      obtain ⟨source', name'⟩ := b
      obtain rfl : name = name' := head.name
      obtain rfl : source = source' := hsource
      rw [List.filter_cons, List.filter_cons, ih]
    · simp [ha, hb, ih]

/-- Alike symbols bring in the same names over relative paths. -/
theorem relative_alike {symbols others : List Symbol}
    (h : List.Forall₂ Symbol.SameName symbols others) (name : String) :
    (∃ a ∈ symbols, Imports.isRelative a.source = true ∧ a.name = name) ↔
      ∃ b ∈ others, Imports.isRelative b.source = true ∧ b.name = name := by
  induction h with
  | nil => simp
  | @cons a b as bs head _ ih =>
    have hhead : Imports.isRelative a.source = Imports.isRelative b.source := by
      rcases head.source with hsource | ⟨ha, hb⟩
      · rw [hsource]
      · rw [ha, hb]
    simp only [List.mem_cons, exists_eq_or_imp, ih, hhead, head.name]

theorem importsRelatively_iff {file : DtoFile} {members : List Member}
    (himports : file.imports = importsOf members) (name : String) :
    file.ImportsRelatively name ↔ ∃ symbol ∈ members.flatMap Member.symbols,
      Imports.isRelative symbol.source = true ∧ symbol.name = name := by
  rw [DtoFile.ImportsRelatively, himports]
  constructor
  · rintro ⟨i, hi, hrelative, hname⟩
    obtain ⟨member, hm, hs⟩ := imported_iff.mp ⟨i, hi, rfl, hname⟩
    exact ⟨⟨i.source, name⟩, List.mem_flatMap.mpr ⟨member, hm, hs⟩, hrelative, rfl⟩
  · rintro ⟨symbol, hsymbol, hrelative, rfl⟩
    obtain ⟨i, hi, hsource, hname⟩ := imported_iff.mpr (List.mem_flatMap.mp hsymbol)
    exact ⟨i, hi, hsource ▸ hrelative, hname⟩

/-- Files with the same classes say the same, if what they import is collected from alike
members. -/
theorem saysTheSame_of_members {file other : DtoFile} {members others : List Member}
    (hfile : file.imports = importsOf members) (hother : other.imports = importsOf others)
    (hclasses : file.classes = other.classes) (halike : List.Forall₂ Member.Alike members others) :
    file.SaysTheSame other := by
  have hsymbols := Member.symbols_alike halike
  have hempty : importsOf members = [] ↔ importsOf others = [] := by
    rw [importsOf_eq_nil, importsOf_eq_nil, ← List.length_eq_zero_iff, hsymbols.length_eq,
      List.length_eq_zero_iff]
  have htext : file.classText = other.classText := by
    have hgap : file.imports.isEmpty = other.imports.isEmpty := by
      rw [hfile, hother, Bool.eq_iff_iff, List.isEmpty_iff, List.isEmpty_iff, hempty]
    simp only [DtoFile.classText, CodeModule.gapLines, hclasses, hgap]
  refine ⟨hclasses, ⟨file.classText, file.content_eq, htext ▸ other.content_eq⟩, ?_, fun name => ?_⟩
  · rw [DtoFile.packageImports, DtoFile.packageImports, hfile, hother, packages_importsOf,
      packages_importsOf, packages_alike hsymbols]
  · rw [importsRelatively_iff hfile, importsRelatively_iff hother, relative_alike hsymbols]

end ModelScope

/-- The options that the texts of classes are made with. -/
structure Options.AgreesOnClasses (options other : Options) : Prop where
  connectDtoPrefix : options.connectDtoPrefix = other.connectDtoPrefix
  createDtoPrefix : options.createDtoPrefix = other.createDtoPrefix
  updateDtoPrefix : options.updateDtoPrefix = other.updateDtoPrefix
  dtoSuffix : options.dtoSuffix = other.dtoSuffix
  entityPrefix : options.entityPrefix = other.entityPrefix
  entitySuffix : options.entitySuffix = other.entitySuffix
  exportRelationModifierClasses :
    options.exportRelationModifierClasses = other.exportRelationModifierClasses

namespace Options.AgreesOnClasses

variable {options other : Options}

theorem dtoClass_eq (h : options.AgreesOnClasses other) (kind : DtoKind) (model : String) :
    options.dtoClass kind model = other.dtoClass kind model := by
  have hprefix : options.dtoPrefix kind = other.dtoPrefix kind := by
    cases kind with
    | connect => exact h.connectDtoPrefix
    | create => exact h.createDtoPrefix
    | update => exact h.updateDtoPrefix
  rw [dtoClass, dtoClass, hprefix, h.dtoSuffix]

theorem entityClass_eq (h : options.AgreesOnClasses other) (model : String) :
    options.entityClass model = other.entityClass model := by
  rw [entityClass, entityClass, h.entityPrefix, h.entitySuffix]

end Options.AgreesOnClasses

/-- The files that are made for a model. -/
inductive FileKind
  | input (kind : DtoKind)
  | entity
deriving DecidableEq, Repr

/-- Whether a run makes files of the kind. -/
def Options.makes (options : Options) : FileKind → Bool
  | .input _ => !options.entitiesOnly
  | .entity => true

namespace ModelScope

def fileOf (scope : ModelScope) (base : Path) : FileKind → DtoFile
  | .input kind => scope.dtoFile base kind
  | .entity => scope.entityFile base

theorem fileOf_mem_files {scope : ModelScope} {base : Path} {kind : FileKind}
    (h : scope.options.makes kind = true) : scope.fileOf base kind ∈ scope.files base := by
  cases kind with
  | input kind =>
    have hinputs : scope.options.entitiesOnly = false := by simpa [Options.makes] using h
    exact mem_files.mpr (.inl ⟨hinputs, kind, rfl⟩)
  | entity => exact mem_files.mpr (.inr rfl)

theorem mem_files_iff_fileOf {scope : ModelScope} {base : Path} {file : DtoFile} :
    file ∈ scope.files base ↔
      ∃ kind, scope.options.makes kind = true ∧ file = scope.fileOf base kind := by
  constructor
  · intro h
    rcases mem_files.mp h with ⟨hinputs, kind, rfl⟩ | rfl
    · exact ⟨.input kind, by simp [Options.makes, hinputs], rfl⟩
    · exact ⟨.entity, rfl, rfl⟩
  · rintro ⟨kind, hmakes, rfl⟩
    exact fileOf_mem_files hmakes

variable {options other : Options} {model : Model} {base place : Path}

theorem connectSymbol_sameName (h : options.AgreesOnClasses other) (target : String) :
    (connectSymbol ⟨options, model⟩ target).SameName (connectSymbol ⟨other, model⟩ target) :=
  ⟨h.dtoClass_eq .connect target,
    .inr ⟨isRelative_importSpecifier _ _ _, isRelative_importSpecifier _ _ _⟩⟩

theorem helper_eq (h : options.AgreesOnClasses other) (kind : DtoKind)
    (isOptional : Field → Bool) (field : Field) :
    (relationInput ⟨options, model⟩ kind isOptional field).helper
      = (relationInput ⟨other, model⟩ kind isOptional field).helper := by
  have hconnect := h.dtoClass_eq .connect field.typeName
  simp only [relationInput, connectSymbol, hconnect, h.exportRelationModifierClasses]

theorem relationInput_alike (h : options.AgreesOnClasses other) (kind : DtoKind)
    (isOptional : Field → Bool) (field : Field) :
    (relationInput ⟨options, model⟩ kind isOptional field).member.Alike
      (relationInput ⟨other, model⟩ kind isOptional field).member :=
  ⟨rfl, .cons (connectSymbol_sameName h field.typeName) .nil⟩

theorem connectFile_saysTheSame (h : options.AgreesOnClasses other) :
    (connectFile ⟨options, model⟩ base).SaysTheSame (connectFile ⟨other, model⟩ place) := by
  refine saysTheSame_of_members rfl rfl ?_ (Member.alike_of_map fun field _ => .refl _)
  simp only [connectFile, h.dtoClass_eq .connect]

theorem inputFile_saysTheSame (h : options.AgreesOnClasses other) (kind : DtoKind)
    (isOptionalColumn isOptionalRelation : Field → Bool) :
    (inputFile ⟨options, model⟩ base kind isOptionalColumn isOptionalRelation).SaysTheSame
      (inputFile ⟨other, model⟩ place kind isOptionalColumn isOptionalRelation) := by
  have hcolumns : List.Forall₂ Member.Alike
      (model.writable.map fun field => Member.ofField field (.ofColumn field)
        (isOptionalColumn field) field.acceptsNull)
      (model.writable.map fun field => Member.ofField field (.ofColumn field)
        (isOptionalColumn field) field.acceptsNull) :=
    Member.alike_of_map fun field _ => .refl _
  have hrelations : List.Forall₂ Member.Alike
      ((model.relations.map (relationInput ⟨options, model⟩ kind isOptionalRelation)).map
        RelationInput.member)
      ((model.relations.map (relationInput ⟨other, model⟩ kind isOptionalRelation)).map
        RelationInput.member) := by
    rw [List.map_map, List.map_map]
    exact Member.alike_of_map fun field _ => relationInput_alike h kind isOptionalRelation field
  have hmembers := List.rel_append hcolumns hrelations
  refine saysTheSame_of_members rfl rfl ?_ hmembers
  have hhelpers : (relationInput ⟨options, model⟩ kind isOptionalRelation · |>.helper)
      = (relationInput ⟨other, model⟩ kind isOptionalRelation · |>.helper) :=
    funext fun field => helper_eq h kind isOptionalRelation field
  have hmain := Member.properties_eq hmembers
  simp only [inputFile, mainClass, List.map_map, Function.comp_def, hhelpers, h.dtoClass_eq kind]
  simp only [List.map_append, List.map_map, Function.comp_def] at hmain ⊢
  rw [hmain]

theorem entityUse_alike (model : Model) (h : options.AgreesOnClasses other) (target : String)
    (isList : Bool) :
    (entityUse ⟨options, model⟩ target isList).text = (entityUse ⟨other, model⟩ target isList).text ∧
      List.Forall₂ Symbol.SameName (entityUse ⟨options, model⟩ target isList).symbols
        (entityUse ⟨other, model⟩ target isList).symbols := by
  have hclass := h.entityClass_eq target
  refine ⟨by simp only [entityUse, hclass], ?_⟩
  by_cases hself : target = model.name
  · simp [entityUse, hself]
  · simp only [entityUse, if_neg hself]
    exact .cons ⟨hclass, .inr ⟨isRelative_importSpecifier _ _ _,
      isRelative_importSpecifier _ _ _⟩⟩ .nil

theorem entityMember_alike (h : options.AgreesOnClasses other) (field : Field) :
    (entityMember ⟨options, model⟩ field).Alike (entityMember ⟨other, model⟩ field) := by
  unfold entityMember
  split
  · obtain ⟨htext, hsymbols⟩ := entityUse_alike model h field.typeName field.isList
    exact ⟨by simp only [Member.ofField, htext], hsymbols⟩
  · exact .refl _

theorem entityFile_saysTheSame (h : options.AgreesOnClasses other) :
    (entityFile ⟨options, model⟩ base).SaysTheSame (entityFile ⟨other, model⟩ place) := by
  have hmembers : List.Forall₂ Member.Alike (model.fields.map (entityMember ⟨options, model⟩))
      (model.fields.map (entityMember ⟨other, model⟩)) :=
    Member.alike_of_map fun field _ => entityMember_alike h field
  refine saysTheSame_of_members rfl rfl ?_ hmembers
  have hmain := Member.properties_eq hmembers
  simp only [entityFile, mainClass, h.entityClass_eq, hmain]

theorem fileOf_saysTheSame (h : options.AgreesOnClasses other) (kind : FileKind) :
    (fileOf ⟨options, model⟩ base kind).SaysTheSame (fileOf ⟨other, model⟩ place kind) := by
  match kind with
  | .input .connect => exact connectFile_saysTheSame h
  | .input .create => exact inputFile_saysTheSame h .create _ _
  | .input .update => exact inputFile_saysTheSame h .update _ _
  | .entity => exact entityFile_saysTheSame h

end ModelScope

namespace Schema

variable {options otherOptions : Options} {schema otherSchema : Schema}
  {files others : List DtoFile}

/-- Two runs write the same classes for a model that they have in common, in all files that both of
them make for it. -/
theorem classes_stay (hagree : options.AgreesOnClasses otherOptions)
    (hfiles : schema.dtoFiles options = .ok files)
    (hothers : otherSchema.dtoFiles otherOptions = .ok others) :
    ∀ model ∈ schema.models, model ∈ otherSchema.models → ∀ kind : FileKind,
      options.makes kind = true → otherOptions.makes kind = true →
      ∃ file ∈ files, ∃ other ∈ others,
        file = ModelScope.fileOf ⟨options, model⟩ options.output kind ∧
        other = ModelScope.fileOf ⟨otherOptions, model⟩ otherOptions.output kind ∧
        file.SaysTheSame other := by
  obtain ⟨_, rfl⟩ := dtoFiles_eq_ok.mp hfiles
  obtain ⟨_, rfl⟩ := dtoFiles_eq_ok.mp hothers
  intro model hmodel hother kind hmakes hmakesOther
  refine ⟨_, List.mem_flatMap.mpr ⟨model, hmodel, ModelScope.fileOf_mem_files hmakes⟩,
    _, List.mem_flatMap.mpr ⟨model, hother, ModelScope.fileOf_mem_files hmakesOther⟩,
    rfl, rfl, ModelScope.fileOf_saysTheSame hagree kind⟩

/-- A directory for each model, and classes named for what they are for. -/
def nestedDtos : Options :=
  { nestedOptions with
    connectDtoPrefix := "Connect", createDtoPrefix := "Create", updateDtoPrefix := "Update",
    dtoSuffix := "Dto" }

/-- The same classes, all in one directory and in files of another style. -/
def flatDtos : Options :=
  { nestedDtos with
    output := ⟨"src"⟩, outputToNestJsResourceStructure := false, fileNamingStyle := .snake }

/-- The blog with another model in front, and its own models in another order. -/
def taggedBlog : Schema :=
  ⟨⟨"Tag", none, [], none⟩ :: blog.models.reverse, []⟩

theorem blog_classes_stay : ∃ files others,
    blog.dtoFiles nestedDtos = .ok files ∧ taggedBlog.dtoFiles flatDtos = .ok others ∧
    ∃ file ∈ files, ∃ other ∈ others, file.path ≠ other.path ∧ file.imports ≠ other.imports ∧
      file.SaysTheSame other := by
  have hagree : nestedDtos.AgreesOnClasses flatDtos := by constructor <;> rfl
  refine ⟨_, _, rfl, rfl, ?_⟩
  obtain ⟨file, hfile, other, hother, rfl, rfl, hsame⟩ :=
    classes_stay hagree (show blog.dtoFiles nestedDtos = _ from rfl)
      (show taggedBlog.dtoFiles flatDtos = _ from rfl)
      (blog.models.getLast (by decide)) (by decide) (by decide) (.input .create) rfl rfl
  exact ⟨_, hfile, _, hother, by decide +kernel, by decide +kernel, hsame⟩

end Schema

end DtoGen

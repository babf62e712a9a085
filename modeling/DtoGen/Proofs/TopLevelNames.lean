import DtoGen.Proofs.Destinations
import DtoGen.Proofs.ModuleClosure
import DtoGen.Proofs.PartialUpdate
import DtoGen.Proofs.StableClasses

namespace DtoGen

/-- Class names are made as they are when no option says otherwise. -/
structure Options.DefaultNames (options : Options) : Prop where
  connectDtoPrefix : options.connectDtoPrefix = "Connect"
  createDtoPrefix : options.createDtoPrefix = "Create"
  updateDtoPrefix : options.updateDtoPrefix = "Update"
  dtoSuffix : options.dtoSuffix = "Dto"
  entityPrefix : options.entityPrefix = ""
  entitySuffix : options.entitySuffix = ""

namespace DtoKind

/-- Verbs in front of two names tell the kinds apart. -/
theorem of_verb_append {kind other : DtoKind} {a b : String}
    (h : pascalCase kind.verb ++ a = pascalCase other.verb ++ b) : kind = other := by
  have hopening : ∀ kind : DtoKind,
      (pascalCase kind.verb).toList = NamingStyle.pascal.opening kind.verb.toList := by
    intro kind
    cases kind <;> decide
  have hletters := congrArg (fun s => s.toList.take 2) h
  simp only [String.toList_append, hopening] at hletters
  rw [List.take_append_of_le_length (two_le_opening _ kind),
    List.take_append_of_le_length (two_le_opening _ other)] at hletters
  exact opening_injective hletters

theorem prisma_ne (kind : DtoKind) (a : String) : "Prisma" ≠ pascalCase kind.verb ++ a := by
  have hfirst : (pascalCase kind.verb).toList.head? ≠ some 'P' ∧
      (pascalCase kind.verb).toList ≠ [] := by
    cases kind <;> decide
  intro h
  have hhead := congrArg (fun s => s.toList.head?) h
  simp only [String.toList_append, List.head?_append_of_ne_nil _ hfirst.2] at hhead
  exact hfirst.1 hhead.symm

end DtoKind

namespace Options.DefaultNames

variable {options : Options}

theorem dtoClass_eq (h : options.DefaultNames) (kind : DtoKind) (model : String) :
    options.dtoClass kind model = pascalCase kind.verb ++ (model ++ "Dto") := by
  have hprefix : options.dtoPrefix kind = pascalCase kind.verb := by
    cases kind with
    | connect => exact h.connectDtoPrefix.trans (by decide)
    | create => exact h.createDtoPrefix.trans (by decide)
    | update => exact h.updateDtoPrefix.trans (by decide)
  rw [dtoClass, hprefix, h.dtoSuffix, String.append_assoc]

theorem entityClass_eq (h : options.DefaultNames) (model : String) :
    options.entityClass model = model := by
  rw [entityClass, h.entityPrefix, h.entitySuffix, String.empty_append, String.append_empty]

end Options.DefaultNames

theorem relationInputClass_eq (kind : DtoKind) (model field : String) :
    relationInputClass kind model field
      = pascalCase kind.verb ++ (model ++ (pascalCase field ++ "RelationInputDto")) := by
  simp only [relationInputClass, String.append_assoc]

theorem relationInputClass_inj {kind : DtoKind} {model a b : String} :
    relationInputClass kind model a = relationInputClass kind model b ↔
      pascalCase a = pascalCase b := by
  rw [relationInputClass_eq, relationInputClass_eq]
  rw [String.append_right_inj, String.append_right_inj, String.append_left_inj]

theorem dtoClass_ne_relationInputClass {options : Options} (h : options.DefaultNames)
    (kind other : DtoKind) (target model field : String)
    (hsame : kind = other → target = model) :
    options.dtoClass kind target ≠ relationInputClass other model field := by
  rw [h.dtoClass_eq, relationInputClass_eq]
  intro heq
  obtain rfl := DtoKind.of_verb_append heq
  obtain rfl := hsame rfl
  -- what is left is the shorter suffix against a text that is longer than it
  rw [String.append_right_inj, String.append_right_inj] at heq
  have hrest := congrArg String.length heq
  have hlong : "Dto".length < "RelationInputDto".length := by decide
  rw [String.length_append] at hrest
  omega

/-- One of the fields is typed with an enumeration of this name. -/
def SomeEnumNamed (fields : List Field) (name : String) : Prop :=
  ∃ field ∈ fields, field.isEnum = true ∧ field.typeName = name

/-- One of the fields has a type of the namespace that the database client exports. -/
def UsesNamespace (fields : List Field) : Prop :=
  ∃ field ∈ fields, ∃ scalar, field.scalarType? = some scalar ∧ scalar.inNamespace = true

def columnSymbols (fields : List Field) : List Symbol :=
  fields.flatMap fun field => (TypeUse.ofColumn field).symbols

theorem mem_ofColumn_symbols {field : Field} {symbol : Symbol} :
    symbol ∈ (TypeUse.ofColumn field).symbols ↔
      (field.isEnum = true ∧ symbol = ⟨prismaClient, field.typeName⟩) ∨
        (∃ scalar, field.scalarType? = some scalar ∧ scalar.inNamespace = true) ∧
          symbol = prismaNamespace := by
  cases hkind : field.kind with
  | enumeration =>
    simp [TypeUse.ofColumn, hkind, Field.isEnum, Field.scalarType?]
  | scalar =>
    cases hscalar : ScalarType.ofName? field.typeName with
    | none => simp [TypeUse.ofColumn, hkind, Field.isEnum, Field.scalarType?, hscalar]
    | some scalar =>
      cases hspace : scalar.inNamespace <;>
        simp [TypeUse.ofColumn, hkind, Field.isEnum, Field.scalarType?, hscalar, hspace,
          prismaNamespace]
  | relation => simp [TypeUse.ofColumn, hkind, Field.isEnum, Field.scalarType?]
  | unsupported => simp [TypeUse.ofColumn, hkind, Field.isEnum, Field.scalarType?]

/-- Columns bring in the names of their enumerations, and the name of the namespace. -/
theorem columnSymbols_apart_iff {fields : List Field} {names : List String} :
    (∀ symbol ∈ columnSymbols fields, symbol.name ∉ names) ↔
      (∀ name ∈ names, ¬SomeEnumNamed fields name) ∧
        (UsesNamespace fields → "Prisma" ∉ names) := by
  constructor
  · refine fun h => ⟨?_, ?_⟩
    · rintro _ hname ⟨field, hfield, henum, rfl⟩
      refine h ⟨prismaClient, field.typeName⟩ ?_ hname
      exact List.mem_flatMap.mpr ⟨field, hfield, mem_ofColumn_symbols.mpr (.inl ⟨henum, rfl⟩)⟩
    · rintro ⟨field, hfield, hscalar⟩
      refine h prismaNamespace ?_
      exact List.mem_flatMap.mpr ⟨field, hfield, mem_ofColumn_symbols.mpr (.inr ⟨hscalar, rfl⟩)⟩
  · rintro ⟨henums, hspace⟩ symbol hsymbol hname
    obtain ⟨field, hfield, hs⟩ := List.mem_flatMap.mp hsymbol
    rcases mem_ofColumn_symbols.mp hs with ⟨henum, rfl⟩ | ⟨hscalar, rfl⟩
    · exact henums _ hname ⟨field, hfield, henum, rfl⟩
    · exact hspace ⟨field, hfield, hscalar⟩ hname

namespace DtoFile

/-- The names that a file introduces, imported ones first. -/
def topLevelNames (file : DtoFile) : List String :=
  file.imports.flatMap Import.names ++ file.classes.map Class.name

/-- Where the symbols of a file come from the client and over relative paths, and the latter have
different names, only the former can make two names equal, or a class that is declared and imported
at once. -/
theorem nodup_topLevelNames_iff {file : DtoFile} {members : List Member} {fields : List Field}
    {symbols : List Symbol} (himports : file.imports = ModelScope.importsOf members)
    (hmem : ∀ symbol, symbol ∈ members.flatMap Member.symbols ↔
      symbol ∈ columnSymbols fields ∨ symbol ∈ symbols)
    (hrelative : ∀ symbol ∈ symbols, Imports.isRelative symbol.source = true)
    (hinjective : ∀ a ∈ symbols, ∀ b ∈ symbols, a.name = b.name → a = b) :
    file.topLevelNames.Nodup ↔
      (∀ symbol ∈ columnSymbols fields,
        symbol.name ∉ symbols.map Symbol.name ++ file.classes.map Class.name) ∧
      (∀ symbol ∈ symbols, symbol.name ∉ file.classes.map Class.name) ∧
      (file.classes.map Class.name).Nodup := by
  have hclient : ∀ symbol ∈ columnSymbols fields, symbol.source = prismaClient := by
    intro symbol hsymbol
    obtain ⟨field, _, hs⟩ := List.mem_flatMap.mp hsymbol
    exact TypeUse.source_of_column hs
  have himported : ∀ name, name ∈ file.imports.flatMap Import.names ↔
      ∃ symbol ∈ members.flatMap Member.symbols, symbol.name = name := by
    intro name
    rw [himports, ModelScope.names_eq_map_symbols, List.mem_map]
    simp only [ModelScope.mem_symbols]
  have hnodup : (file.imports.flatMap Import.names).Nodup ↔
      ∀ a ∈ members.flatMap Member.symbols, ∀ b ∈ members.flatMap Member.symbols,
        a.name = b.name → a = b := by
    rw [himports, ModelScope.nodup_names_iff]
  rw [topLevelNames, List.nodup_append, hnodup]
  constructor
  · rintro ⟨honce, hclasses, hapart⟩
    refine ⟨fun symbol hsymbol hname => ?_, fun symbol hsymbol hname => ?_, hclasses⟩
    · rcases List.mem_append.mp hname with hname | hname
      · obtain ⟨other, hother, heq⟩ := List.mem_map.mp hname
        obtain rfl := honce other ((hmem other).mpr (.inr hother)) symbol
          ((hmem symbol).mpr (.inl hsymbol)) heq
        have hsource := hrelative other hother
        rw [hclient other hsymbol] at hsource
        exact absurd hsource (by decide)
      · exact hapart _ ((himported _).mpr ⟨symbol, (hmem symbol).mpr (.inl hsymbol), rfl⟩)
          _ hname rfl
    · exact hapart _ ((himported _).mpr ⟨symbol, (hmem symbol).mpr (.inr hsymbol), rfl⟩)
        _ hname rfl
  · rintro ⟨hcolumns, hsymbols, hclasses⟩
    refine ⟨fun a ha b hb heq => ?_, hclasses, fun name hname other hother heq => ?_⟩
    · rcases (hmem a).mp ha with ha | ha <;> rcases (hmem b).mp hb with hb | hb
      · obtain ⟨source, name⟩ := a
        obtain ⟨source', name'⟩ := b
        have hsource : source = source' := (hclient _ ha).trans (hclient _ hb).symm
        have hname : name = name' := heq
        rw [hsource, hname]
      · exact absurd (List.mem_append_left _ (List.mem_map.mpr ⟨b, hb, heq.symm⟩)) (hcolumns a ha)
      · exact absurd (List.mem_append_left _ (List.mem_map.mpr ⟨a, ha, heq⟩)) (hcolumns b hb)
      · exact hinjective a ha b hb heq
    · obtain ⟨symbol, hsymbol, rfl⟩ := (himported name).mp hname
      rcases (hmem symbol).mp hsymbol with hsymbol | hsymbol
      · exact hcolumns symbol hsymbol (List.mem_append_right _ (heq ▸ hother))
      · exact hsymbols symbol hsymbol (heq ▸ hother)

end DtoFile

namespace Options

theorem dtoClass_inj {options : Options} {kind : DtoKind} {a b : String} :
    options.dtoClass kind a = options.dtoClass kind b ↔ a = b := by
  rw [dtoClass, dtoClass, String.append_left_inj, String.append_right_inj]

theorem entityClass_inj {options : Options} {a b : String} :
    options.entityClass a = options.entityClass b ↔ a = b := by
  rw [entityClass, entityClass, String.append_left_inj, String.append_right_inj]

/-- The classes that an input file declares, helper classes first. -/
def inputClasses (options : Options) (model : Model) (kind : DtoKind) : List String :=
  model.relations.map (fun field => relationInputClass kind model.name field.name)
    ++ [options.dtoClass kind model.name]

/-- The names of generated classes in an input file: connect classes of related models, and the
classes that the file declares. -/
def inputNames (options : Options) (model : Model) (kind : DtoKind) : List String :=
  model.relations.map (fun field => options.dtoClass .connect field.typeName)
    ++ options.inputClasses model kind

def entityNames (options : Options) (model : Model) : List String :=
  model.relations.map (fun field => options.entityClass field.typeName)
    ++ [options.entityClass model.name]

/-- What keeps the names in the files of a model apart, by the kind of the file. No enumeration that
a file needs is named like a generated class of the file; helper classes are named apart; and where
an entity needs the client's namespace, no entity in sight has its name. -/
def NamesApart (options : Options) (model : Model) : FileKind → Prop
  | .input .connect => ¬SomeEnumNamed model.identifying (options.dtoClass .connect model.name)
  | .input kind =>
    (∀ name ∈ options.inputNames model kind, ¬SomeEnumNamed model.writable name) ∧
      (model.relations.map fun field => pascalCase field.name).Nodup
  | .entity =>
    (∀ name ∈ options.entityNames model, ¬SomeEnumNamed model.fields name) ∧
      (UsesNamespace model.fields → "Prisma" ∉ options.entityNames model)

variable {options : Options}

theorem mem_inputNames {model : Model} {kind : DtoKind} {name : String} :
    name ∈ options.inputNames model kind ↔
      (∃ field ∈ model.relations, options.dtoClass .connect field.typeName = name) ∨
      (∃ field ∈ model.relations, relationInputClass kind model.name field.name = name) ∨
      name = options.dtoClass kind model.name := by
  simp only [inputNames, inputClasses, List.mem_append, List.mem_map, List.mem_singleton]

/-- The verbs in front keep generated input classes apart from the client's namespace. -/
theorem prisma_not_mem_inputNames (h : options.DefaultNames) (model : Model) (kind : DtoKind) :
    "Prisma" ∉ options.inputNames model kind := by
  intro hmem
  rcases mem_inputNames.mp hmem with ⟨field, _, heq⟩ | ⟨field, _, heq⟩ | heq
  · exact DtoKind.prisma_ne _ _ (heq.symm.trans (h.dtoClass_eq _ _))
  · exact DtoKind.prisma_ne _ _ (heq.symm.trans (relationInputClass_eq _ _ _))
  · exact DtoKind.prisma_ne _ _ (heq.trans (h.dtoClass_eq _ _))

/-- A connect class is not declared where it is imported. -/
theorem connect_not_mem_inputClasses (h : options.DefaultNames) {kind : DtoKind}
    (hkind : DtoKind.connect ≠ kind) (model : Model) (target : String) :
    options.dtoClass .connect target ∉ options.inputClasses model kind := by
  intro hmem
  rcases List.mem_append.mp hmem with hmem | hmem
  · obtain ⟨field, _, heq⟩ := List.mem_map.mp hmem
    exact dtoClass_ne_relationInputClass h .connect kind target model.name field.name
      (fun hsame => absurd hsame hkind) heq.symm
  · have heq := List.mem_singleton.mp hmem
    rw [h.dtoClass_eq, h.dtoClass_eq] at heq
    exact hkind (DtoKind.of_verb_append heq)

/-- The classes of an input file differ as far as its relations do when they are put in Pascal
case. -/
theorem nodup_inputClasses_iff (h : options.DefaultNames) (model : Model) (kind : DtoKind) :
    (options.inputClasses model kind).Nodup ↔
      (model.relations.map fun field => pascalCase field.name).Nodup := by
  have hmain : options.dtoClass kind model.name
      ∉ model.relations.map fun field => relationInputClass kind model.name field.name := by
    intro hmem
    obtain ⟨field, _, heq⟩ := List.mem_map.mp hmem
    exact dtoClass_ne_relationInputClass h kind kind model.name model.name field.name
      (fun _ => rfl) heq.symm
  rw [inputClasses, List.nodup_append_comm, List.singleton_append, List.nodup_cons,
    and_iff_right hmain]
  simp only [List.Nodup, List.pairwise_map, Ne, relationInputClass_inj]

end Options

namespace ModelScope

variable {options : Options} {model : Model} {base : Path} {symbol : Symbol}

theorem isColumn_of_mem_symbols {field : Field}
    (h : symbol ∈ (TypeUse.ofColumn field).symbols) : field.isColumn = true := by
  rcases mem_ofColumn_symbols.mp h with ⟨henum, _⟩ | ⟨⟨scalar, hscalar, _⟩, _⟩
  · simp [Field.isColumn, henum]
  · simp [Field.isColumn, hscalar]

theorem mem_connectFile_symbols :
    symbol ∈ ((model.identifying.filter Field.isColumn).map connectMember).flatMap Member.symbols ↔
      symbol ∈ columnSymbols model.identifying ∨ symbol ∈ ([] : List Symbol) := by
  rw [List.flatMap_map, columnSymbols, List.mem_flatMap, List.mem_flatMap]
  constructor
  · rintro ⟨field, hfield, hs⟩
    exact .inl ⟨field, (List.mem_filter.mp hfield).1, hs⟩
  · rintro (⟨field, hfield, hs⟩ | hs)
    · exact ⟨field, List.mem_filter.mpr ⟨hfield, isColumn_of_mem_symbols hs⟩, hs⟩
    · cases hs

theorem nodup_connectFile (h : options.DefaultNames) :
    (connectFile ⟨options, model⟩ base).topLevelNames.Nodup ↔
      options.NamesApart model (.input .connect) := by
  have hprisma : "Prisma" ≠ options.dtoClass .connect model.name :=
    h.dtoClass_eq .connect model.name ▸ DtoKind.prisma_ne _ _
  rw [DtoFile.nodup_topLevelNames_iff rfl (fun _ => mem_connectFile_symbols) (by simp) (by simp),
    List.map_nil, List.nil_append, columnSymbols_apart_iff]
  simp [connectFile, mainClass, Options.NamesApart, hprisma]

/-- What the relations of a model bring into an input file. -/
def connectSymbols (scope : ModelScope) : List Symbol :=
  scope.model.relations.map fun field => scope.connectSymbol field.typeName

theorem mem_inputFile_symbols {scope : ModelScope} {kind : DtoKind}
    {isOptionalColumn isOptionalRelation : Field → Bool} :
    symbol ∈ ((scope.model.writable.map fun field =>
        Member.ofField field (.ofColumn field) (isOptionalColumn field) field.acceptsNull)
      ++ (scope.model.relations.map (scope.relationInput kind isOptionalRelation)).map
        RelationInput.member).flatMap Member.symbols ↔
      symbol ∈ columnSymbols scope.model.writable ∨ symbol ∈ scope.connectSymbols := by
  rw [List.flatMap_append, List.mem_append, List.flatMap_map, List.map_map, List.flatMap_map]
  refine or_congr Iff.rfl ?_
  rw [List.mem_flatMap, connectSymbols, List.mem_map]
  refine exists_congr fun field => and_congr_right fun _ => ?_
  exact List.mem_singleton.trans eq_comm

theorem connectSymbols_relative {scope : ModelScope} (h : symbol ∈ scope.connectSymbols) :
    Imports.isRelative symbol.source = true := by
  obtain ⟨field, _, rfl⟩ := List.mem_map.mp h
  exact isRelative_importSpecifier _ _ _

theorem connectSymbols_injective {scope : ModelScope} {a b : Symbol}
    (ha : a ∈ scope.connectSymbols) (hb : b ∈ scope.connectSymbols) (heq : a.name = b.name) :
    a = b := by
  obtain ⟨field, _, rfl⟩ := List.mem_map.mp ha
  obtain ⟨other, _, rfl⟩ := List.mem_map.mp hb
  rw [Options.dtoClass_inj.mp heq]

/-- An input file that declares helper classes. -/
theorem nodup_inputFile (h : options.DefaultNames) {kind : DtoKind} (hkind : DtoKind.connect ≠ kind)
    (isOptionalColumn isOptionalRelation : Field → Bool) :
    (inputFile ⟨options, model⟩ base kind isOptionalColumn isOptionalRelation).topLevelNames.Nodup ↔
      (∀ name ∈ options.inputNames model kind, ¬SomeEnumNamed model.writable name) ∧
        (model.relations.map fun field => pascalCase field.name).Nodup := by
  have hclasses : (inputFile ⟨options, model⟩ base kind isOptionalColumn
      isOptionalRelation).classes.map Class.name = options.inputClasses model kind := by
    simp [inputFile, mainClass, relationInput, Options.inputClasses]
  have hnames : (connectSymbols ⟨options, model⟩).map Symbol.name ++ options.inputClasses model kind
      = options.inputNames model kind := by
    rw [connectSymbols, List.map_map]
    rfl
  have hdeclared : ∀ symbol ∈ connectSymbols ⟨options, model⟩,
      symbol.name ∉ options.inputClasses model kind := by
    intro symbol hsymbol
    obtain ⟨field, _, rfl⟩ := List.mem_map.mp hsymbol
    exact Options.connect_not_mem_inputClasses h hkind model field.typeName
  rw [DtoFile.nodup_topLevelNames_iff rfl (fun _ => mem_inputFile_symbols)
      (fun _ => connectSymbols_relative) (fun _ ha _ hb => connectSymbols_injective ha hb),
    hclasses, hnames, columnSymbols_apart_iff, Options.nodup_inputClasses_iff h,
    and_iff_right hdeclared]
  exact and_congr_left' (and_iff_left fun _ => Options.prisma_not_mem_inputNames h model kind)

/-- What the relations to other models bring into an entity file. -/
def entitySymbols (scope : ModelScope) : List Symbol :=
  (scope.model.relations.filter fun field => field.typeName != scope.model.name).map fun field =>
    ⟨importSpecifier (scope.options.entityDirectory scope.model.name)
      (scope.options.entityDirectory field.typeName) (scope.options.entityModule field.typeName),
      scope.options.entityClass field.typeName⟩

theorem mem_entitySymbols {scope : ModelScope} : symbol ∈ scope.entitySymbols ↔
    ∃ field ∈ scope.model.relations, field.typeName ≠ scope.model.name ∧
      symbol ∈ (scope.entityUse field.typeName field.isList).symbols := by
  rw [entitySymbols, List.mem_map]
  refine exists_congr fun field => ?_
  rw [List.mem_filter, bne_iff_ne, and_assoc]
  refine and_congr_right fun _ => and_congr_right fun hother => ?_
  rw [entityUse, if_neg hother, List.mem_singleton, eq_comm]

theorem mem_entityFile_symbols {scope : ModelScope} :
    symbol ∈ (scope.model.fields.map scope.entityMember).flatMap Member.symbols ↔
      symbol ∈ columnSymbols scope.model.fields ∨ symbol ∈ scope.entitySymbols := by
  rw [List.flatMap_map, List.mem_flatMap, columnSymbols, List.mem_flatMap, mem_entitySymbols]
  constructor
  · rintro ⟨field, hfield, hs⟩
    unfold entityMember at hs
    split at hs
    · rename_i hrelation
      by_cases hself : field.typeName = scope.model.name
      · simp [Member.ofField, entityUse, hself] at hs
      · exact .inr ⟨field, List.mem_filter.mpr ⟨hfield, hrelation⟩, hself, hs⟩
    · exact .inl ⟨field, hfield, hs⟩
  · rintro (⟨field, hfield, hs⟩ | ⟨field, hfield, _, hs⟩)
    · have hrelation : ¬field.isRelation = true := by
        intro hrelation
        have hcolumn := isColumn_of_mem_symbols hs
        rw [Field.isColumn_of_isRelation hrelation] at hcolumn
        cases hcolumn
      exact ⟨field, hfield, by rwa [entityMember, if_neg hrelation]⟩
    · obtain ⟨hfield, hrelation⟩ := List.mem_filter.mp hfield
      exact ⟨field, hfield, by rwa [entityMember, if_pos hrelation]⟩

theorem entitySymbols_relative {scope : ModelScope} (h : symbol ∈ scope.entitySymbols) :
    Imports.isRelative symbol.source = true := by
  obtain ⟨field, _, rfl⟩ := List.mem_map.mp h
  exact isRelative_importSpecifier _ _ _

theorem entitySymbols_injective {scope : ModelScope} {a b : Symbol}
    (ha : a ∈ scope.entitySymbols) (hb : b ∈ scope.entitySymbols) (heq : a.name = b.name) :
    a = b := by
  obtain ⟨field, _, rfl⟩ := List.mem_map.mp ha
  obtain ⟨other, _, rfl⟩ := List.mem_map.mp hb
  simp only [Options.entityClass_inj.mp heq]

/-- A relation to the model itself brings in no name that is not there already. -/
theorem mem_entityNames {name : String} :
    name ∈ (entitySymbols ⟨options, model⟩).map Symbol.name ++ [options.entityClass model.name] ↔
      name ∈ options.entityNames model := by
  rw [Options.entityNames, List.mem_append, List.mem_append, entitySymbols, List.map_map,
    List.mem_map, List.mem_map]
  constructor
  · rintro (⟨field, hfield, rfl⟩ | hname)
    · exact .inl ⟨field, (List.mem_filter.mp hfield).1, rfl⟩
    · exact .inr hname
  · rintro (⟨field, hfield, rfl⟩ | hname)
    · by_cases hself : field.typeName = model.name
      · exact .inr (by simp [hself])
      · exact .inl ⟨field, List.mem_filter.mpr ⟨hfield, by simpa using hself⟩, rfl⟩
    · exact .inr hname

theorem nodup_entityFile :
    (entityFile ⟨options, model⟩ base).topLevelNames.Nodup ↔ options.NamesApart model .entity := by
  have hclasses : (entityFile ⟨options, model⟩ base).classes.map Class.name
      = [options.entityClass model.name] := rfl
  have hdeclared : ∀ symbol ∈ entitySymbols ⟨options, model⟩,
      symbol.name ∉ [options.entityClass model.name] := by
    intro symbol hsymbol hmem
    obtain ⟨field, hfield, rfl⟩ := List.mem_map.mp hsymbol
    have hself := Options.entityClass_inj.mp (List.mem_singleton.mp hmem)
    simpa [hself] using (List.mem_filter.mp hfield).2
  rw [DtoFile.nodup_topLevelNames_iff rfl (fun _ => mem_entityFile_symbols)
      (fun _ => entitySymbols_relative) (fun _ ha _ hb => entitySymbols_injective ha hb),
    hclasses, and_iff_left ⟨hdeclared, List.nodup_singleton _⟩, columnSymbols_apart_iff]
  simp only [mem_entityNames, Options.NamesApart]

theorem nodup_fileOf (h : options.DefaultNames) (kind : FileKind) :
    (fileOf ⟨options, model⟩ base kind).topLevelNames.Nodup ↔ options.NamesApart model kind := by
  match kind with
  | .input .connect => exact nodup_connectFile h
  | .input .create => exact nodup_inputFile h (by decide) _ _
  | .input .update => exact nodup_inputFile h (by decide) _ _
  | .entity => exact nodup_entityFile

end ModelScope

namespace Schema

variable {options : Options} {schema : Schema} {files : List DtoFile}

/-- What a schema can be expected to keep apart itself: the fields of a model, and enumerations from
models and from the client's namespace. -/
structure NamesFieldsApart (schema : Schema) : Prop where
  fields : ∀ model ∈ schema.models, (model.fields.map Field.name).Nodup
  enums : ∀ model ∈ schema.models, ∀ field ∈ model.fields, field.isEnum = true →
    field.typeName ≠ "Prisma" ∧ ∀ other ∈ schema.models, field.typeName ≠ other.name

/-- The entity of a model finds the client's namespace under its name only. -/
def NamespaceFree (model : Model) : Prop :=
  UsesNamespace model.fields →
    model.name ≠ "Prisma" ∧ ∀ field ∈ model.relations, field.typeName ≠ "Prisma"

/-- Where enumerations are not named like models, only the namespace can collide in an entity. -/
theorem namesApart_entity_iff (h : options.DefaultNames) (haccepted : schema.Accepted)
    (hfields : schema.NamesFieldsApart) {model : Model} (hmodel : model ∈ schema.models) :
    options.NamesApart model .entity ↔ NamespaceFree model := by
  have hnames : ∀ name, name ∈ options.entityNames model ↔
      (∃ field ∈ model.relations, field.typeName = name) ∨ name = model.name := by
    intro name
    simp only [Options.entityNames, h.entityClass_eq, List.mem_append, List.mem_map,
      List.mem_singleton]
  have hmodels : ∀ name ∈ options.entityNames model, ∃ other ∈ schema.models, other.name = name := by
    intro name hname
    rcases (hnames name).mp hname with ⟨field, hfield, rfl⟩ | rfl
    · exact haccepted.relationsLead model hmodel field hfield
    · exact ⟨model, hmodel, rfl⟩
  have henums : ∀ name ∈ options.entityNames model, ¬SomeEnumNamed model.fields name := by
    rintro name hname ⟨field, hfield, henum, rfl⟩
    obtain ⟨other, hother, heq⟩ := hmodels _ hname
    exact (hfields.enums model hmodel field hfield henum).2 other hother heq.symm
  rw [Options.NamesApart, and_iff_right henums, hnames, NamespaceFree]
  refine imp_congr_right fun _ => ?_
  rw [not_or, and_comm]
  refine and_congr ⟨Ne.symm, Ne.symm⟩ ?_
  simp only [not_exists, not_and, ne_eq]

/-- With default class names, the names of each file differ exactly if every file of every model
keeps its own apart. In a schema that keeps fields, enumerations and models apart, entities can fail
to do so over the client's namespace only; input files can in all the ways there are. -/
theorem names_differ_iff (hdefault : options.DefaultNames)
    (hfiles : schema.dtoFiles options = .ok files) :
    ((∀ file ∈ files, file.topLevelNames.Nodup) ↔ ∀ model ∈ schema.models, ∀ kind,
      options.makes kind = true → options.NamesApart model kind) ∧
    (schema.NamesFieldsApart →
      ((∀ file ∈ files, file.topLevelNames.Nodup) ↔ ∀ model ∈ schema.models,
        (options.entitiesOnly = false → ∀ kind, options.NamesApart model (.input kind)) ∧
          NamespaceFree model)) := by
  obtain ⟨haccepted, rfl⟩ := dtoFiles_eq_ok.mp hfiles
  have hevery : (∀ file ∈ schema.models.flatMap fun model =>
        ModelScope.files ⟨options, model⟩ options.output, file.topLevelNames.Nodup) ↔
      ∀ model ∈ schema.models, ∀ kind, options.makes kind = true →
        options.NamesApart model kind := by
    constructor
    · intro h model hmodel kind hmakes
      exact (ModelScope.nodup_fileOf hdefault kind).mp
        (h _ (List.mem_flatMap.mpr ⟨model, hmodel, ModelScope.fileOf_mem_files hmakes⟩))
    · intro h file hfile
      obtain ⟨model, hmodel, hfile⟩ := List.mem_flatMap.mp hfile
      obtain ⟨kind, hmakes, rfl⟩ := ModelScope.mem_files_iff_fileOf.mp hfile
      exact (ModelScope.nodup_fileOf hdefault kind).mpr (h model hmodel kind hmakes)
  refine ⟨hevery, fun hfields => hevery.trans ?_⟩
  refine forall_congr' fun model => forall_congr' fun hmodel => ?_
  rw [← namesApart_entity_iff hdefault haccepted hfields hmodel]
  constructor
  · intro h
    exact ⟨fun hinputs kind => h (.input kind) (by simp [Options.makes, hinputs]),
      h .entity rfl⟩
  · rintro ⟨hinputs, hentity⟩ kind hmakes
    cases kind with
    | input kind => exact hinputs (by simpa [Options.makes] using hmakes) kind
    | entity => exact hentity

/-- What the options come to when nothing is said but the output directory. -/
def unsaid : Options where
  output := ⟨"out"⟩
  connectDtoPrefix := "Connect"
  createDtoPrefix := "Create"
  updateDtoPrefix := "Update"
  dtoSuffix := "Dto"
  entityPrefix := ""
  entitySuffix := ""
  fileNamingStyle := .camel
  prettierConfig := none
  exportRelationModifierClasses := true
  outputToNestJsResourceStructure := false
  entitiesOnly := false
  usePrettier := true
  reExport := false

/-- Users with an enumeration and a column of the client's namespace, and posts of theirs. -/
def journal : Schema :=
  let role : Field := { (default : Field) with
    name := "role", kind := .enumeration, typeName := "Role", isRequired := true }
  let settings : Field := { (default : Field) with
    name := "settings", kind := .scalar, typeName := "Json" }
  let posts : Field := { (default : Field) with
    name := "posts", kind := .relation, typeName := "Post", isList := true }
  let author : Field := { (default : Field) with
    name := "author", kind := .relation, typeName := "User", isRequired := true }
  ⟨[⟨"User", none, [role, settings, posts], none⟩, ⟨"Post", none, [author], none⟩], []⟩

theorem journal_names_differ : Options.normalize .empty .empty "out" = .ok unsaid ∧
    journal.NamesFieldsApart ∧ ∃ files, journal.dtoFiles unsaid = .ok files ∧
      ∀ file ∈ files, file.topLevelNames.Nodup := by
  have hdefault : unsaid.DefaultNames := by constructor <;> rfl
  have hfields : journal.NamesFieldsApart := by constructor <;> decide
  have hinputs : ∀ model ∈ journal.models, ∀ kind, unsaid.NamesApart model (.input kind) := by
    intro model hmodel kind
    simp only [journal, List.mem_cons, List.not_mem_nil, or_false] at hmodel
    rcases hmodel with rfl | rfl <;> cases kind <;>
      simp only [Options.NamesApart, SomeEnumNamed] <;> decide +kernel
  have hspace : ∀ model ∈ journal.models, NamespaceFree model := by
    have hnames : ∀ model ∈ journal.models, model.name ≠ "Prisma" ∧
        ∀ field ∈ model.relations, field.typeName ≠ "Prisma" := by decide
    exact fun model hmodel _ => hnames model hmodel
  refine ⟨by rfl, hfields, _, rfl, ?_⟩
  exact ((names_differ_iff hdefault (show journal.dtoFiles unsaid = _ from rfl)).2 hfields).mpr
    fun model hmodel => ⟨fun _ => hinputs model hmodel, hspace model hmodel⟩

/-- Two relations whose names differ in spelling only. -/
def twinRelations : Schema :=
  let relation (name : String) : Field := { (default : Field) with
    name, kind := .relation, typeName := "User" }
  ⟨[⟨"User", none, [], none⟩, ⟨"Post", none, [relation "author_id", relation "authorId"], none⟩], []⟩

/-- An enumeration that is named like the connect class of its model. -/
def enumLikeClass : Schema :=
  let state : Field := { (default : Field) with
    name := "state", kind := .enumeration, typeName := "ConnectUserDto", isUnique := true }
  ⟨[⟨"User", none, [state], none⟩], []⟩

/-- A model that is named like the client's namespace, and needs it. -/
def namespaceModel : Schema :=
  let data : Field := { (default : Field) with name := "data", kind := .scalar, typeName := "Json" }
  ⟨[⟨"Prisma", none, [data], none⟩], []⟩

/-- In each of the ways there are, names can meet in a schema that keeps apart what it can. -/
theorem names_meet : Options.normalize .empty .empty "out" = .ok unsaid ∧
    ∀ schema ∈ [twinRelations, enumLikeClass, namespaceModel], schema.NamesFieldsApart ∧
      ∃ files, schema.dtoFiles unsaid = .ok files ∧ ¬∀ file ∈ files, file.topLevelNames.Nodup := by
  refine ⟨by rfl, fun schema hschema => ?_⟩
  simp only [List.mem_cons, List.not_mem_nil, or_false] at hschema
  rcases hschema with rfl | rfl | rfl
  · exact ⟨by constructor <;> decide, _, rfl, by decide +kernel⟩
  · exact ⟨by constructor <;> decide, _, rfl, by decide +kernel⟩
  · exact ⟨by constructor <;> decide, _, rfl, by decide +kernel⟩

end Schema

end DtoGen

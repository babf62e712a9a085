import DtoGen.Proofs.ImportCollection

namespace DtoGen

/-- The types that need no import. -/
def builtinTypes : List String :=
  ["string", "boolean", "number", "bigint", "Date", "Buffer", "unknown"]

/-- The namespace that the types of JSON and decimal columns live in. -/
def prismaNamespace : Symbol :=
  ⟨prismaClient, "Prisma"⟩

namespace Symbol

/-- A type is the symbol or a list of it. For the namespace, it is a member, or a list of it. -/
def OccursIn (symbol : Symbol) (type : String) : Prop :=
  ∃ isList, type = TypeUse.listOf symbol.name isList ∨
    symbol = prismaNamespace ∧ ∃ member, type = TypeUse.listOf ("Prisma." ++ member) isList

end Symbol

namespace DtoFile

def ImportsSymbol (file : DtoFile) (symbol : Symbol) : Prop :=
  ∃ i ∈ file.imports, i.source = symbol.source ∧ symbol.name ∈ i.names

def Declares (file : DtoFile) (name : String) : Prop :=
  ∃ c ∈ file.classes, c.name = name

/-- A type that stands without an import. -/
def KnowsType (file : DtoFile) (type : String) : Prop :=
  ∃ base isList, type = TypeUse.listOf base isList ∧ (base ∈ builtinTypes ∨ file.Declares base)

/-- No type is left without a declaration, and no import without a use. -/
structure Closed (file : DtoFile) : Prop where
  known : ∀ c ∈ file.classes, ∀ p ∈ c.properties,
    file.KnowsType p.type ∨ ∃ symbol, file.ImportsSymbol symbol ∧ symbol.OccursIn p.type
  used : ∀ symbol, file.ImportsSymbol symbol →
    ∃ c ∈ file.classes, ∃ p ∈ c.properties, symbol.OccursIn p.type

/-- The imports are those of the members, so that both directions can be read off the members. -/
theorem closed_of_members {file : DtoFile} {members : List Member}
    (himports : file.imports = ModelScope.importsOf members)
    (known : ∀ c ∈ file.classes, ∀ p ∈ c.properties, file.KnowsType p.type ∨
      ∃ member ∈ members, ∃ symbol ∈ member.symbols, symbol.OccursIn p.type)
    (used : ∀ member ∈ members, ∀ symbol ∈ member.symbols,
      ∃ c ∈ file.classes, ∃ p ∈ c.properties, symbol.OccursIn p.type) :
    file.Closed := by
  have hiff : ∀ symbol : Symbol, file.ImportsSymbol symbol ↔
      ∃ member ∈ members, symbol ∈ member.symbols := by
    intro symbol
    rw [ImportsSymbol, himports]
    exact ModelScope.imported_iff
  refine ⟨fun c hc p hp => ?_, fun symbol himported => ?_⟩
  · rcases known c hc p hp with h | ⟨member, hm, symbol, hs, hoccurs⟩
    · exact .inl h
    · exact .inr ⟨symbol, (hiff symbol).mpr ⟨member, hm, hs⟩, hoccurs⟩
  · obtain ⟨member, hm, hs⟩ := (hiff symbol).mp himported
    exact used member hm symbol hs

end DtoFile

namespace ScalarType

theorem typeText_cases (scalar : ScalarType) :
    scalar.typeText ∈ builtinTypes ∧ scalar.inNamespace = false ∨
      (∃ member, scalar.typeText = "Prisma." ++ member) ∧ scalar.inNamespace = true := by
  cases scalar with
  | json => exact .inr ⟨⟨"JsonValue", by decide⟩, rfl⟩
  | decimal => exact .inr ⟨⟨"Decimal", by decide⟩, rfl⟩
  | _ => exact .inl ⟨by decide, rfl⟩

end ScalarType

namespace TypeUse

/-- A type either needs no symbol, or is made of the one symbol that it needs. -/
def Accounted (use : TypeUse) : Prop :=
  (∃ base ∈ builtinTypes, ∃ isList, use.text = listOf base isList) ∧ use.symbols = [] ∨
    ∃ symbol : Symbol, symbol.OccursIn use.text ∧ use.symbols = [symbol]

theorem accounted_ofColumn (field : Field) : (ofColumn field).Accounted := by
  unfold ofColumn
  split
  · exact .inr ⟨⟨prismaClient, field.typeName⟩, ⟨field.isList, .inl rfl⟩, rfl⟩
  split
  · rename_i scalar _
    rcases scalar.typeText_cases with ⟨hbuiltin, hplain⟩ | ⟨⟨member, htext⟩, hspace⟩
    · exact .inl ⟨⟨scalar.typeText, hbuiltin, field.isList, rfl⟩, by simp [hplain]⟩
    · refine .inr ⟨prismaNamespace, ⟨field.isList, .inr ⟨rfl, member, ?_⟩⟩, ?_⟩
      · rw [htext]
      · simp only [hspace, if_true, prismaNamespace]
  · exact .inl ⟨⟨"unknown", by decide, field.isList, rfl⟩, rfl⟩

theorem Accounted.known {use : TypeUse} (h : use.Accounted) (file : DtoFile) :
    file.KnowsType use.text ∨ ∃ symbol ∈ use.symbols, symbol.OccursIn use.text := by
  rcases h with ⟨⟨base, hbase, isList, htext⟩, _⟩ | ⟨symbol, hoccurs, hsymbols⟩
  · exact .inl ⟨base, isList, htext, .inl hbase⟩
  · exact .inr ⟨symbol, by simp [hsymbols], hoccurs⟩

theorem Accounted.occurs {use : TypeUse} (h : use.Accounted) {symbol : Symbol}
    (hs : symbol ∈ use.symbols) : symbol.OccursIn use.text := by
  rcases h with ⟨_, hnone⟩ | ⟨other, hoccurs, hone⟩
  · rw [hnone] at hs
    cases hs
  · rw [hone, List.mem_singleton] at hs
    exact hs ▸ hoccurs

end TypeUse

namespace ModelScope

theorem mem_mainClass {p : Property} {name : String} {documentation : Option String}
    {members : List Member} :
    p ∈ (mainClass name documentation members).properties ↔
      ∃ member ∈ members, member.property = p :=
  List.mem_map

theorem connectFile_closed (scope : ModelScope) (base : Path) :
    (scope.connectFile base).Closed := by
  refine DtoFile.closed_of_members rfl (fun c hc p hp => ?_) (fun member hm symbol hs => ?_)
  · obtain rfl := List.mem_singleton.mp hc
    obtain ⟨member, hm, rfl⟩ := mem_mainClass.mp hp
    have hmember := hm
    obtain ⟨field, _, rfl⟩ := List.mem_map.mp hm
    rcases (TypeUse.accounted_ofColumn field).known (scope.connectFile base) with h | h
    · exact .inl h
    · exact .inr ⟨connectMember field, hmember, h⟩
  · have hmember := hm
    obtain ⟨field, _, rfl⟩ := List.mem_map.mp hm
    exact ⟨_, List.mem_singleton_self _, _, mem_mainClass.mpr ⟨_, hmember, rfl⟩,
      (TypeUse.accounted_ofColumn field).occurs hs⟩

/-- The property of a relation is typed with the helper class, and the helper class with the symbol
that the relation needs. -/
theorem inputFile_closed (scope : ModelScope) (base : Path) (kind : DtoKind)
    (isOptionalColumn isOptionalRelation : Field → Bool) :
    (scope.inputFile base kind isOptionalColumn isOptionalRelation).Closed := by
  refine DtoFile.closed_of_members rfl (fun c hc p hp => ?_) (fun member hm symbol hs => ?_)
  · rcases List.mem_append.mp hc with hc | hc
    · obtain ⟨input, hinput, rfl⟩ := List.mem_map.mp hc
      have hmember := List.mem_map_of_mem (f := RelationInput.member) hinput
      obtain ⟨field, _, rfl⟩ := List.mem_map.mp hinput
      obtain rfl := List.mem_singleton.mp hp
      exact .inr ⟨_, List.mem_append_right _ hmember, scope.connectSymbol field.typeName,
        List.mem_singleton_self _, field.isList, .inl rfl⟩
    · obtain rfl := List.mem_singleton.mp hc
      obtain ⟨member, hm, rfl⟩ := mem_mainClass.mp hp
      rcases List.mem_append.mp hm with hcolumn | hrelation
      · obtain ⟨field, _, rfl⟩ := List.mem_map.mp hcolumn
        rcases (TypeUse.accounted_ofColumn field).known
            (scope.inputFile base kind isOptionalColumn isOptionalRelation) with h | h
        · exact .inl h
        · exact .inr ⟨_, hm, h⟩
      · obtain ⟨input, hinput, rfl⟩ := List.mem_map.mp hrelation
        have hhelper := List.mem_map_of_mem (f := RelationInput.helper) hinput
        obtain ⟨field, _, rfl⟩ := List.mem_map.mp hinput
        exact .inl ⟨relationInputClass kind scope.model.name field.name, false, rfl,
          .inr ⟨_, List.mem_append_left _ hhelper, rfl⟩⟩
  · rcases List.mem_append.mp hm with hcolumn | hrelation
    · obtain ⟨field, _, rfl⟩ := List.mem_map.mp hcolumn
      exact ⟨_, List.mem_append_right _ (List.mem_singleton_self _), _,
        mem_mainClass.mpr ⟨_, hm, rfl⟩, (TypeUse.accounted_ofColumn field).occurs hs⟩
    · obtain ⟨input, hinput, rfl⟩ := List.mem_map.mp hrelation
      have hhelper := List.mem_map_of_mem (f := RelationInput.helper) hinput
      obtain ⟨field, _, rfl⟩ := List.mem_map.mp hinput
      obtain rfl := List.mem_singleton.mp hs
      exact ⟨_, List.mem_append_left _ hhelper, _, List.mem_singleton_self _, field.isList,
        .inl rfl⟩

theorem entityMember_cases (scope : ModelScope) (field : Field) :
    (scope.entityMember field).property.type
        = TypeUse.listOf (scope.options.entityClass scope.model.name) field.isList ∧
      (scope.entityMember field).symbols = [] ∨
    ∃ use : TypeUse, use.Accounted ∧ (scope.entityMember field).property.type = use.text ∧
      (scope.entityMember field).symbols = use.symbols := by
  unfold entityMember
  split
  · by_cases hself : field.typeName = scope.model.name
    · exact .inl (by simp [Member.ofField, entityUse, hself])
    · refine .inr ⟨scope.entityUse field.typeName field.isList, .inr ⟨_, ⟨field.isList, .inl ?_⟩,
        by simp only [entityUse, if_neg hself]; rfl⟩, rfl, rfl⟩
      rfl
  · exact .inr ⟨_, TypeUse.accounted_ofColumn field, rfl, rfl⟩

/-- A relation to the model itself is typed with the class that the file declares. -/
theorem entityFile_closed (scope : ModelScope) (base : Path) : (scope.entityFile base).Closed := by
  refine DtoFile.closed_of_members rfl (fun c hc p hp => ?_) (fun member hm symbol hs => ?_)
  · obtain rfl := List.mem_singleton.mp hc
    obtain ⟨member, hm, rfl⟩ := mem_mainClass.mp hp
    have hmember := hm
    obtain ⟨field, _, rfl⟩ := List.mem_map.mp hm
    rcases scope.entityMember_cases field with ⟨htype, _⟩ | ⟨use, huse, htype, hsymbols⟩
    · exact .inl ⟨scope.options.entityClass scope.model.name, field.isList, htype,
        .inr ⟨_, List.mem_singleton_self _, rfl⟩⟩
    · rw [htype]
      rcases huse.known (scope.entityFile base) with h | h
      · exact .inl h
      · exact .inr ⟨_, hmember, hsymbols ▸ h⟩
  · have hmember := hm
    obtain ⟨field, _, rfl⟩ := List.mem_map.mp hm
    refine ⟨_, List.mem_singleton_self _, _, mem_mainClass.mpr ⟨_, hmember, rfl⟩, ?_⟩
    rcases scope.entityMember_cases field with ⟨_, hnone⟩ | ⟨use, huse, htype, hsymbols⟩
    · rw [hnone] at hs
      cases hs
    · rw [htype]
      exact huse.occurs (hsymbols ▸ hs)

/-- Every file of every model is closed, whatever the options. -/
theorem files_closed (scope : ModelScope) (base : Path) :
    (∀ kind, (scope.dtoFile base kind).Closed) ∧ (scope.entityFile base).Closed := by
  refine ⟨fun kind => ?_, scope.entityFile_closed base⟩
  cases kind with
  | connect => exact scope.connectFile_closed base
  | create => exact scope.inputFile_closed base .create _ _
  | update => exact scope.inputFile_closed base .update _ _

end ModelScope

end DtoGen

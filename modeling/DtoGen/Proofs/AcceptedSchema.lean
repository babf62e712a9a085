import DtoGen.Synthesizer

namespace DtoGen

namespace Schema

theorem firstRepeated?_eq_none {seen names : List String} :
    firstRepeated? seen names = none ↔ names.Nodup ∧ ∀ name ∈ names, name ∉ seen := by
  induction names generalizing seen with
  | nil => simp [firstRepeated?]
  | cons name names ih =>
    unfold firstRepeated?
    split
    · rename_i hseen
      have hmem : name ∈ seen := by simpa using hseen
      simp [hmem]
    · rename_i hseen
      have hfresh : name ∉ seen := by simpa using hseen
      rw [ih, List.nodup_cons]
      constructor
      · rintro ⟨hnodup, hapart⟩
        refine ⟨⟨fun hmem => ?_, hnodup⟩, fun other hother => ?_⟩
        · exact hapart name hmem List.mem_cons_self
        · rcases List.mem_cons.mp hother with rfl | hother
          · exact hfresh
          · exact fun hmem => hapart other hother (List.mem_cons_of_mem _ hmem)
      · rintro ⟨⟨hname, hnodup⟩, hapart⟩
        refine ⟨hnodup, fun other hother hmem => ?_⟩
        rcases List.mem_cons.mp hmem with rfl | hmem
        · exact hname hother
        · exact hapart other (List.mem_cons_of_mem _ hother) hmem

/-- A schema that no fault was found in. -/
structure Accepted (schema : Schema) : Prop where
  namesDiffer : (schema.models.map Model.name).Nodup
  relationsLead : ∀ model ∈ schema.models, ∀ field ∈ model.relations,
    ∃ target ∈ schema.models, target.name = field.typeName

theorem danglingRelation?_eq_none {schema : Schema} {model : Model} :
    schema.danglingRelation? model = none ↔
      ∀ field ∈ model.relations, ∃ target ∈ schema.models, target.name = field.typeName := by
  simp only [danglingRelation?, Option.map_eq_none_iff, List.find?_eq_none, model?,
    Option.isNone_iff_eq_none, beq_iff_eq, Classical.not_forall, Classical.not_not, exists_prop]

theorem fault?_eq_none {schema : Schema} : schema.fault? = none ↔ schema.Accepted := by
  unfold fault?
  split
  · rename_i name hname
    constructor
    · intro h
      cases h
    · intro h
      have hnone : firstRepeated? [] (schema.models.map Model.name) = none :=
        firstRepeated?_eq_none.mpr ⟨h.namesDiffer, by simp⟩
      rw [hname] at hnone
      cases hnone
  · rename_i hnone
    have hnodup := (firstRepeated?_eq_none.mp hnone).1
    rw [List.findSome?_eq_none_iff]
    constructor
    · exact fun h => ⟨hnodup, fun model hm => danglingRelation?_eq_none.mp (h model hm)⟩
    · exact fun h model hm => danglingRelation?_eq_none.mpr (h.relationsLead model hm)

/-- Files are made exactly from the schemas that are accepted. -/
theorem dtoFiles_eq_ok {options : Options} {schema : Schema} {files : List DtoFile} :
    schema.dtoFiles options = .ok files ↔ schema.Accepted ∧
      files = schema.models.flatMap fun model =>
        ModelScope.files ⟨options, model⟩ options.output := by
  unfold dtoFiles
  split
  · rename_i fault hfault
    constructor
    · intro h
      cases h
    · intro h
      rw [fault?_eq_none.mpr h.1] at hfault
      cases hfault
  · rename_i hnone
    constructor
    · intro h
      exact ⟨fault?_eq_none.mp hnone, (Except.ok.inj h).symm⟩
    · rintro ⟨_, rfl⟩
      rfl

end Schema

namespace ModelScope

/-- Input files are left out when only entities are asked for. -/
theorem mem_files {scope : ModelScope} {base : Path} {file : DtoFile} :
    file ∈ scope.files base ↔
      (scope.options.entitiesOnly = false ∧ ∃ kind, file = scope.dtoFile base kind) ∨
        file = scope.entityFile base := by
  have hall : ∀ kind, kind ∈ DtoKind.all := by intro kind; cases kind <;> decide
  unfold files
  split
  · rename_i honly
    simp [honly]
  · rename_i honly
    simp [honly, hall, eq_comm]

end ModelScope

namespace Schema

/-- The first model that is named like an earlier one. -/
def FirstRepeated (schema : Schema) (model : Model) : Prop :=
  ∃ before after, schema.models = before ++ model :: after ∧
    (before.map Model.name).Nodup ∧ model.name ∈ before.map Model.name

/-- The field is a relation that leads to no model. -/
def Dangles (schema : Schema) (field : Field) : Prop :=
  field.isRelation = true ∧ ∀ target ∈ schema.models, target.name ≠ field.typeName

/-- The first relation that leads to no model, model by model and field by field. -/
def FirstDangling (schema : Schema) (model : Model) (field : Field) : Prop :=
  ∃ before after front rest, schema.models = before ++ model :: after ∧
    model.fields = front ++ field :: rest ∧ schema.Dangles field ∧
    (∀ other ∈ front, ¬ schema.Dangles other) ∧
    ∀ earlier ∈ before, ∀ other ∈ earlier.fields, ¬ schema.Dangles other

theorem firstRepeated?_eq_some {seen names : List String} {name : String}
    (h : firstRepeated? seen names = some name) :
    ∃ front rest, names = front ++ name :: rest ∧ front.Nodup ∧ (∀ s ∈ front, s ∉ seen) ∧
      (name ∈ front ∨ name ∈ seen) := by
  induction names generalizing seen with
  | nil => cases h
  | cons first names ih =>
    unfold firstRepeated? at h
    split at h
    · rename_i hseen
      obtain rfl := Option.some.inj h
      exact ⟨[], names, rfl, List.nodup_nil, by simp, .inr (by simpa using hseen)⟩
    · rename_i hseen
      have hfresh : first ∉ seen := by simpa using hseen
      obtain ⟨front, rest, rfl, hnodup, hapart, hagain⟩ := ih h
      have hfirst : first ∉ front := fun hmem => hapart first hmem List.mem_cons_self
      refine ⟨first :: front, rest, rfl, List.nodup_cons.mpr ⟨hfirst, hnodup⟩, ?_, ?_⟩
      · intro s hs
        rcases List.mem_cons.mp hs with rfl | hs
        · exact hfresh
        · exact fun hmem => hapart s hs (List.mem_cons_of_mem _ hmem)
      · rcases hagain with hmem | hmem
        · exact .inl (List.mem_cons_of_mem _ hmem)
        · rcases List.mem_cons.mp hmem with rfl | hmem
          · exact .inl List.mem_cons_self
          · exact .inr hmem

theorem firstRepeated_of_eq_some {schema : Schema} {name : String}
    (h : firstRepeated? [] (schema.models.map Model.name) = some name) :
    ∃ model, schema.FirstRepeated model ∧ model.name = name := by
  obtain ⟨front, rest, hnames, hnodup, _, hagain⟩ := firstRepeated?_eq_some h
  obtain ⟨before, others, hmodels, rfl, hothers⟩ := List.map_eq_append_iff.mp hnames
  obtain ⟨model, after, rfl, rfl, _⟩ := List.map_eq_cons_iff.mp hothers
  have hmem : model.name ∈ before.map Model.name := hagain.resolve_right List.not_mem_nil
  exact ⟨model, ⟨before, after, hmodels, hnodup, hmem⟩, rfl⟩

theorem isNone_model?_iff {schema : Schema} {name : String} :
    (schema.model? name).isNone = true ↔ ∀ target ∈ schema.models, target.name ≠ name := by
  simp only [model?, Option.isNone_iff_eq_none, List.find?_eq_none, beq_iff_eq, ne_eq]

theorem dangles_iff {schema : Schema} {field : Field} : schema.Dangles field ↔
    field.isRelation = true ∧ (schema.model? field.typeName).isNone = true := by
  rw [isNone_model?_iff, Dangles]

theorem not_dangles_of_none {schema : Schema} {model : Model}
    (h : schema.danglingRelation? model = none) : ∀ field ∈ model.fields, ¬ schema.Dangles field := by
  rintro field hfield ⟨hrelation, hnone⟩
  obtain ⟨target, htarget, htype⟩ := danglingRelation?_eq_none.mp h field
    (List.mem_filter.mpr ⟨hfield, hrelation⟩)
  exact hnone target htarget htype

/-- The fault of a model is its first relation that leads to no model. -/
theorem danglingRelation?_eq_some {schema : Schema} {model : Model} {fault : SchemaFault}
    (h : schema.danglingRelation? model = some fault) :
    ∃ field front rest, fault = .unknownModel model.name field.name field.typeName ∧
      model.fields = front ++ field :: rest ∧ schema.Dangles field ∧
      ∀ other ∈ front, ¬ schema.Dangles other := by
  unfold danglingRelation? Model.relations at h
  rw [List.find?_filter] at h
  obtain ⟨field, hfind, rfl⟩ := Option.map_eq_some_iff.mp h
  obtain ⟨hdangles, front, rest, hfields, hfront⟩ := List.find?_eq_some_iff_append.mp hfind
  refine ⟨field, front, rest, rfl, hfields, dangles_iff.mpr (of_decide_eq_true hdangles), ?_⟩
  intro other hother hdangling
  have hsound := (Bool.not_eq_true' _).mp (hfront other hother)
  exact of_decide_eq_false hsound (dangles_iff.mp hdangling)

theorem firstDangling_of_findSome {schema : Schema} {fault : SchemaFault}
    (h : schema.models.findSome? schema.danglingRelation? = some fault) :
    ∃ model field, schema.FirstDangling model field ∧
      fault = .unknownModel model.name field.name field.typeName := by
  obtain ⟨before, model, after, hmodels, hmodel, hbefore⟩ := List.findSome?_eq_some_iff.mp h
  obtain ⟨field, front, rest, hfault, hfields, hdangles, hfront⟩ :=
    danglingRelation?_eq_some hmodel
  exact ⟨model, field, ⟨before, after, front, rest, hmodels, hfields, hdangles, hfront,
    fun earlier hearlier => not_dangles_of_none (hbefore earlier hearlier)⟩, hfault⟩

/-- Repeated names come before relations that dangle. -/
theorem fault?_cases (schema : Schema) :
    (schema.fault? = none ∧ schema.Accepted) ∨
    (∃ model, schema.fault? = some (.repeatedModel model.name) ∧ schema.FirstRepeated model) ∨
    ((schema.models.map Model.name).Nodup ∧ ∃ model field,
      schema.fault? = some (.unknownModel model.name field.name field.typeName) ∧
        schema.FirstDangling model field) := by
  cases hfault : schema.fault? with
  | none => exact .inl ⟨rfl, fault?_eq_none.mp hfault⟩
  | some fault =>
    refine .inr ?_
    unfold fault? at hfault
    split at hfault
    · rename_i name hname
      obtain rfl := Option.some.inj hfault
      obtain ⟨model, hmodel, rfl⟩ := firstRepeated_of_eq_some hname
      exact .inl ⟨model, rfl, hmodel⟩
    · rename_i hnone
      obtain ⟨model, field, hfirst, rfl⟩ := firstDangling_of_findSome hfault
      exact .inr ⟨(firstRepeated?_eq_none.mp hnone).1, model, field, rfl, hfirst⟩

theorem not_nodup_of_firstRepeated {schema : Schema} {model : Model}
    (h : schema.FirstRepeated model) : ¬ (schema.models.map Model.name).Nodup := by
  obtain ⟨before, after, hmodels, _, hmem⟩ := h
  rw [hmodels, List.map_append, List.map_cons, List.nodup_append]
  intro hnodup
  exact hnodup.2.2 model.name hmem model.name List.mem_cons_self rfl

end Schema

namespace ModelScope

/-- The files of one model in their order. -/
def specs (scope : ModelScope) (base : Path) : List FileSpec :=
  if scope.options.entitiesOnly then [(scope.entityFile base).spec]
  else [(scope.connectFile base).spec, (scope.createFile base).spec, (scope.updateFile base).spec,
    (scope.entityFile base).spec]

theorem map_spec_files (scope : ModelScope) (base : Path) :
    (scope.files base).map DtoFile.spec = scope.specs base := by
  unfold files specs
  split <;> rfl

theorem length_specs (scope : ModelScope) (base : Path) :
    (scope.specs base).length = if scope.options.entitiesOnly then 1 else 4 := by
  unfold specs
  split <;> rfl

end ModelScope

/-- What there is to answer when files of a schema are asked for. -/
structure Schema.Answered (schema : Schema) (options : Options)
    (answer : Except String (List FileSpec)) : Prop where
  succeeds_iff : (∃ files, answer = .ok files) ↔
    (schema.models.map Model.name).Nodup ∧ ∀ model ∈ schema.models, ∀ field ∈ model.fields,
      field.isRelation = true → ∃ target ∈ schema.models, target.name = field.typeName
  files : ∀ files, answer = .ok files →
    files = (schema.models.flatMap fun model =>
      ModelScope.specs ⟨options, model⟩ options.output) ∧
    files.length = (if options.entitiesOnly then 1 else 4) * schema.models.length
  repeated : ¬ (schema.models.map Model.name).Nodup → ∃ model, schema.FirstRepeated model ∧
    answer = .error ("model '" ++ model.name ++ "' is defined more than once")
  dangling : (schema.models.map Model.name).Nodup → ∀ message, answer = .error message →
    ∃ model field, schema.FirstDangling model field ∧
      message = "field '" ++ model.name ++ "." ++ field.name ++ "' references unknown model '"
        ++ field.typeName ++ "'"

namespace Schema

variable {schema : Schema} {options : Options}

theorem specs_of_files (options : Options) (schema : Schema) :
    (schema.models.flatMap fun model => ModelScope.files ⟨options, model⟩ options.output).map
        DtoFile.spec
      = schema.models.flatMap fun model => ModelScope.specs ⟨options, model⟩ options.output := by
  rw [List.map_flatMap]
  simp only [ModelScope.map_spec_files]

theorem length_allSpecs (options : Options) (schema : Schema) :
    (schema.models.flatMap fun model => ModelScope.specs ⟨options, model⟩ options.output).length
      = (if options.entitiesOnly then 1 else 4) * schema.models.length := by
  have hlength : ∀ model, (ModelScope.specs ⟨options, model⟩ options.output).length
      = if options.entitiesOnly then 1 else 4 := fun model => ModelScope.length_specs _ _
  rw [List.length_flatMap]
  simp only [hlength, List.map_const', List.sum_replicate_nat]
  exact Nat.mul_comm _ _

theorem answered_of_accepted (h : schema.Accepted) :
    schema.Answered options (.ok (schema.models.flatMap fun model =>
      ModelScope.specs ⟨options, model⟩ options.output)) where
  succeeds_iff := by
    refine ⟨fun _ => ⟨h.namesDiffer, ?_⟩, fun _ => ⟨_, rfl⟩⟩
    intro model hmodel field hfield hrelation
    exact h.relationsLead model hmodel field (List.mem_filter.mpr ⟨hfield, hrelation⟩)
  files files hfiles := by
    obtain rfl := Except.ok.inj hfiles
    exact ⟨rfl, length_allSpecs options schema⟩
  repeated hrepeats := absurd h.namesDiffer hrepeats
  dangling _ message hmessage := by cases hmessage

theorem answered_of_repeated {model : Model} (h : schema.FirstRepeated model) :
    schema.Answered options (.error (SchemaFault.message (.repeatedModel model.name))) where
  succeeds_iff := by
    constructor
    · rintro ⟨files, hfiles⟩
      cases hfiles
    · rintro ⟨hnodup, _⟩
      exact absurd hnodup (not_nodup_of_firstRepeated h)
  files files hfiles := by cases hfiles
  repeated _ := ⟨model, h, rfl⟩
  dangling hnodup := absurd hnodup (not_nodup_of_firstRepeated h)

theorem answered_of_dangling {model : Model} {field : Field}
    (hnodup : (schema.models.map Model.name).Nodup) (h : schema.FirstDangling model field) :
    schema.Answered options
      (.error (SchemaFault.message (.unknownModel model.name field.name field.typeName))) where
  succeeds_iff := by
    constructor
    · rintro ⟨files, hfiles⟩
      cases hfiles
    · rintro ⟨_, hleads⟩
      obtain ⟨before, after, front, rest, hmodels, hfields, ⟨hrelation, hnone⟩, _⟩ := h
      have hmodel : model ∈ schema.models := by rw [hmodels]; simp
      have hfield : field ∈ model.fields := by rw [hfields]; simp
      obtain ⟨target, htarget, htype⟩ := hleads model hmodel field hfield hrelation
      exact absurd htype (hnone target htarget)
  files files hfiles := by cases hfiles
  repeated hrepeats := absurd hnodup hrepeats
  dangling _ message hmessage := ⟨model, field, h, (Except.error.inj hmessage).symm⟩

end Schema

namespace Synthesizer

/-- A schema is refused exactly if it has a fault, and then for the first one. -/
theorem dto_answers {m : Type → Type} [Monad m] (options : Options) (schema : Schema) :
    ∃ answer, (dto (m := m)).synthesize options schema = pure answer ∧
      schema.Answered options answer := by
  refine ⟨_, rfl, ?_⟩
  unfold Schema.dtoFiles
  rcases schema.fault?_cases with ⟨hnone, haccepted⟩ | ⟨model, hfault, hfirst⟩ |
    ⟨hnodup, model, field, hfault, hfirst⟩
  · rw [hnone]
    dsimp only
    rw [Schema.specs_of_files]
    exact Schema.answered_of_accepted haccepted
  · rw [hfault]
    exact Schema.answered_of_repeated hfirst
  · rw [hfault]
    exact Schema.answered_of_dangling hnodup hfirst

end Synthesizer

end DtoGen

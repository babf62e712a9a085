import DtoGen.Proofs.AcceptedSchema
import DtoGen.Proofs.Placement

namespace DtoGen

namespace NamingStyle

open Words

/-- A text behind a word of its own is spelled as that word and the rest. -/
theorem spell_behind (style : NamingStyle) {word : List Char} (hword : split word = [word])
    (cs : List Char) :
    style.spell (word ++ ' ' :: cs) = style.opening word ++ style.remainder (split cs) :=
  spell_of_split (by rw [split_append (by decide) (by decide), hword, List.singleton_append])

/-- Two texts behind one word have words or have none, when they are spelled alike. -/
theorem spell_behind_cancel {style : NamingStyle} {word : List Char} (hword : split word = [word])
    {a b : List Char} (h : style.spell (word ++ ' ' :: a) = style.spell (word ++ ' ' :: b)) :
    style.spell a = [] ↔ style.spell b = [] := by
  rw [spell_behind style hword, spell_behind style hword] at h
  have hrest := List.append_cancel_left h
  have hempty : ∀ cs, style.remainder (split cs) = [] ↔ split cs = [] :=
    fun cs => remainder_eq_nil fun _ hw => ne_nil_of_mem_split hw
  rw [spell_eq_nil, spell_eq_nil, ← hempty, hrest, hempty]

end NamingStyle

namespace DtoKind

theorem split_verb (kind : DtoKind) : Words.split kind.verb.toList = [kind.verb.toList] := by
  cases kind <;> decide

/-- In every style, two letters tell the verbs apart. -/
theorem opening_injective {style : NamingStyle} {kind other : DtoKind}
    (h : (style.opening kind.verb.toList).take 2 = (style.opening other.verb.toList).take 2) :
    kind = other := by
  cases style <;> cases kind <;> cases other <;> first | rfl | exact absurd h (by decide)

theorem two_le_opening (style : NamingStyle) (kind : DtoKind) :
    2 ≤ (style.opening kind.verb.toList).length := by
  cases style <;> cases kind <;> decide

/-- A spelled verb can start a component. -/
theorem opening_plain (style : NamingStyle) (kind : DtoKind) :
    '/' ∉ style.opening kind.verb.toList ∧ '.' ∉ style.opening kind.verb.toList ∧
      style.opening kind.verb.toList ≠ [] := by
  cases style <;> cases kind <;> decide

end DtoKind

namespace Options

variable {options : Options} {model other : String}

theorem toList_dtoModule (options : Options) (kind : DtoKind) (model : String) :
    (options.dtoModule kind model).toList
      = options.fileNamingStyle.spell (kind.verb.toList ++ ' ' :: model.toList)
        ++ ".dto".toList := by
  rw [dtoModule, String.toList_append, NamingStyle.toList_apply, String.toList_append,
    String.toList_append, List.append_assoc]
  rfl

/-- The file name of an input file starts with the verb of its kind. -/
theorem dtoModule_start (options : Options) (kind : DtoKind) (model : String) :
    ∃ behind, (options.dtoModule kind model ++ "." ++ DtoFile.extension).toList
      = options.fileNamingStyle.opening kind.verb.toList ++ behind := by
  rw [String.append_assoc, String.toList_append, toList_dtoModule,
    NamingStyle.spell_behind _ kind.split_verb, List.append_assoc, List.append_assoc]
  exact ⟨_, rfl⟩

theorem dtoModule_first (options : Options) (kind : DtoKind) (model : String) :
    Path.lead (options.dtoModule kind model ++ "." ++ DtoFile.extension).toList = [] ∧
      ∃ behind, (⟨options.dtoModule kind model ++ "." ++ DtoFile.extension⟩ : Path).components.head?
        = some (.name (String.ofList
          (options.fileNamingStyle.opening kind.verb.toList ++ behind))) := by
  obtain ⟨_, htext⟩ := dtoModule_start options kind model
  obtain ⟨hslash, hdot, hne⟩ := DtoKind.opening_plain options.fileNamingStyle kind
  exact Path.first_component htext hslash hdot hne

/-- In one directory, no name turns a file of one kind into a file of another. -/
theorem kind_of_components (directory : Path) {kind kind' : DtoKind}
    (h : (directory / ⟨options.dtoModule kind model ++ "." ++ DtoFile.extension⟩).components
      = (directory / ⟨options.dtoModule kind' other ++ "." ++ DtoFile.extension⟩).components) :
    kind = kind' := by
  obtain ⟨hlead, behind, hfirst⟩ := dtoModule_first options kind model
  obtain ⟨hlead', behind', hfirst'⟩ := dtoModule_first options kind' other
  rw [Path.components_join_names _ hlead, Path.components_join_names _ hlead'] at h
  rw [List.append_cancel_left h, hfirst'] at hfirst
  have hspelled := String.ofList_injective (Component.name.inj (Option.some.inj hfirst))
  have hverbs := congrArg (List.take 2) hspelled.symm
  rw [List.take_append_of_le_length (DtoKind.two_le_opening _ kind),
    List.take_append_of_le_length (DtoKind.two_le_opening _ kind')] at hverbs
  exact DtoKind.opening_injective hverbs

theorem kind_of_dtoModule {kind kind' : DtoKind}
    (h : options.dtoModule kind model = options.dtoModule kind' other) : kind = kind' := by
  have hplace : (⟨""⟩ / ⟨options.dtoModule kind model ++ "." ++ DtoFile.extension⟩ : Path)
      = ⟨""⟩ / ⟨options.dtoModule kind' other ++ "." ++ DtoFile.extension⟩ := by rw [h]
  exact kind_of_components ⟨""⟩ (congrArg Path.components hplace)

theorem wordless_of_dtoModule {kind : DtoKind}
    (h : options.dtoModule kind model = options.dtoModule kind other) :
    options.modelDirectory model = "" ↔ options.modelDirectory other = "" := by
  have hempty : ∀ m, options.modelDirectory m = "" ↔
      options.fileNamingStyle.spell m.toList = [] := by
    intro m
    rw [modelDirectory, ← NamingStyle.toList_apply, ← String.toList_inj, String.toList_empty]
  have h := congrArg String.toList h
  rw [toList_dtoModule, toList_dtoModule] at h
  rw [hempty, hempty]
  exact NamingStyle.spell_behind_cancel kind.split_verb (List.append_cancel_right h)

/-- The directories of two spellings are different places. -/
theorem modelDirectory_of_subdirectory (hm : '/' ∉ model.toList) (ho : '/' ∉ other.toList)
    (hne : options.modelDirectory model ≠ "") (hne' : options.modelDirectory other ≠ "")
    (hnested : options.outputToNestJsResourceStructure = true) (base : Path)
    (h : (base / options.subdirectory model "dto").components
      = (base / options.subdirectory other "dto").components) :
    options.modelDirectory model = options.modelDirectory other := by
  have hplace : ∀ m, (base / options.subdirectory m "dto").components
      = (base / (⟨options.modelDirectory m⟩ : Path)).components ++ [Component.name "dto"] := by
    intro m
    have hassoc := Path.join_assoc base ⟨options.modelDirectory m⟩ ⟨"dto"⟩
    rw [subdirectory, if_pos hnested, ← hassoc,
      Path.components_join_names _ isName_dto.lead, isName_dto.components]
  rw [hplace model, hplace other] at h
  exact Path.join_injective base (slash_not_mem_modelDirectory hm)
    (slash_not_mem_modelDirectory ho) hne hne' (List.append_cancel_right h)

/-- No file of the one model has the destination of a file of the other. -/
structure KeepsApart (options : Options) (model other : Model) : Prop where
  entities : (ModelScope.entityPath ⟨options, model⟩ options.output).components
    ≠ (ModelScope.entityPath ⟨options, other⟩ options.output).components
  inputs : options.entitiesOnly = false → ∀ kind kind',
    (ModelScope.dtoPath ⟨options, model⟩ options.output kind).components
      ≠ (ModelScope.dtoPath ⟨options, other⟩ options.output kind').components

/-- The spellings of two model names keep the files of the models apart. In a flat layout input
files stand side by side, and must be kept apart by their own names as well. -/
structure Separates (options : Options) (model other : String) : Prop where
  directories : options.modelDirectory model ≠ options.modelDirectory other
  modules : options.outputToNestJsResourceStructure = false → options.entitiesOnly = false →
    ∀ kind, options.dtoModule kind model ≠ options.dtoModule kind other

end Options

namespace ModelScope

open Options

variable {options : Options} {model other : Model} {base : Path}

/-- Input files and entities never meet, however their models are named. -/
theorem dto_entity_apart (kind : DtoKind) :
    (dtoFile ⟨options, model⟩ base kind).path.components
      ≠ (entityFile ⟨options, other⟩ base).path.components := by
  intro h
  rw [dtoFile_path] at h
  obtain ⟨front, _, _, hdto⟩ := Path.join_last_component (base / options.dtoDirectory model.name)
    (options.fileNamingStyle.apply (kind.verb ++ " " ++ model.name))
    (".dto" ++ ("." ++ DtoFile.extension)) (by decide) (by decide)
  obtain ⟨front', _, _, hentity⟩ := Path.join_last_component (base / options.entityDirectory other.name)
    (options.modelDirectory other.name) (".entity" ++ ("." ++ DtoFile.extension))
    (by decide) (by decide)
  rw [← String.append_assoc, ← String.append_assoc] at hdto hentity
  have hlast := hdto.symm.trans ((congrArg List.getLast? h).trans hentity)
  have hnames := String.ofList_injective (Component.name.inj (Option.some.inj hlast))
  have hends : ".dto.ts".toList <:+ ".entity.ts".toList :=
    List.suffix_of_suffix_length_le ⟨front, rfl⟩ ⟨front', hnames.symm⟩ (by decide)
  exact absurd hends (by decide)

/-- The files of one model never collide. -/
theorem files_apart (model : Model) (base : Path) :
    (files ⟨options, model⟩ base).Pairwise fun x y => x.path.components ≠ y.path.components := by
  have hkinds : ∀ {kind kind' : DtoKind}, kind ≠ kind' →
      (dtoFile ⟨options, model⟩ base kind).path.components
        ≠ (dtoFile ⟨options, model⟩ base kind').path.components := by
    intro kind kind' hne h
    rw [dtoFile_path, dtoFile_path] at h
    exact hne (kind_of_components _ h)
  unfold files
  split
  · exact List.pairwise_singleton _ _
  · rw [List.pairwise_append, List.pairwise_map]
    refine ⟨?_, List.pairwise_singleton _ _, fun x hx y hy => ?_⟩
    · have hdiffer : DtoKind.all.Pairwise (· ≠ ·) := by decide
      exact hdiffer.imp hkinds
    · obtain ⟨kind, _, rfl⟩ := List.mem_map.mp hx
      obtain rfl := List.mem_singleton.mp hy
      exact dto_entity_apart kind

/-- Files of two models can collide with files of their own sort only. -/
theorem files_apart_iff :
    (∀ x ∈ files ⟨options, model⟩ options.output, ∀ y ∈ files ⟨options, other⟩ options.output,
      x.path.components ≠ y.path.components) ↔ options.KeepsApart model other := by
  constructor
  · intro h
    refine ⟨?_, fun hinputs kind kind' => ?_⟩
    · have hne := h (entityFile ⟨options, model⟩ options.output) (mem_files.mpr (.inr rfl))
        (entityFile ⟨options, other⟩ options.output) (mem_files.mpr (.inr rfl))
      exact hne
    · have hne := h (dtoFile ⟨options, model⟩ options.output kind)
        (mem_files.mpr (.inl ⟨hinputs, kind, rfl⟩)) (dtoFile ⟨options, other⟩ options.output kind')
        (mem_files.mpr (.inl ⟨hinputs, kind', rfl⟩))
      rwa [dtoFile_path, dtoFile_path] at hne
  · intro h x hx y hy
    rcases mem_files.mp hx with ⟨hinputs, kind, rfl⟩ | rfl <;>
      rcases mem_files.mp hy with ⟨_, kind', rfl⟩ | rfl
    · rw [dtoFile_path, dtoFile_path]
      exact h.inputs hinputs kind kind'
    · exact dto_entity_apart kind
    · exact (dto_entity_apart kind').symm
    · exact h.entities

/-- Below two directories, equal places of modules have equal directories and equal names. -/
theorem of_join_extended {d e : Path} {a b : String} (ha : Path.IsName a) (hb : Path.IsName b)
    (h : (d / ⟨a ++ "." ++ DtoFile.extension⟩).components
      = (e / ⟨b ++ "." ++ DtoFile.extension⟩).components) :
    d.components = e.components ∧ a = b := by
  have ha := isName_extended ha
  have hb := isName_extended hb
  rw [Path.components_join_names _ ha.lead, Path.components_join_names _ hb.lead, ha.components,
    hb.components] at h
  obtain ⟨hdirectory, hlast⟩ := List.append_inj' h rfl
  exact ⟨hdirectory, extended_injective (Component.name.inj (List.cons.inj hlast).1)⟩

/-- Input files that share a place are of one kind and have one module name, and in a nested layout
the spellings of their models agree. -/
theorem of_dtoPath_components (hm : '/' ∉ model.name.toList) (ho : '/' ∉ other.name.toList)
    {kind kind' : DtoKind}
    (h : (dtoPath ⟨options, model⟩ base kind).components
      = (dtoPath ⟨options, other⟩ base kind').components) :
    kind = kind' ∧ options.dtoModule kind model.name = options.dtoModule kind other.name ∧
      (options.outputToNestJsResourceStructure = true →
        options.modelDirectory model.name = options.modelDirectory other.name) := by
  obtain ⟨hdirectory, hname⟩ := of_join_extended (isName_dtoModule options hm kind)
    (isName_dtoModule options ho kind') h
  obtain rfl := kind_of_dtoModule hname
  refine ⟨rfl, hname, fun hnested => ?_⟩
  have hwordless := wordless_of_dtoModule hname
  by_cases hempty : options.modelDirectory model.name = ""
  · rw [hempty, hwordless.mp hempty]
  · exact modelDirectory_of_subdirectory hm ho hempty (mt hwordless.mpr hempty) hnested base
      hdirectory

theorem of_entityPath_components (hm : '/' ∉ model.name.toList) (ho : '/' ∉ other.name.toList)
    (h : (entityPath ⟨options, model⟩ base).components
      = (entityPath ⟨options, other⟩ base).components) :
    options.modelDirectory model.name = options.modelDirectory other.name := by
  have hname := congrArg String.toList (of_join_extended (isName_entityModule options hm)
    (isName_entityModule options ho) h).2
  rw [entityModule, entityModule, String.toList_append, String.toList_append] at hname
  exact String.toList_inj.mp (List.append_cancel_right hname)

/-- Slashes or not, models that are spelled alike collide. -/
theorem separates_of_keepsApart (h : options.KeepsApart model other) :
    options.Separates model.name other.name := by
  refine ⟨fun hsame => h.entities (congrArg Path.components ?_), fun hflat hinputs kind hsame =>
    h.inputs hinputs kind kind (congrArg Path.components ?_)⟩
  · simp only [entityPath, entityDirectory, subdirectory, entityModule, hsame]
  · simp only [dtoPath, dtoDirectory, subdirectory, hflat, Bool.false_eq_true, if_false, hsame]

/-- Without slashes in their names, the spellings alone decide whether models collide. -/
theorem keepsApart_iff_separates (hm : '/' ∉ model.name.toList) (ho : '/' ∉ other.name.toList) :
    options.KeepsApart model other ↔ options.Separates model.name other.name := by
  refine ⟨separates_of_keepsApart, fun h => ⟨fun heq => ?_, fun hinputs kind kind' heq => ?_⟩⟩
  · exact h.directories (of_entityPath_components hm ho heq)
  · obtain ⟨_, hmodule, hdirectory⟩ := of_dtoPath_components hm ho heq
    cases hnested : options.outputToNestJsResourceStructure with
    | true => exact h.directories (hdirectory hnested)
    | false => exact h.modules hnested hinputs kind hmodule

end ModelScope

namespace Schema

variable {options : Options} {schema : Schema} {files : List DtoFile}

/-- The files of a run have different destinations exactly if every two models are kept apart. Where
no name has a slash, that is to say that every two names are spelled apart; it does not follow from
the names being different. -/
theorem destinations_differ_iff (hfiles : schema.dtoFiles options = .ok files) :
    ((files.map fun file => file.path.components).Nodup ↔
      schema.models.Pairwise options.KeepsApart) ∧
    ((∀ model ∈ schema.models, '/' ∉ model.name.toList) →
      ((files.map fun file => file.path.components).Nodup ↔
        (schema.models.map Model.name).Pairwise options.Separates)) := by
  obtain ⟨_, rfl⟩ := dtoFiles_eq_ok.mp hfiles
  have happart : ((schema.models.flatMap fun model =>
      ModelScope.files ⟨options, model⟩ options.output).map fun file =>
        file.path.components).Nodup ↔ schema.models.Pairwise options.KeepsApart := by
    rw [List.Nodup, List.pairwise_map, List.pairwise_flatMap]
    constructor
    · rintro ⟨_, hacross⟩
      exact hacross.imp ModelScope.files_apart_iff.mp
    · intro hapart
      exact ⟨fun model _ => ModelScope.files_apart model _,
        hapart.imp ModelScope.files_apart_iff.mpr⟩
  refine ⟨happart, fun hslash => happart.trans ?_⟩
  rw [List.pairwise_map]
  have hspelled : ∀ {model other}, model ∈ schema.models → other ∈ schema.models →
      (options.KeepsApart model other ↔ options.Separates model.name other.name) :=
    fun hm ho => ModelScope.keepsApart_iff_separates (hslash _ hm) (hslash _ ho)
  exact ⟨fun h => h.imp_of_mem fun hm ho => (hspelled hm ho).mp,
    fun h => h.imp_of_mem fun hm ho => (hspelled hm ho).mpr⟩

/-- Two models whose names differ in the case of a letter only. -/
def homonyms : Schema :=
  ⟨[⟨"User", none, [], none⟩, ⟨"user", none, [], none⟩], []⟩

/-- A schema can be accepted and still lose files. -/
theorem homonyms_collide : ∃ files, homonyms.dtoFiles default = .ok files ∧
    ¬(files.map fun file => file.path.components).Nodup := by
  refine ⟨_, rfl, ?_⟩
  decide +kernel

theorem homonyms_destinations : ∃ files, homonyms.dtoFiles default = .ok files ∧
    ((files.map fun file => file.path.components).Nodup ↔
      homonyms.models.Pairwise (default : Options).KeepsApart) ∧
    ((files.map fun file => file.path.components).Nodup ↔
      (homonyms.models.map Model.name).Pairwise (default : Options).Separates) := by
  have hslash : ∀ model ∈ homonyms.models, '/' ∉ model.name.toList := by decide
  refine ⟨_, rfl, ?_⟩
  obtain ⟨happart, hspelled⟩ :=
    destinations_differ_iff (show homonyms.dtoFiles default = _ from rfl)
  exact ⟨happart, hspelled hslash⟩

end Schema

end DtoGen

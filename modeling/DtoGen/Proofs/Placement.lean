import DtoGen.Dto.Synthesis
import DtoGen.Proofs.PathJoin
import DtoGen.Proofs.StyledNames

namespace DtoGen

namespace Options

/-- The spelling of the model can stand as one component, or it is empty. -/
structure PlacesModel (options : Options) (model : String) : Prop where
  noSlash : '/' ∉ model.toList
  notHere : options.modelDirectory model ≠ "."
  notUp : options.modelDirectory model ≠ ".."

variable {options : Options} {model : String}

theorem slash_not_mem_modelDirectory (h : '/' ∉ model.toList) :
    '/' ∉ (options.modelDirectory model).toList :=
  NamingStyle.slash_not_mem_apply h

theorem isName_dtoModule (options : Options) (h : '/' ∉ model.toList) (kind : DtoKind) :
    Path.IsName (options.dtoModule kind model) := by
  have hverb : '/' ∉ (kind.verb ++ " " ++ model).toList := by
    simp only [String.toList_append, List.mem_append, not_or]
    exact ⟨⟨by cases kind <;> decide, by decide⟩, h⟩
  exact Path.isName_append (NamingStyle.slash_not_mem_apply hverb) (by decide) (by decide)

theorem isName_entityModule (options : Options) (h : '/' ∉ model.toList) :
    Path.IsName (options.entityModule model) :=
  Path.isName_append (slash_not_mem_modelDirectory h) (by decide) (by decide)

theorem isName_dto : Path.IsName "dto" := by
  constructor <;> decide

theorem isName_entities : Path.IsName "entities" := by
  constructor <;> decide

/-- The names between the output directory and a file. -/
def directoryNames (options : Options) (model leaf : String) : List String :=
  if options.outputToNestJsResourceStructure then
    if options.modelDirectory model = "" then [leaf] else [options.modelDirectory model, leaf]
  else []

theorem isName_of_mem_directoryNames (h : options.PlacesModel model) {leaf : String}
    (hleaf : Path.IsName leaf) : ∀ s ∈ options.directoryNames model leaf, Path.IsName s := by
  intro s hs
  unfold directoryNames at hs
  split at hs
  · split at hs
    · exact List.mem_singleton.mp hs ▸ hleaf
    · rename_i hne
      rcases List.mem_cons.mp hs with rfl | hs
      · exact ⟨slash_not_mem_modelDirectory h.noSlash, hne, h.notHere, h.notUp⟩
      · exact List.mem_singleton.mp hs ▸ hleaf
  · cases hs

theorem subdirectory_names (h : options.PlacesModel model) {leaf : String}
    (hleaf : Path.IsName leaf) :
    Path.lead (options.subdirectory model leaf).text.toList = [] ∧
      (options.subdirectory model leaf).components
        = (options.directoryNames model leaf).map Component.name := by
  unfold subdirectory directoryNames
  split
  · split
    · rename_i hempty
      rw [hempty, Path.join_empty]
      exact ⟨hleaf.lead, hleaf.components⟩
    · rename_i hne
      have himage : Path.IsName (options.modelDirectory model) :=
        ⟨slash_not_mem_modelDirectory h.noSlash, hne, h.notHere, h.notUp⟩
      refine ⟨?_, ?_⟩
      · have hjoin := Path.lead_join (p := ⟨options.modelDirectory model⟩) ⟨leaf⟩ hne
          (Path.not_absolute_of_noSlash hleaf.noSlash)
        exact hjoin.trans himage.lead
      · rw [Path.components_join_names _ hleaf.lead, himage.components, hleaf.components]
        rfl
  · exact ⟨rfl, rfl⟩

/-- Where a file of the model stands below the output directory. -/
theorem components_placed (h : options.PlacesModel model) {leaf : String}
    (hleaf : Path.IsName leaf) (base : Path) {name : String} (hname : Path.IsName name) :
    (base / options.subdirectory model leaf / ⟨name⟩).components
      = base.components ++ (options.directoryNames model leaf).map Component.name
        ++ [Component.name name] := by
  obtain ⟨hlead, hnames⟩ := subdirectory_names h hleaf
  rw [Path.components_join_names _ hname.lead, Path.components_join_names _ hlead, hnames,
    hname.components]

end Options

namespace DtoFile

/-- The file stands at a place, its extension apart. -/
def StandsAt (file : DtoFile) (place : List Component) : Prop :=
  ∃ q : Path, q.components = place ∧ file.path = ⟨q.text ++ ".ts"⟩

def Exports (file : DtoFile) (name : String) : Prop :=
  ∃ c ∈ file.classes, c.name = name ∧ c.isExported = true

end DtoFile

namespace ModelScope

open Options

variable {scope : ModelScope}

theorem dtoFile_exports (scope : ModelScope) (base : Path) (kind : DtoKind) :
    (scope.dtoFile base kind).Exports (scope.options.dtoClass kind scope.model.name) := by
  cases kind with
  | connect => exact ⟨_, List.mem_singleton_self _, rfl, rfl⟩
  | create => exact ⟨_, List.mem_append_right _ (List.mem_singleton_self _), rfl, rfl⟩
  | update => exact ⟨_, List.mem_append_right _ (List.mem_singleton_self _), rfl, rfl⟩

theorem entityFile_exports (scope : ModelScope) (base : Path) :
    (scope.entityFile base).Exports (scope.options.entityClass scope.model.name) :=
  ⟨_, List.mem_singleton_self _, rfl, rfl⟩

theorem dtoFile_path (scope : ModelScope) (base : Path) (kind : DtoKind) :
    (scope.dtoFile base kind).path = scope.dtoPath base kind := by
  cases kind <;> rfl

/-- A module put behind a directory, with the extension behind it. -/
theorem join_extension (directory : Path) {name : String} (hname : Path.IsName name) :
    directory / ⟨name ++ "." ++ DtoFile.extension⟩
      = ⟨(directory / (⟨name⟩ : Path)).text ++ ".ts"⟩ := by
  rw [String.append_assoc]
  exact Path.join_append directory ".ts" hname.notEmpty

theorem dtoFile_standsAt (h : scope.options.PlacesModel scope.model.name) (base : Path)
    (kind : DtoKind) :
    (scope.dtoFile base kind).StandsAt (base.components
      ++ (scope.options.directoryNames scope.model.name "dto").map Component.name
      ++ [.name (scope.options.dtoModule kind scope.model.name)]) := by
  have hname := isName_dtoModule scope.options h.noSlash kind
  refine ⟨_, components_placed h isName_dto base hname, ?_⟩
  rw [dtoFile_path]
  exact join_extension _ hname

theorem entityFile_standsAt (h : scope.options.PlacesModel scope.model.name) (base : Path) :
    (scope.entityFile base).StandsAt (base.components
      ++ (scope.options.directoryNames scope.model.name "entities").map Component.name
      ++ [.name (scope.options.entityModule scope.model.name)]) := by
  have hname := isName_entityModule scope.options h.noSlash
  exact ⟨_, components_placed h isName_entities base hname, join_extension _ hname⟩

theorem isName_extended {name : String} (h : Path.IsName name) :
    Path.IsName (name ++ "." ++ DtoFile.extension) := by
  rw [String.append_assoc]
  exact Path.isName_append h.noSlash (by decide) (by decide)

theorem extended_injective {a b : String}
    (h : a ++ "." ++ DtoFile.extension = b ++ "." ++ DtoFile.extension) : a = b := by
  have h := congrArg String.toList h
  simp only [String.toList_append] at h
  exact String.toList_inj.mp (List.append_cancel_right (List.append_cancel_right h))

/-- The directory that relative imports of an input file start from. -/
theorem dtoFile_directory (h : scope.options.PlacesModel scope.model.name) (base : Path)
    (kind : DtoKind) :
    (scope.dtoFile base kind).spec.directory.components = base.components
      ++ (scope.options.directoryNames scope.model.name "dto").map Component.name := by
  have hname := isName_extended (isName_dtoModule scope.options h.noSlash kind)
  have hplaced := components_placed h isName_dto base hname
  rw [DtoFile.spec, FileSpec.directory, Path.components_parentOrEmpty, dtoFile_path]
  exact (congrArg List.dropLast hplaced).trans List.dropLast_concat

theorem entityFile_directory (h : scope.options.PlacesModel scope.model.name) (base : Path) :
    (scope.entityFile base).spec.directory.components = base.components
      ++ (scope.options.directoryNames scope.model.name "entities").map Component.name := by
  have hname := isName_extended (isName_entityModule scope.options h.noSlash)
  have hplaced := components_placed h isName_entities base hname
  rw [DtoFile.spec, FileSpec.directory, Path.components_parentOrEmpty]
  exact (congrArg List.dropLast hplaced).trans List.dropLast_concat

end ModelScope

end DtoGen

import DtoGen.Generation.Pipeline
import DtoGen.Proofs.AcceptedSchema
import DtoGen.Proofs.BarrelGroups
import DtoGen.Proofs.Placement
import Mathlib.Data.List.Nodup

namespace DtoGen

namespace Barrels

/-- The module that a line exports again, if it is such a line. -/
def exportedModule? (line : String) : Option String := do
  let rest ← line.toList.dropPrefix? "export * from './".toList
  return String.ofList (← rest.dropSuffix? "';".toList)

theorem exportedModule?_exportLine (name : String) :
    exportedModule? (exportLine name) = some name := by
  unfold exportedModule? exportLine
  rw [String.toList_append, String.toList_append, List.append_assoc,
    List.dropPrefix?_append_of_beq _ BEq.rfl]
  have hend : (name.toList ++ "';".toList).dropSuffix? "';".toList = some name.toList :=
    List.dropSuffix?_eq_some_iff.mpr ⟨_, rfl, BEq.rfl⟩
  change (((name.toList ++ "';".toList).dropSuffix? "';".toList).bind fun cs =>
    some (String.ofList cs)) = some name
  rw [hend, Option.bind_some, String.ofList_toList]

theorem newline_not_mem_exportLine {name : String} (h : '\n' ∉ name.toList) :
    '\n' ∉ (exportLine name).toList := by
  unfold exportLine
  simp only [String.toList_append, List.mem_append, not_or]
  exact ⟨⟨by decide, h⟩, by decide⟩

end Barrels

namespace FileSpec

open Barrels

def place (file : FileSpec) : List Component :=
  file.path.components

/-- The lines of the content. -/
def lines (file : FileSpec) : List String :=
  (file.content.toList.splitOn '\n').map String.ofList

/-- Where the line of a barrel leads to. -/
def target? (barrel : FileSpec) (line : String) : Option (List Component) :=
  (exportedModule? line).map fun name =>
    (barrel.directory / ⟨name ++ "." ++ DtoFile.extension⟩).components

/-- Where the lines of a barrel lead to, line by line. -/
def targets (barrel : FileSpec) : List (List Component) :=
  barrel.lines.filterMap barrel.target?

/-- The file can be named in a line of its barrel, and is not the barrel itself. -/
structure IsModule (file : FileSpec) (name : String) : Prop where
  place : file.place = file.directory.components ++ [.name (name ++ "." ++ DtoFile.extension)]
  isName : Path.IsName name
  oneLine : '\n' ∉ name.toList
  notIndex : name ≠ "index"

/-- The extension is what stands behind the last dot. -/
theorem stemOf_extended {name extension : List Char} (hne : name ≠ []) (hdot : '.' ∉ extension) :
    Path.stemOf (name ++ '.' :: extension) = name := by
  have hbehind : ∀ c ∈ extension.reverse, (c != '.') = true := by
    intro c hc
    simpa using ne_of_mem_of_not_mem (List.mem_reverse.mp hc) hdot
  have hfront : (name ++ '.' :: extension).reverse.dropWhile (· != '.') = '.' :: name.reverse := by
    rw [List.reverse_append, List.reverse_cons, List.append_assoc,
      List.dropWhile_append_of_pos hbehind]
    rfl
  unfold Path.stemOf
  rw [hfront, List.tail_cons, List.reverse_reverse]
  cases name with
  | nil => exact absurd rfl hne
  | cons c name => rfl

theorem IsModule.moduleName {file : FileSpec} {name : String} (h : file.IsModule name) :
    file.moduleName = name := by
  have hne : name.toList ≠ [] := fun hs => h.isName.notEmpty (String.toList_inj.mp hs)
  have hlast : file.path.components.getLast?
      = some (.name (name ++ "." ++ DtoFile.extension)) := by
    have hplace := h.place
    unfold FileSpec.place at hplace
    rw [hplace, List.getLast?_concat]
  have hfile : file.path.fileName? = some (name ++ "." ++ DtoFile.extension) := by
    unfold Path.fileName?
    rw [hlast]
  have htext : (name ++ "." ++ DtoFile.extension).toList
      = name.toList ++ '.' :: DtoFile.extension.toList := by
    simp [String.toList_append]
  unfold FileSpec.moduleName Path.stem?
  rw [hfile, Option.map_some, Option.getD_some, htext, stemOf_extended hne (by decide),
    String.ofList_toList]

/-- A line that names the file leads to it from any spelling of its directory. -/
theorem IsModule.target {file barrel : FileSpec} {name : String} (h : file.IsModule name)
    (hsame : barrel.directory.components = file.directory.components) :
    barrel.target? (exportLine file.moduleName) = some file.place := by
  have hname := Path.isName_append (b := "." ++ DtoFile.extension) h.isName.noSlash
    (by decide) (by decide)
  rw [← String.append_assoc] at hname
  rw [target?, exportedModule?_exportLine, Option.map_some, h.moduleName,
    Path.components_join_names _ hname.lead, hname.components, hsame, h.place]

end FileSpec

namespace Barrels

open FileSpec

variable {files : List FileSpec} {directory : Path}

/-- Every file has a name that a line can hold. -/
def AllModules (files : List FileSpec) : Prop :=
  ∀ file ∈ files, ∃ name, file.IsModule name

theorem AllModules.oneLine (h : AllModules files) {line : String}
    (hline : line ∈ linesOf files directory) : '\n' ∉ line.toList := by
  obtain ⟨file, hfile, rfl⟩ := List.mem_map.mp hline
  obtain ⟨name, hname⟩ := h file (List.mem_filter.mp hfile).1
  rw [hname.moduleName]
  exact newline_not_mem_exportLine hname.oneLine

/-- The content of a barrel falls into the lines that it was made from. -/
theorem lines_barrelOf (h : AllModules files) (hd : directory ∈ directories files) :
    (barrelOf DtoFile.extension files directory).lines = linesOf files directory := by
  have hmark : "\n".toList = ['\n'] := rfl
  have hone : ∀ cs ∈ (linesOf files directory).map String.toList, '\n' ∉ cs := by
    intro cs hcs
    obtain ⟨line, hline, rfl⟩ := List.mem_map.mp hcs
    exact h.oneLine hline
  have hne : (linesOf files directory).map String.toList ≠ [] := by
    simpa using linesOf_ne_nil hd
  unfold FileSpec.lines barrelOf
  rw [String.toList_intercalate, hmark, List.splitOn_intercalate _ hone hne, List.map_map]
  exact (List.map_congr_left fun _ _ => String.ofList_toList).trans (List.map_id _)

theorem isName_index : Path.IsName ("index." ++ DtoFile.extension) := by
  constructor <;> decide

theorem place_barrelOf (files : List FileSpec) (directory : Path) :
    (barrelOf DtoFile.extension files directory).place
      = directory.components ++ [.name ("index." ++ DtoFile.extension)] := by
  change (directory / (⟨"index." ++ DtoFile.extension⟩ : Path)).components = _
  rw [Path.components_join_names _ isName_index.lead, isName_index.components]

theorem directory_barrelOf (files : List FileSpec) (directory : Path) :
    (barrelOf DtoFile.extension files directory).directory.components = directory.components := by
  have hplace := place_barrelOf files directory
  unfold FileSpec.place at hplace
  rw [FileSpec.directory, Path.components_parentOrEmpty, hplace, List.dropLast_concat]

/-- Line by line, a barrel leads to the files of its directory. -/
theorem targets_barrelOf (h : AllModules files) (hd : directory ∈ directories files) :
    (barrelOf DtoFile.extension files directory).targets
      = (files.filter fun file => directory.samePlace file.directory).map FileSpec.place := by
  unfold FileSpec.targets
  rw [lines_barrelOf h hd, linesOf, List.filterMap_map, ← List.filterMap_eq_map]
  refine List.filterMap_congr fun file hfile => ?_
  obtain ⟨hmem, hsame⟩ := List.mem_filter.mp hfile
  obtain ⟨name, hname⟩ := h file hmem
  exact hname.target ((directory_barrelOf files directory).trans (Path.samePlace_iff.mp hsame))

theorem place_ne_barrel (h : AllModules files) {file : FileSpec} (hfile : file ∈ files) :
    (barrelOf DtoFile.extension files directory).place ≠ file.place := by
  obtain ⟨name, hname⟩ := h file hfile
  rw [place_barrelOf, hname.place]
  intro hsame
  have hlast := (List.cons.inj (List.append_inj' hsame rfl).2).1
  exact hname.notIndex (ModelScope.extended_injective (Component.name.inj hlast)).symm

theorem directory_of_place {file other : FileSpec} (h : file.place = other.place) :
    file.directory.components = other.directory.components := by
  unfold FileSpec.place at h
  rw [FileSpec.directory, FileSpec.directory, Path.components_parentOrEmpty,
    Path.components_parentOrEmpty, h]

/-- A barrel leads only into its own directory. -/
theorem directory_of_mem_targets (h : AllModules files) (hd : directory ∈ directories files)
    {file : FileSpec}
    (hin : file.place ∈ (barrelOf DtoFile.extension files directory).targets) :
    directory.components = file.directory.components := by
  rw [targets_barrelOf h hd] at hin
  obtain ⟨other, hother, hplace⟩ := List.mem_map.mp hin
  exact (Path.samePlace_iff.mp (List.mem_filter.mp hother).2).trans (directory_of_place hplace)

theorem directory_unique {d e : Path} (hd : d ∈ directories files) (he : e ∈ directories files)
    (h : d.components = e.components) : d = e := by
  have hapart : ((directories files).map Path.components).Nodup :=
    List.pairwise_map.mpr (Path.firstSpellings_apart _)
  exact List.inj_on_of_nodup_map hapart hd he h

/-- In the barrel of its directory a place is named as often as it is generated. -/
theorem count_targets (h : AllModules files) (hd : directory ∈ directories files)
    {file : FileSpec} (hsame : directory.components = file.directory.components) :
    (barrelOf DtoFile.extension files directory).targets.count file.place
      = (files.map FileSpec.place).count file.place := by
  rw [targets_barrelOf h hd, List.count_eq_countP, List.countP_map, List.countP_filter,
    List.count_eq_countP, List.countP_map]
  refine List.countP_congr fun other _ => ?_
  have hplace : other.place = file.place → directory.samePlace other.directory = true :=
    fun heq => Path.samePlace_iff.mpr (hsame.trans (directory_of_place heq).symm)
  simpa using hplace

end Barrels

namespace ModelScope

open FileSpec

/-- What stands in front of the ending of a generated name can be any text of one line. -/
theorem isModule_of_path {file : FileSpec} (directory : Path) {name ending : String}
    (hpath : file.path = directory / ⟨name ++ ending ++ "." ++ DtoFile.extension⟩)
    (hname : '\n' ∉ name.toList) (hending : ending = ".dto" ∨ ending = ".entity") :
    ∃ module, file.IsModule module := by
  have hplain : '/' ∉ ending.toList ∧ '\n' ∉ ending.toList ∧ 2 < ending.length ∧
      ¬ending.toList <:+ "index".toList := by
    rcases hending with rfl | rfl <;> decide
  obtain ⟨hslash, hline, hlong, hindex⟩ := hplain
  have hslash' : '/' ∉ (ending ++ ("." ++ DtoFile.extension)).toList := by
    rw [String.toList_append, List.mem_append, not_or]
    exact ⟨hslash, by decide⟩
  have hlong' : 2 < (ending ++ ("." ++ DtoFile.extension)).toList.length := by
    rw [String.toList_append, List.length_append]
    exact Nat.lt_add_right _ hlong
  obtain ⟨front, hfront, hin, hlast⟩ :=
    Path.join_last_component directory name _ hslash' hlong'
  rw [← String.append_assoc, ← String.append_assoc, ← hpath] at hlast
  have hfile : String.ofList (front ++ (ending ++ ("." ++ DtoFile.extension)).toList)
      = String.ofList front ++ ending ++ "." ++ DtoFile.extension := by
    rw [← String.toList_inj]
    simp [String.toList_append]
  rw [hfile] at hlast
  obtain ⟨rest, hrest⟩ := List.getLast?_eq_some_iff.mp hlast
  have htext : (String.ofList front ++ ending).toList = front ++ ending.toList := by
    rw [String.toList_append, String.toList_ofList]
  refine ⟨String.ofList front ++ ending, ?_, ?_, ?_, ?_⟩
  · unfold FileSpec.place
    rw [FileSpec.directory, Path.components_parentOrEmpty, hrest, List.dropLast_concat]
  · exact Path.isName_append (by rwa [String.toList_ofList]) hslash hlong
  · rw [htext, List.mem_append, not_or]
    exact ⟨fun h => hname (hin h), hline⟩
  · intro h
    exact hindex ⟨front, htext.symm.trans (congrArg String.toList h)⟩

theorem isModule_spec {scope : ModelScope} {base : Path} {file : DtoFile}
    (h : file ∈ scope.files base) : ∃ name, file.spec.IsModule name := by
  rcases mem_files.mp h with ⟨_, kind, rfl⟩ | rfl
  · exact isModule_of_path _ (scope.dtoFile_path base kind)
      (NamingStyle.newline_not_mem_apply _ _) (.inl rfl)
  · exact isModule_of_path _ rfl (NamingStyle.newline_not_mem_apply _ _) (.inr rfl)

end ModelScope

/-- Every module is reached through the barrel of its own directory, as often as it was generated,
and through no other barrel; barrels export nothing else and take no module's place. -/
structure Plan.Linked (plan : Plan) : Prop where
  apart : ∀ barrel ∈ plan.barrels, ∀ file ∈ plan.synthesized, barrel.place ≠ file.place
  directories : plan.barrels.Pairwise fun a b =>
    a.directory.components ≠ b.directory.components
  exported : ∀ file ∈ plan.synthesized, ∃ barrel ∈ plan.barrels,
    barrel.directory.components = file.directory.components ∧
    barrel.targets.count file.place = (plan.synthesized.map FileSpec.place).count file.place ∧
    ∀ other ∈ plan.barrels, file.place ∈ other.targets → other = barrel
  genuine : ∀ barrel ∈ plan.barrels, ∀ line ∈ barrel.lines,
    ∃ file ∈ plan.synthesized, barrel.target? line = some file.place

/-- The plan of a schema that is accepted. -/
theorem Pipeline.plan_of_dto {m : Type → Type} [Monad m] [LawfulMonad m] {pipeline : Pipeline m}
    (h : pipeline.synthesizer = .dto) {options : Options} {schema : Schema} {files : List DtoFile}
    (hfiles : schema.dtoFiles options = .ok files) :
    pipeline.plan ⟨options, schema⟩
      = pure (.ok (.ofFiles options DtoFile.extension (files.map DtoFile.spec))) := by
  rw [Pipeline.plan, h, Synthesizer.plan, Synthesizer.dto, pure_bind, hfiles]

theorem Plan.linked_ofFiles {options : Options} (hexport : options.reExport = true)
    {files : List FileSpec} (h : Barrels.AllModules files) :
    (Plan.ofFiles options DtoFile.extension files).Linked := by
  have hbarrels : (Plan.ofFiles options DtoFile.extension files).barrels
      = (Barrels.directories files).map (Barrels.barrelOf DtoFile.extension files) := by
    rw [Plan.ofFiles, if_pos hexport, (Barrels.fits_ofFiles _ files).files]
  constructor
  · rw [hbarrels]
    intro barrel hbarrel file hfile
    obtain ⟨directory, _, rfl⟩ := List.mem_map.mp hbarrel
    exact Barrels.place_ne_barrel h hfile
  · rw [hbarrels, List.pairwise_map]
    refine (Path.firstSpellings_apart _).imp fun hne => ?_
    rwa [Barrels.directory_barrelOf, Barrels.directory_barrelOf]
  · rw [hbarrels]
    intro file hfile
    obtain ⟨directory, hd, hsame⟩ := Path.exists_firstSpelling (List.mem_map_of_mem hfile)
    refine ⟨_, List.mem_map_of_mem hd, (Barrels.directory_barrelOf files directory).trans hsame,
      Barrels.count_targets h hd hsame, fun other hother hin => ?_⟩
    obtain ⟨directory', hd', rfl⟩ := List.mem_map.mp hother
    have hsame' := Barrels.directory_of_mem_targets h hd' hin
    rw [Barrels.directory_unique hd' hd (hsame'.trans hsame.symm)]
  · rw [hbarrels]
    intro barrel hbarrel line hline
    obtain ⟨directory, hd, rfl⟩ := List.mem_map.mp hbarrel
    rw [Barrels.lines_barrelOf h hd] at hline
    obtain ⟨file, hfile, rfl⟩ := List.mem_map.mp hline
    obtain ⟨hmem, hsame⟩ := List.mem_filter.mp hfile
    obtain ⟨name, hname⟩ := h file hmem
    exact ⟨file, hmem, hname.target
      ((Barrels.directory_barrelOf files directory).trans (Path.samePlace_iff.mp hsame))⟩

namespace Pipeline

/-- Whatever the names of the models, the naming style and the layout, the barrels that are planned
reach every module, and nothing but modules. -/
theorem plan_linked {m : Type → Type} [Monad m] [LawfulMonad m] {pipeline : Pipeline m}
    (h : pipeline.synthesizer = .dto) {options : Options} (hexport : options.reExport = true)
    {schema : Schema} {files : List DtoFile} (hfiles : schema.dtoFiles options = .ok files) :
    ∃ plan, pipeline.plan ⟨options, schema⟩ = pure (.ok plan) ∧
      plan.synthesized = files.map DtoFile.spec ∧ plan.Linked := by
  refine ⟨_, plan_of_dto h hfiles, rfl, Plan.linked_ofFiles hexport fun spec hspec => ?_⟩
  obtain ⟨file, hfile, rfl⟩ := List.mem_map.mp hspec
  obtain ⟨_, rfl⟩ := Schema.dtoFiles_eq_ok.mp hfiles
  obtain ⟨model, _, hfile⟩ := List.mem_flatMap.mp hfile
  exact ModelScope.isModule_spec hfile

/-- Two models at one place, and one whose files have directories of their own. -/
def crowd : Schema :=
  ⟨[⟨"User", none, [], none⟩, ⟨"user", none, [], none⟩, ⟨"logs/.", none, [], none⟩], []⟩

def barrelOptions : Options :=
  { (default : Options) with output := ⟨"out"⟩, reExport := true }

/-- Generates classes and formats nothing. -/
def plainPipeline : Pipeline (StateM FileTree) where
  synthesizer := .dto
  formatter := .unresolvable
  disk := .ofFileTree
  workingDirectory := pure (.ok ⟨"."⟩)

theorem crowd_linked : ∃ files plan, crowd.dtoFiles barrelOptions = .ok files ∧
    plainPipeline.plan ⟨barrelOptions, crowd⟩ = pure (.ok plan) ∧
    plan.synthesized = files.map DtoFile.spec ∧ plan.Linked := by
  obtain ⟨plan, hplan, hsynthesized, hlinked⟩ :=
    plan_linked (show plainPipeline.synthesizer = .dto from rfl)
      (show barrelOptions.reExport = true from rfl)
      (show crowd.dtoFiles barrelOptions = .ok _ from rfl)
  exact ⟨_, plan, rfl, hplan, hsynthesized, hlinked⟩

/-- A place that is generated twice is exported twice. -/
example : (Barrels.ofFiles "ts" [⟨⟨"out/user.entity.ts"⟩, ""⟩, ⟨⟨"out/logs/..dto.ts"⟩, ""⟩,
      ⟨⟨"out/user.entity.ts"⟩, ""⟩]).files.map (fun barrel => (barrel.path, barrel.lines))
    = [ (⟨"out/index.ts"⟩, ["export * from './user.entity';", "export * from './user.entity';"]),
        (⟨"out/logs/index.ts"⟩, ["export * from './..dto';"]) ] := by
  decide +kernel

end Pipeline

end DtoGen

import DtoGen.Proofs.BarrelLinks

namespace DtoGen

namespace Path

/-- A step up takes a name back where there is one. The parent of a root is the root. -/
def stepUp (way : List Component) : List Component :=
  match way.getLast? with
  | some (.name _) => way.dropLast
  | some .root => way
  | _ => way ++ [.up]

/-- One step of a way. -/
def resolveStep (way : List Component) : Component → List Component
  | .root => [.root]
  | .here => way
  | .up => stepUp way
  | .name s => way ++ [.name s]

/-- The way that is left of a path when its spelling is resolved. -/
def resolved (p : Path) : List Component :=
  p.components.foldl resolveStep []

/-- The path leads to something in the directory, at any depth. -/
def StrictlyBelow (p directory : Path) : Prop :=
  ∃ names : List String, names ≠ [] ∧ p.resolved = directory.resolved ++ names.map Component.name

theorem resolveStep_name (way : List Component) (s : String) :
    resolveStep way (.name s) = way ++ [.name s] := rfl

/-- A step up from a name takes the name back, whatever stands before it. -/
theorem resolveStep_up_name (way : List Component) (s : String) :
    resolveStep (way ++ [.name s]) .up = way := by
  simp [resolveStep, stepUp]

theorem resolved_concat {p : Path} {front : List Component} {s : String}
    (h : p.components = front ++ [.name s]) :
    p.resolved = front.foldl resolveStep [] ++ [.name s] := by
  rw [resolved, h, List.foldl_concat, resolveStep_name]

/-- Only names are taken back. -/
theorem mem_resolveStep {way : List Component} {c kept : Component} (hin : kept ∈ way)
    (hname : ∀ s, kept ≠ .name s) (hc : c = .root → kept = .root) :
    kept ∈ resolveStep way c := by
  cases c with
  | root =>
    rw [hc rfl]
    exact List.mem_singleton_self _
  | here => exact hin
  | name s => exact List.mem_append_left _ hin
  | up =>
    change kept ∈ stepUp way
    unfold stepUp
    split
    · rename_i s hlast
      obtain ⟨front, rfl⟩ := List.getLast?_eq_some_iff.mp hlast
      simpa [hname s] using hin
    · exact hin
    · exact List.mem_append_left _ hin

theorem mem_foldl {way cs : List Component} {kept : Component} (hin : kept ∈ way)
    (hname : ∀ s, kept ≠ .name s) (hcs : .root ∈ cs → kept = .root) :
    kept ∈ cs.foldl resolveStep way := by
  induction cs generalizing way with
  | nil => exact hin
  | cons c cs ih =>
    have hc : c = .root → kept = .root := fun h => hcs (h ▸ List.mem_cons_self)
    exact ih (mem_resolveStep hin hname hc) fun h => hcs (List.mem_cons_of_mem _ h)

/-- What stays inside when it starts from nothing adds the same names to any way. -/
theorem foldl_inside {cs : List Component} {names : List String} (hroot : .root ∉ cs)
    (hinside : .up ∉ cs.foldl resolveStep (names.map Component.name)) :
    ∃ added : List String, ∀ way, cs.foldl resolveStep (way ++ names.map Component.name)
      = way ++ added.map Component.name := by
  induction cs generalizing names with
  | nil => exact ⟨names, fun way => rfl⟩
  | cons c cs ih =>
    obtain ⟨hc, hcs⟩ := List.ne_and_not_mem_of_not_mem_cons hroot
    rw [List.foldl_cons] at hinside
    cases c with
    | root => exact absurd rfl hc
    | here => exact ih hcs hinside
    | name s =>
      have hnext : names.map Component.name ++ [.name s] = (names ++ [s]).map Component.name := by
        simp
      rw [resolveStep_name, hnext] at hinside
      obtain ⟨added, hadded⟩ := ih hcs hinside
      refine ⟨added, fun way => ?_⟩
      rw [List.foldl_cons, resolveStep_name, List.append_assoc, hnext, hadded]
    | up =>
      -- A step up from nothing would stay for good, and so be seen at the end.
      rcases List.eq_nil_or_concat names with rfl | ⟨front, s, rfl⟩
      · have hup : Component.up ∈ resolveStep [] .up := List.mem_singleton_self _
        exact absurd (mem_foldl hup (by simp) fun h => absurd h hcs) hinside
      · have hlast : (front ++ [s]).map Component.name
            = front.map Component.name ++ [.name s] := by simp
        rw [List.concat_eq_append, hlast, resolveStep_up_name] at hinside
        obtain ⟨added, hadded⟩ := ih hcs hinside
        refine ⟨added, fun way => ?_⟩
        rw [List.foldl_cons, List.concat_eq_append, hlast, ← List.append_assoc,
          resolveStep_up_name, hadded]

theorem root_not_mem_components {p : Path} (h : p.isAbsolute = false) :
    .root ∉ p.components := by
  have hsteps : Component.root ∉ steps (pieces p.text.toList) := fun hmem => by
    simpa using mem_steps hmem
  rw [components_eq]
  rcases lead_of_relative h with hl | hl <;> simp [hl, hsteps]

theorem root_mem_resolved {p : Path} (h : p.isAbsolute = true) : .root ∈ p.resolved := by
  rw [resolved, components_eq, isAbsolute_iff.mp h, List.singleton_append, List.foldl_cons]
  exact mem_foldl (List.mem_singleton_self _) (by simp) fun _ => rfl

/-- Joining goes on from where the directory leads to. -/
theorem resolved_join (directory : Path) {p : Path} (h : p.isAbsolute = false) :
    (directory / p).resolved = p.components.foldl resolveStep directory.resolved := by
  obtain ⟨text⟩ := directory
  by_cases hempty : text = ""
  · subst hempty
    rw [join_empty]
    rfl
  · have hlead : ∀ way, (lead p.text.toList).foldl resolveStep way = way := by
      intro way
      rcases lead_of_relative h with hl | hl <;> rw [hl] <;> rfl
    rw [resolved, components_join p hempty h, List.foldl_append, components_eq p,
      List.foldl_append, hlead]
    rfl

/-- What stays in the current directory stays in any directory that it is put into. -/
theorem strictlyBelow_join_iff {p : Path} :
    (∀ directory : Path, (directory / p).StrictlyBelow directory) ↔ p.StrictlyBelow ⟨"."⟩ := by
  have hhere : (⟨"."⟩ : Path).resolved = [] := by decide
  constructor
  · intro h
    obtain ⟨names, hne, hbelow⟩ := h ⟨"."⟩
    refine ⟨names, hne, ?_⟩
    cases habs : p.isAbsolute with
    | true => rwa [join_absolute _ habs] at hbelow
    | false =>
      rw [resolved_join _ habs, hhere] at hbelow
      rwa [hhere]
  · rintro ⟨names, hne, hbelow⟩ directory
    rw [hhere, List.nil_append] at hbelow
    have habs : p.isAbsolute = false := by
      refine Bool.eq_false_iff.mpr fun habs => ?_
      have hroot := root_mem_resolved habs
      simp [hbelow] at hroot
    have hinside : .up ∉ p.components.foldl resolveStep (([] : List String).map .name) := by
      change .up ∉ p.resolved
      simp [hbelow]
    obtain ⟨added, hadded⟩ := foldl_inside (root_not_mem_components habs) hinside
    have hresolved : p.resolved = added.map Component.name := hadded []
    refine ⟨added, ?_, ?_⟩
    · rintro rfl
      exact hne (List.map_eq_nil_iff.mp (hbelow.symm.trans hresolved))
    · rw [resolved_join _ habs, ← hadded, List.map_nil, List.append_nil]

/-- Files side by side are below the same directories. -/
theorem StrictlyBelow.beside {p q directory : Path} {front : List Component} {a b : String}
    (hp : p.components = front ++ [.name a]) (hq : q.components = front ++ [.name b])
    (h : p.StrictlyBelow directory) : q.StrictlyBelow directory := by
  obtain ⟨names, hne, hbelow⟩ := h
  rw [resolved_concat hp] at hbelow
  obtain rfl | ⟨above, s, rfl⟩ := List.eq_nil_or_concat names
  · exact absurd rfl hne
  rw [List.concat_eq_append, List.map_append, ← List.append_assoc] at hbelow
  have hfront := (List.append_inj' hbelow rfl).1
  refine ⟨above ++ [b], by simp, ?_⟩
  rw [resolved_concat hq, hfront, List.map_append, List.append_assoc]
  rfl

theorem strictlyBelow_here {p : Path} :
    p.StrictlyBelow ⟨"."⟩ ↔
      ∃ names : List String, names ≠ [] ∧ p.resolved = names.map Component.name := by
  have hhere : (⟨"."⟩ : Path).resolved = [] := by decide
  rw [StrictlyBelow, hhere]
  rfl

/-- Of the texts without a slash, `..` alone leads out of where it stands. -/
theorem resolved_of_no_slash {s : String} (h : '/' ∉ s.toList) (hup : s ≠ "..") :
    ∃ names : List String, (⟨s⟩ : Path).resolved = names.map Component.name := by
  by_cases hempty : s = ""
  · exact ⟨[], by subst hempty; decide⟩
  by_cases hhere : s = "."
  · exact ⟨[], by subst hhere; decide⟩
  have hname : IsName s := ⟨h, hempty, hhere, hup⟩
  refine ⟨[s], ?_⟩
  rw [resolved, hname.components]
  rfl

end Path

namespace Options

open DtoGen.Path

/-- Where a file leads to from the output directory. -/
theorem resolved_subdirectory (options : Options) (model : String) {leaf name : String}
    (hleaf : Path.IsName leaf) (hname : Path.IsName name) :
    (options.subdirectory model leaf / ⟨name⟩).resolved
      = (if options.outputToNestJsResourceStructure then
          (⟨options.modelDirectory model⟩ : Path).resolved ++ [Component.name leaf] else [])
        ++ [Component.name name] := by
  unfold subdirectory
  split
  · rw [resolved, components_join_names _ hname.lead, components_join_names _ hleaf.lead,
      hname.components, hleaf.components, List.foldl_append, List.foldl_append]
    rfl
  · rw [join_empty, resolved, hname.components]
    rfl

theorem subdirectory_below_iff (options : Options) {model : String} (h : '/' ∉ model.toList)
    {leaf name : String} (hleaf : Path.IsName leaf) (hname : Path.IsName name) :
    (options.subdirectory model leaf / ⟨name⟩).StrictlyBelow ⟨"."⟩ ↔
      (options.outputToNestJsResourceStructure = true → options.modelDirectory model ≠ "..") := by
  rw [strictlyBelow_here, resolved_subdirectory options model hleaf hname]
  cases options.outputToNestJsResourceStructure with
  | false => exact ⟨nofun, fun _ => ⟨[name], by simp, rfl⟩⟩
  | true =>
    constructor
    · rintro ⟨names, _, hbelow⟩ _ hup
      have hout : Component.up ∈ (⟨".."⟩ : Path).resolved := by decide
      rw [hup, if_pos rfl] at hbelow
      have hnames := List.mem_append_left [Component.name name]
        (List.mem_append_left [Component.name leaf] hout)
      simp [hbelow] at hnames
    · intro hup
      obtain ⟨names, hnames⟩ := resolved_of_no_slash (slash_not_mem_modelDirectory h) (hup rfl)
      refine ⟨names ++ [leaf, name], by simp, ?_⟩
      rw [hnames]
      simp

end Options

namespace ModelScope

/-- Every file of the model is inside the directory that it is generated into. -/
def StaysInside (scope : ModelScope) : Prop :=
  ∀ file ∈ scope.files ⟨""⟩, file.path.StrictlyBelow ⟨"."⟩

theorem entityFile_path (scope : ModelScope) (base : Path) :
    (scope.entityFile base).path = scope.entityPath base := rfl

theorem dtoFile_path_join (scope : ModelScope) (base : Path) (kind : DtoKind) :
    (scope.dtoFile base kind).path = base / (scope.dtoFile ⟨""⟩ kind).path := by
  rw [dtoFile_path, dtoFile_path, dtoPath, dtoPath, Path.join_empty, Path.join_assoc]

theorem entityFile_path_join (scope : ModelScope) (base : Path) :
    (scope.entityFile base).path = base / (scope.entityFile ⟨""⟩).path := by
  rw [entityFile_path, entityFile_path, entityPath, entityPath, Path.join_empty, Path.join_assoc]

/-- The files of a model, but for the directory in front. -/
theorem files_path_join (scope : ModelScope) (base : Path) :
    (scope.files base).map DtoFile.path
      = (scope.files ⟨""⟩).map fun file => base / file.path := by
  unfold files
  rw [List.map_append, List.map_append]
  refine congrArg₂ (· ++ ·) ?_ ?_
  · split
    · rfl
    · rw [List.map_map, List.map_map]
      exact List.map_congr_left fun kind _ => scope.dtoFile_path_join base kind
  · exact congrArg (fun path => [path]) (scope.entityFile_path_join base)

theorem staysInside_iff {scope : ModelScope} :
    (∀ base, ∀ file ∈ scope.files base, file.path.StrictlyBelow base) ↔ scope.StaysInside := by
  have hpaths : ∀ base, (∀ file ∈ scope.files base, file.path.StrictlyBelow base) ↔
      ∀ file ∈ scope.files ⟨""⟩, (base / file.path).StrictlyBelow base := by
    intro base
    have hmap := List.forall_mem_map (l := scope.files base) (f := DtoFile.path)
      (P := fun path => path.StrictlyBelow base)
    rw [← hmap, files_path_join, List.forall_mem_map]
  simp only [hpaths]
  constructor
  · intro h file hfile
    exact Path.strictlyBelow_join_iff.mp fun base => h base file hfile
  · intro h base file hfile
    exact Path.strictlyBelow_join_iff.mpr (h file hfile) base

/-- Without a slash in the name of the model, only the directory of a model can be the wrong one. -/
theorem staysInside_of_no_slash {scope : ModelScope} (h : '/' ∉ scope.model.name.toList) :
    scope.StaysInside ↔ (scope.options.outputToNestJsResourceStructure = true →
      scope.options.modelDirectory scope.model.name ≠ "..") := by
  have hentity := Options.subdirectory_below_iff scope.options h Options.isName_entities
    (isName_extended (Options.isName_entityModule scope.options h))
  constructor
  · intro hinside
    have hbelow := hinside (scope.entityFile ⟨""⟩) (mem_files.mpr (.inr rfl))
    rw [entityFile_path, entityPath, Path.join_empty] at hbelow
    exact hentity.mp hbelow
  · intro hup file hfile
    rcases mem_files.mp hfile with ⟨_, kind, rfl⟩ | rfl
    · rw [dtoFile_path, dtoPath, Path.join_empty]
      exact (Options.subdirectory_below_iff scope.options h Options.isName_dto
        (isName_extended (Options.isName_dtoModule scope.options h kind))).mpr hup
    · rw [entityFile_path, entityPath, Path.join_empty]
      exact hentity.mpr hup

end ModelScope

namespace Plan

/-- Everything that is planned is below the directory. -/
def RootedAt (plan : Plan) (output : Path) : Prop :=
  ∀ file ∈ plan.files, file.path.StrictlyBelow output

theorem rootedAt_ofFiles {options : Options} {files : List FileSpec}
    (h : Barrels.AllModules files) (output : Path) :
    (Plan.ofFiles options DtoFile.extension files).RootedAt output ↔
      ∀ file ∈ files, file.path.StrictlyBelow output := by
  constructor
  · exact fun hrooted file hfile => hrooted file (List.mem_append_left _ hfile)
  · intro hfiles file hfile
    rcases List.mem_append.mp hfile with hfile | hbarrel
    · exact hfiles file hfile
    change file ∈ (if options.reExport then _ else []) at hbarrel
    split at hbarrel
    · rw [(Barrels.fits_ofFiles _ files).files] at hbarrel
      obtain ⟨directory, hdirectory, rfl⟩ := List.mem_map.mp hbarrel
      obtain ⟨other, hother, rfl⟩ := List.mem_map.mp (Path.firstSpellings_subset _ hdirectory)
      obtain ⟨name, hname⟩ := h other hother
      exact .beside hname.place (Barrels.place_barrelOf files other.directory)
        (hfiles other hother)
    · cases hbarrel

end Plan

namespace Schema

variable {schema : Schema} {options : Options}

def filesAt (schema : Schema) (options : Options) (output : Path) : List DtoFile :=
  schema.models.flatMap fun model => ModelScope.files ⟨options, model⟩ output

/-- What is planned for an output directory if the schema is accepted. -/
def planAt (schema : Schema) (options : Options) (output : Path) : Plan :=
  .ofFiles { options with output } DtoFile.extension
    ((schema.filesAt options output).map DtoFile.spec)

theorem planAt_rootedAt (output : Path) :
    (schema.planAt options output).RootedAt output ↔ ∀ model ∈ schema.models,
      ∀ file ∈ ModelScope.files ⟨options, model⟩ output, file.path.StrictlyBelow output := by
  have hmodules : Barrels.AllModules ((schema.filesAt options output).map DtoFile.spec) := by
    intro spec hspec
    obtain ⟨file, hfile, rfl⟩ := List.mem_map.mp hspec
    obtain ⟨model, _, hfile⟩ := List.mem_flatMap.mp hfile
    exact ModelScope.isModule_spec hfile
  rw [planAt, Plan.rootedAt_ofFiles hmodules, List.forall_mem_map, filesAt,
    List.forall_mem_flatMap]
  rfl

theorem planAt_rooted_iff :
    (∀ output, (schema.planAt options output).RootedAt output) ↔
      ∀ model ∈ schema.models, ModelScope.StaysInside ⟨options, model⟩ := by
  simp only [planAt_rootedAt, ← ModelScope.staysInside_iff]
  exact ⟨fun h model hmodel output => h output model hmodel,
    fun h output model hmodel => h model hmodel output⟩

end Schema

namespace Pipeline

/-- Generation stays in every output directory exactly if every model does. Where no name has a
slash that is to say that no nested directory is `..`; that a schema is accepted is not enough. -/
theorem plan_rooted_iff {m : Type → Type} [Monad m] [LawfulMonad m] {pipeline : Pipeline m}
    (h : pipeline.synthesizer = .dto) (options : Options) {schema : Schema}
    (hschema : schema.fault? = none) :
    ∃ planAt : Path → Plan,
      (∀ output, pipeline.plan ⟨{ options with output }, schema⟩ = pure (.ok (planAt output))) ∧
      ((∀ output, (planAt output).RootedAt output) ↔
        ∀ model ∈ schema.models, ModelScope.StaysInside ⟨options, model⟩) ∧
      ((∀ model ∈ schema.models, '/' ∉ model.name.toList) →
        ((∀ output, (planAt output).RootedAt output) ↔
          (options.outputToNestJsResourceStructure = true →
            ∀ model ∈ schema.models, options.modelDirectory model.name ≠ ".."))) := by
  refine ⟨schema.planAt options, fun output => ?_, Schema.planAt_rooted_iff,
    fun hslash => Schema.planAt_rooted_iff.trans ?_⟩
  · exact plan_of_dto h (Schema.dtoFiles_eq_ok.mpr ⟨Schema.fault?_eq_none.mp hschema, rfl⟩)
  constructor
  · intro h hnested model hmodel
    exact (ModelScope.staysInside_of_no_slash (hslash model hmodel)).mp (h model hmodel) hnested
  · intro h model hmodel
    exact (ModelScope.staysInside_of_no_slash (hslash model hmodel)).mpr fun hnested =>
      h hnested model hmodel

/-- A model that is called as the directory above. -/
def climber : Schema :=
  ⟨[⟨"..", none, [], none⟩], []⟩

def nestedOptions : Options :=
  { (default : Options) with outputToNestJsResourceStructure := true }

theorem climber_not_rooted : ∃ planAt : Path → Plan,
    (∀ output,
      plainPipeline.plan ⟨{ nestedOptions with output }, climber⟩ = pure (.ok (planAt output))) ∧
    ¬∀ output, (planAt output).RootedAt output := by
  have hup : nestedOptions.modelDirectory ".." = ".." := by decide
  have hslash : ∀ model ∈ climber.models, '/' ∉ model.name.toList := by decide
  obtain ⟨planAt, hplan, _, hspelled⟩ :=
    plan_rooted_iff (show plainPipeline.synthesizer = .dto from rfl) nestedOptions
      (show climber.fault? = none by decide)
  refine ⟨planAt, hplan, fun hrooted => ?_⟩
  exact (hspelled hslash).mp hrooted rfl _ (List.mem_singleton_self _) hup

/-- A model whose name leads out of the output directory. -/
def wanderer : Schema :=
  ⟨[⟨"../user", none, [], none⟩], []⟩

def entityOptions : Options :=
  { (default : Options) with output := ⟨"out"⟩, entitiesOnly := true }

/-- The schema is accepted, and its file is beside the output directory. -/
theorem wanderer_not_rooted : wanderer.fault? = none ∧
    ∃ plan, plainPipeline.plan ⟨entityOptions, wanderer⟩ = pure (.ok plan) ∧
      plan.files.map FileSpec.path = [⟨"out/../user.entity.ts"⟩] ∧
      ¬plan.RootedAt entityOptions.output := by
  have hfile : (⟨"out/../user.entity.ts"⟩ : Path).resolved = [.name "user.entity.ts"] := by
    decide
  have hout : (⟨"out"⟩ : Path).resolved = [.name "out"] := by decide
  refine ⟨by decide, _, rfl, rfl, fun hrooted => ?_⟩
  obtain ⟨names, _, hbelow⟩ := hrooted _ (List.mem_singleton_self _)
  have hbelow : (⟨"out/../user.entity.ts"⟩ : Path).resolved
      = (⟨"out"⟩ : Path).resolved ++ names.map Component.name := hbelow
  simp [hfile, hout] at hbelow

end Pipeline

end DtoGen

import DtoGen.Proofs.AcceptedSchema
import DtoGen.Proofs.ImportCollection
import DtoGen.Proofs.Placement

namespace DtoGen

/-- One segment of a specifier: `..` drops a component, `.` stays, and a name descends. -/
def followSegment (place : List Component) (segment : List Char) : List Component :=
  if segment = ['.'] then place
  else if segment = ['.', '.'] then place.dropLast
  else place ++ [.name (String.ofList segment)]

/-- Where a specifier leads from a directory. -/
def follow (place : List Component) (specifier : String) : List Component :=
  (Path.pieces specifier.toList).foldl followSegment place

theorem commonLength_split (start goal : List Component) :
    ∃ common before behind, start = common ++ before ∧ goal = common ++ behind ∧
      commonLength start goal = common.length := by
  induction start generalizing goal with
  | nil => exact ⟨[], [], goal, rfl, rfl, by simp [commonLength]⟩
  | cons a start ih =>
    cases goal with
    | nil => exact ⟨[], a :: start, [], rfl, rfl, by simp [commonLength]⟩
    | cons b goal =>
      by_cases hab : a = b
      · subst hab
        obtain ⟨common, before, behind, rfl, rfl, hlen⟩ := ih goal
        exact ⟨a :: common, before, behind, rfl, rfl, by simp [commonLength, hlen]⟩
      · exact ⟨[], a :: start, b :: goal, rfl, rfl, by simp [commonLength, hab]⟩

theorem foldl_up (count : Nat) (place : List Component) :
    (List.replicate count ['.', '.']).foldl followSegment place
      = place.take (place.length - count) := by
  induction count generalizing place with
  | zero => simp
  | succ count ih =>
    have hup : followSegment place ['.', '.'] = place.take (place.length - 1) := by
      rw [followSegment, if_neg (by decide), if_pos rfl, List.dropLast_eq_take]
    rw [List.replicate_succ, List.foldl_cons, hup, ih, List.take_take, List.length_take]
    congr 1
    omega

theorem foldl_names (place : List Component) {names : List String}
    (h : ∀ name ∈ names, Path.IsName name) :
    (names.map String.toList).foldl followSegment place = place ++ names.map Component.name := by
  induction names generalizing place with
  | nil => simp
  | cons name names ih =>
    have hname := h name List.mem_cons_self
    have hstep : followSegment place name.toList = place ++ [.name name] := by
      have hd : name.toList ≠ ['.'] := fun hs => hname.notHere (String.toList_inj.mp hs)
      have hu : name.toList ≠ ['.', '.'] := fun hs => hname.notUp (String.toList_inj.mp hs)
      rw [followSegment, if_neg hd, if_neg hu, String.ofList_toList]
    rw [List.map_cons, List.foldl_cons, hstep, ih _ fun n hn => h n (List.mem_cons_of_mem _ hn)]
    simp

/-- The segments between the slashes are the names that were joined. -/
theorem pieces_intercalate {names : List String} (hne : names ≠ [])
    (h : ∀ name ∈ names, '/' ∉ name.toList) :
    Path.pieces ("/".intercalate names).toList = names.map String.toList := by
  rw [String.toList_intercalate]
  refine Path.pieces_joinPieces (by simpa using hne) fun piece hp => ?_
  obtain ⟨name, hname, rfl⟩ := List.mem_map.mp hp
  exact h name hname

/-- As many steps up as there are components left, and down again by name. -/
theorem follow_steps (place : List Component) (before : List Component) {names : List String}
    (hne : names ≠ []) (h : ∀ name ∈ names, Path.IsName name) :
    follow (place ++ before) ("/".intercalate (List.replicate before.length ".." ++ names))
      = place ++ names.map Component.name := by
  have hslash : ∀ s ∈ List.replicate before.length ".." ++ names, '/' ∉ s.toList := by
    intro s hs
    rcases List.mem_append.mp hs with hs | hs
    · rw [(List.mem_replicate.mp hs).2]
      decide
    · exact (h s hs).noSlash
  have hup := foldl_up before.length (place ++ before)
  rw [List.length_append, Nat.add_sub_cancel, List.take_left] at hup
  rw [follow, pieces_intercalate (by simp [hne]) hslash, List.map_append, List.map_replicate,
    List.foldl_append]
  have hdots : "..".toList = ['.', '.'] := rfl
  rw [hdots, hup, foldl_names place h]

theorem follow_here (place : List Component) (specifier : String) :
    follow place ("./" ++ specifier) = follow place specifier := by
  have hpieces : Path.pieces ("./".toList ++ specifier.toList)
      = ['.'] :: Path.pieces specifier.toList := Path.pieces_append_slash ['.'] specifier.toList
  rw [follow, String.toList_append, hpieces, List.foldl_cons]
  rfl

/-- A specifier leads from the one directory to the module in the other, wherever the two lie. -/
theorem follow_importSpecifier (place : List Component) (source : Path) {target : Path}
    {goal : List String} {name : String} (htarget : target.components = goal.map Component.name)
    (hgoal : ∀ s ∈ goal, Path.IsName s) (hname : Path.IsName name) :
    follow (place ++ source.components) (importSpecifier source target name)
      = place ++ target.components ++ [.name name] := by
  obtain ⟨common, before, behind, hstart, hend, hlen⟩ :=
    commonLength_split source.components target.components
  have hbehind : behind = (goal.drop common.length).map Component.name := by
    rw [List.map_drop, ← htarget, hend, List.drop_left]
  have hnames : ∀ s ∈ goal.drop common.length ++ [name], Path.IsName s := by
    intro s hs
    rcases List.mem_append.mp hs with hs | hs
    · exact hgoal s (List.mem_of_mem_drop hs)
    · exact List.mem_singleton.mp hs ▸ hname
  have htext : behind.map Component.text = goal.drop common.length := by
    rw [hbehind, List.map_map]
    exact List.map_id _
  have hwalk := follow_steps (place ++ common) before (by simp) hnames
  rw [List.map_append, ← hbehind, List.append_assoc, ← hstart] at hwalk
  have hplace : place ++ common ++ (behind ++ [name].map Component.name)
      = place ++ target.components ++ [.name name] := by
    rw [hend]
    simp
  have hcount : source.components.length - common.length = before.length := by
    rw [hstart, List.length_append, Nat.add_sub_cancel_left]
  simp only [importSpecifier, hlen, hcount]
  rw [hend, List.drop_left, htext, List.append_assoc, ← hend, ← hplace, ← hwalk]
  split
  · exact follow_here _ _
  · rfl

namespace DtoFile

/-- The import arrives at a generated file, and each of its names at a class exported there. -/
def Resolves (files : List DtoFile) (file : DtoFile) (i : Import) : Prop :=
  (∃ target ∈ files, target.StandsAt (follow file.spec.directory.components i.source)) ∧
    ∀ name ∈ i.names, ∃ target ∈ files,
      target.StandsAt (follow file.spec.directory.components i.source) ∧ target.Exports name

theorem resolves_of_names {files : List DtoFile} {file : DtoFile} {i : Import}
    (hne : i.names ≠ []) (h : ∀ name ∈ i.names, ∃ target ∈ files,
      target.StandsAt (follow file.spec.directory.components i.source) ∧ target.Exports name) :
    Resolves files file i := by
  obtain ⟨name, hname⟩ := List.exists_mem_of_ne_nil _ hne
  obtain ⟨target, htarget, hstands, _⟩ := h name hname
  exact ⟨⟨target, htarget, hstands⟩, h⟩

end DtoFile

theorem TypeUse.source_of_column {field : Field} {symbol : Symbol}
    (h : symbol ∈ (TypeUse.ofColumn field).symbols) : symbol.source = prismaClient := by
  unfold TypeUse.ofColumn at h
  split at h
  · rw [List.mem_singleton.mp h]
  split at h
  · split at h
    · rw [List.mem_singleton.mp h]
    · cases h
  · cases h

namespace ModelScope

variable {scope : ModelScope} {base : Path} {i : Import} {name : String}

theorem not_relative_of_column {field : Field} {source name : String}
    (h : (⟨source, name⟩ : Symbol) ∈ (TypeUse.ofColumn field).symbols) :
    Imports.isRelative source = false := by
  have hsource : source = prismaClient := TypeUse.source_of_column h
  rw [hsource]
  decide

theorem dtoFile_names_ne_nil {kind : DtoKind} (h : i ∈ (scope.dtoFile base kind).imports) :
    i.names ≠ [] := by
  cases kind <;> exact names_ne_nil h

theorem input_relative {kind : DtoKind} {isOptionalColumn isOptionalRelation : Field → Bool}
    (hi : i ∈ (scope.inputFile base kind isOptionalColumn isOptionalRelation).imports)
    (hname : name ∈ i.names) (hrelative : Imports.isRelative i.source = true) :
    ∃ field ∈ scope.model.relations, scope.connectSymbol field.typeName = ⟨i.source, name⟩ := by
  obtain ⟨member, hm, hs⟩ := imported_iff.mp ⟨i, hi, rfl, hname⟩
  rcases List.mem_append.mp hm with hm | hm
  · obtain ⟨field, _, rfl⟩ := List.mem_map.mp hm
    rw [not_relative_of_column hs] at hrelative
    cases hrelative
  · obtain ⟨input, hinput, rfl⟩ := List.mem_map.mp hm
    obtain ⟨field, hfield, rfl⟩ := List.mem_map.mp hinput
    exact ⟨field, hfield, (List.mem_singleton.mp hs).symm⟩

/-- Input files refer to each other only through the connect class of a related model. -/
theorem dtoFile_relative {kind : DtoKind} (hi : i ∈ (scope.dtoFile base kind).imports)
    (hname : name ∈ i.names) (hrelative : Imports.isRelative i.source = true) :
    ∃ field ∈ scope.model.relations, scope.connectSymbol field.typeName = ⟨i.source, name⟩ := by
  cases kind with
  | connect =>
    obtain ⟨member, hm, hs⟩ := imported_iff.mp ⟨i, hi, rfl, hname⟩
    obtain ⟨field, _, rfl⟩ := List.mem_map.mp hm
    rw [not_relative_of_column hs] at hrelative
    cases hrelative
  | create => exact input_relative hi hname hrelative
  | update => exact input_relative hi hname hrelative

/-- Entities refer to the entities of related models. -/
theorem entityFile_relative (hi : i ∈ (scope.entityFile base).imports) (hname : name ∈ i.names)
    (hrelative : Imports.isRelative i.source = true) :
    ∃ field ∈ scope.model.relations,
      importSpecifier (scope.options.entityDirectory scope.model.name)
        (scope.options.entityDirectory field.typeName)
        (scope.options.entityModule field.typeName) = i.source ∧
      scope.options.entityClass field.typeName = name := by
  obtain ⟨member, hm, hs⟩ := imported_iff.mp ⟨i, hi, rfl, hname⟩
  obtain ⟨field, hfield, rfl⟩ := List.mem_map.mp hm
  unfold entityMember at hs
  split at hs
  · rename_i hrelation
    have hs : (⟨i.source, name⟩ : Symbol)
        ∈ (scope.entityUse field.typeName field.isList).symbols := hs
    unfold entityUse at hs
    dsimp only at hs
    split at hs
    · cases hs
    · obtain ⟨hsource, hclass⟩ := Symbol.mk.inj (List.mem_singleton.mp hs)
      exact ⟨field, List.mem_filter.mpr ⟨hfield, hrelation⟩, hsource.symm, hclass.symm⟩
  · rw [not_relative_of_column hs] at hrelative
    cases hrelative

end ModelScope

namespace Schema

variable {options : Options} {schema : Schema} {files : List DtoFile}

theorem follow_directory {model target : Model} (hm : options.PlacesModel model.name)
    (ht : options.PlacesModel target.name) {leaf name : String} (hleaf : Path.IsName leaf)
    (hname : Path.IsName name) (place : List Component) :
    follow (place ++ (options.directoryNames model.name leaf).map Component.name)
      (importSpecifier (options.subdirectory model.name leaf)
        (options.subdirectory target.name leaf) name)
      = place ++ (options.directoryNames target.name leaf).map Component.name ++ [.name name] := by
  have hsource := (Options.subdirectory_names hm hleaf).2
  have hgoal := (Options.subdirectory_names ht hleaf).2
  rw [← hsource, ← hgoal]
  exact follow_importSpecifier place _ hgoal (Options.isName_of_mem_directoryNames ht hleaf) hname

/-- Whatever the layout, the naming style and the relations, no relative import leads astray. -/
theorem imports_resolve (hfiles : schema.dtoFiles options = .ok files)
    (hplaces : ∀ model ∈ schema.models, options.PlacesModel model.name) :
    ∀ file ∈ files, ∀ i ∈ file.imports, Imports.isRelative i.source = true →
      DtoFile.Resolves files file i := by
  obtain ⟨haccepted, rfl⟩ := dtoFiles_eq_ok.mp hfiles
  intro file hfile i hi hrelative
  obtain ⟨model, hmodel, hfile⟩ := List.mem_flatMap.mp hfile
  have hm := hplaces model hmodel
  rcases ModelScope.mem_files.mp hfile with ⟨hinputs, kind, rfl⟩ | rfl
  · refine DtoFile.resolves_of_names (ModelScope.dtoFile_names_ne_nil hi) fun name hname => ?_
    obtain ⟨field, hfield, hsymbol⟩ := ModelScope.dtoFile_relative hi hname hrelative
    obtain ⟨target, htarget, htype⟩ := haccepted.relationsLead model hmodel field hfield
    obtain ⟨hsource, hclass⟩ := Symbol.mk.inj hsymbol
    have ht := hplaces target htarget
    refine ⟨ModelScope.dtoFile ⟨options, target⟩ options.output .connect,
      List.mem_flatMap.mpr ⟨target, htarget, ModelScope.mem_files.mpr
        (.inl ⟨hinputs, .connect, rfl⟩)⟩, ?_, ?_⟩
    · rw [← hsource, ← htype, ModelScope.dtoFile_directory hm]
      have hwalk := follow_directory hm ht Options.isName_dto
        (Options.isName_dtoModule options ht.noSlash .connect)
        options.output.components
      exact hwalk ▸ ModelScope.dtoFile_standsAt ht options.output .connect
    · rw [← hclass, ← htype]
      exact ModelScope.dtoFile_exports ⟨options, target⟩ options.output .connect
  · refine DtoFile.resolves_of_names (ModelScope.names_ne_nil hi) fun name hname => ?_
    obtain ⟨field, hfield, hsource, hclass⟩ := ModelScope.entityFile_relative hi hname hrelative
    obtain ⟨target, htarget, htype⟩ := haccepted.relationsLead model hmodel field hfield
    have ht := hplaces target htarget
    refine ⟨ModelScope.entityFile ⟨options, target⟩ options.output,
      List.mem_flatMap.mpr ⟨target, htarget, ModelScope.mem_files.mpr (.inr rfl)⟩, ?_, ?_⟩
    · rw [← hsource, ← htype, ModelScope.entityFile_directory hm]
      have hwalk := follow_directory hm ht Options.isName_entities
        (Options.isName_entityModule options ht.noSlash) options.output.components
      exact hwalk ▸ ModelScope.entityFile_standsAt ht options.output
    · rw [← hclass, ← htype]
      exact ModelScope.entityFile_exports ⟨options, target⟩ options.output

/-- Users and their posts, each referring to the other. -/
def blog : Schema :=
  let key : Field := { (default : Field) with
    name := "id", kind := .scalar, typeName := "Int", isRequired := true, isId := true }
  let posts : Field := { (default : Field) with
    name := "posts", kind := .relation, typeName := "Post", isRequired := true, isList := true }
  let author : Field := { (default : Field) with
    name := "author", kind := .relation, typeName := "User", isRequired := true }
  ⟨[⟨"User", none, [key, posts], none⟩, ⟨"Post", none, [key, author], none⟩], []⟩

/-- A directory for each model, with dashes in the file names. -/
def nestedOptions : Options :=
  { (default : Options) with
    output := ⟨"out"⟩, outputToNestJsResourceStructure := true, fileNamingStyle := .kebab }

theorem blog_places : ∀ model ∈ blog.models, nestedOptions.PlacesModel model.name := by
  intro model hm
  simp only [blog, List.mem_cons, List.not_mem_nil, or_false] at hm
  rcases hm with rfl | rfl <;> constructor <;> decide +kernel

theorem blog_imports_resolve : ∃ files, blog.dtoFiles nestedOptions = .ok files ∧
    (∃ file ∈ files, ∃ i ∈ file.imports, i.source = "../../post/entities/post.entity") ∧
    ∀ file ∈ files, ∀ i ∈ file.imports, Imports.isRelative i.source = true →
      DtoFile.Resolves files file i := by
  refine ⟨_, rfl, ?_, imports_resolve rfl blog_places⟩
  decide +kernel

end Schema

end DtoGen

import DtoGen.Formatter.Prettier
import DtoGen.Proofs.DenotedPlaces
import DtoGen.Proofs.Texts

namespace DtoGen

/-- A program as it is seen from outside: what it is asked, and the files as it finds them from
where it runs. Nothing comes back if it cannot be started. -/
abbrev Behaviour :=
  Invocation → FileTree → Option ProgramResult × FileTree

/-- The files, and every program that has been asked for. -/
structure Session where
  tree : FileTree
  asked : List Invocation

namespace Host

/-- A program runs in the directory of its invocation. The process stays where it is. -/
def running (behaviour : Behaviour) : Host (StateM Session) where
  kind? path session := ((session.tree.find? path).map kindOf, session)
  run invocation session :=
    let asked := session.asked ++ [invocation]
    match session.tree.enter? invocation.directory with
    | none => (none, { session with asked })
    | some inner =>
      let (result, after) := behaviour invocation inner
      let tree := { after with
        workingDirectory := session.tree.workingDirectory
        mask := session.tree.mask }
      (result, { tree, asked })

end Host

namespace Prettier

/-- A regular file, or a link to one. -/
def IsFile (tree : FileTree) (path : Path) : Prop :=
  (tree.find? path).map Host.kindOf = some .file

def NamesConfig (path : Path) : Prop :=
  ∃ behind, path.fileName? = some (".prettierrc" ++ behind)
    ∨ path.fileName? = some ("prettier.config." ++ behind)

/-- The directory that a search at a path is made in. -/
inductive SearchesIn (tree : FileTree) (path : Path) : Path → Prop
  | itself {kind : EntryKind} : (tree.find? path).map Host.kindOf = some kind → kind ≠ .file →
      SearchesIn tree path path
  | beside {parent : Path} : IsFile tree path → ¬NamesConfig path →
      path.parent? = some parent → SearchesIn tree path parent.orHere

/-- A program that has ended well and has written a text, with nothing but blanks around it. -/
structure Prints (result : ProgramResult) (text : String) : Prop where
  succeeds : result.status = .code 0
  notBlank : text ≠ ""
  core : Text.IsCore text.toList (Text.decode result.output).toList

/-- Whatever the files are by then: from the process, one path leads where another one leads from a
directory. -/
structure LeadsAlike (config directory path : Path) : Prop where
  denotes : ∀ {tree inner : FileTree}, tree.enter? (some directory) = some inner →
    ∀ place, tree.Denotes config place ↔ inner.Denotes path place
  holds : ∀ {tree inner : FileTree}, tree.enter? (some directory) = some inner →
    ∀ entry, tree.Holds config entry ↔ inner.Holds path entry

theorem leadsAlike_join (directory : Path) {text : String} (h : text ≠ "") :
    LeadsAlike (directory / ⟨text⟩) directory ⟨text⟩ :=
  ⟨fun henter _ => FileTree.denotes_join henter h, fun henter => FileTree.holds_join henter h⟩

theorem exists_append_iff {start name : String} :
    start.toList.isPrefixOf name.toList = true ↔ ∃ behind, name = start ++ behind := by
  rw [List.isPrefixOf_iff_prefix]
  constructor
  · rintro ⟨behind, h⟩
    refine ⟨String.ofList behind, ?_⟩
    rw [← String.toList_inj, String.toList_append, String.toList_ofList, h]
  · rintro ⟨behind, rfl⟩
    rw [String.toList_append]
    exact List.prefix_append _ _

theorem isConfig_iff {path : Path} : isConfig path = true ↔ NamesConfig path := by
  cases hname : path.fileName? with
  | none => simp [isConfig, NamesConfig, hname]
  | some name =>
    simp only [isConfig, NamesConfig, hname, Option.any_some, isConfigName, configNames,
      List.any_cons, List.any_nil, Bool.or_false, Bool.or_eq_true, exists_append_iff,
      Option.some.injEq, exists_or]

/-- What is found is what has been printed, seen from the process. -/
theorem found_eq_some_iff {result : ProgramResult} {directory config : Path} :
    found directory result = some config ↔
      ∃ text, Prints result text ∧ directory / ⟨text⟩ = config := by
  have htrimmed {text : String} (h : Prints result text) :
      Text.trimmed (Text.decode result.output) = text := by
    rw [Text.trimmed, h.core.trim_eq, String.ofList_toList]
  simp only [found, Option.ite_none_right_eq_some, Bool.and_eq_true, bne_iff_ne,
    Option.some.injEq]
  constructor
  · rintro ⟨⟨hsuccess, hne⟩, hconfig⟩
    refine ⟨_, ⟨eq_of_beq hsuccess, hne, ?_⟩, hconfig⟩
    rw [Text.trimmed, String.toList_ofList]
    exact Text.isCore_trim _
  · rintro ⟨text, hprints, hconfig⟩
    rw [htrimmed hprints]
    exact ⟨⟨beq_iff_eq.mpr hprints.succeeds, hprints.notBlank⟩, hconfig⟩

section Steps

variable {σ : Type} (host : Host (StateM σ)) (program : String)

/-- What becomes of the program's result. -/
def answer (directory : Path) : Option ProgramResult → Except String (Option Path)
  | none => .error (failedToRun program)
  | some result => .ok (found directory result)

theorem search_eq (directory : Path) (world : σ) :
    search host program directory world
      = (host.run (searchIn program directory) world).map (answer program directory) id := by
  unfold search
  simp only [bind, StateT.bind]
  obtain ⟨result, after⟩ := host.run (searchIn program directory) world
  cases result <;> rfl

/-- What is done about a path, once it is known what it leads to. -/
def resolveAs (path : Path) (world : σ) : Option EntryKind → Except String (Option Path) × σ
  | none => (.error ("cannot access '" ++ path.text ++ "'"), world)
  | some .directory | some .other => search host program path world
  | some .file =>
    if isConfig path then (.ok (some path), world)
    else search host program (directoryOf path) world

theorem resolveConfig_eq {path : Path} {world : σ} {kind : Option EntryKind}
    (hkind : host.kind? path world = (kind, world)) :
    resolveConfig host program path world = resolveAs host program path world kind := by
  unfold resolveConfig resolveAs
  simp only [bind, StateT.bind, hkind]
  split
  · rfl
  · rfl
  · rfl
  · split <;> rfl

end Steps

section Search

variable {behaviour : Behaviour} {program : String} {path directory : Path}
  {session : Session}

theorem kind?_running (behaviour : Behaviour) (path : Path) (session : Session) :
    (Host.running behaviour).kind? path session
      = ((session.tree.find? path).map Host.kindOf, session) :=
  rfl

theorem resolveConfig_of_config (hfile : IsFile session.tree path) (hname : NamesConfig path) :
    resolveConfig (.running behaviour) program path session = (.ok (some path), session) := by
  rw [resolveConfig_eq _ _ (kind?_running behaviour path session), hfile, resolveAs,
    if_pos (isConfig_iff.mpr hname)]

theorem resolveConfig_of_searches (h : SearchesIn session.tree path directory) :
    resolveConfig (.running behaviour) program path session
      = search (.running behaviour) program directory session := by
  rw [resolveConfig_eq _ _ (kind?_running behaviour path session)]
  cases h with
  | @itself kind hkind hother =>
    rw [hkind]
    cases kind with
    | directory => rfl
    | other => rfl
    | file => exact absurd rfl hother
  | @beside parent hfile hname hparent =>
    rw [hfile, resolveAs, if_neg (mt isConfig_iff.mp hname), directoryOf, hparent]
    rfl

theorem exists_parent_of_file (h : IsFile session.tree path) :
    ∃ parent, path.parent? = some parent ∧
      session.tree.find? parent.orHere = some .directory := by
  obtain ⟨entry, hfound, hkind⟩ := Option.map_eq_some_iff.mp h
  refine FileTree.find?_parent hfound ?_
  cases entry with
  | directory => cases hkind
  | _ => rfl

theorem asked_run (behaviour : Behaviour) (invocation : Invocation) (session : Session) :
    ((Host.running behaviour).run invocation session).2.asked = session.asked ++ [invocation] := by
  unfold Host.running
  dsimp only
  split <;> rfl

theorem search_asks (behaviour : Behaviour) (program : String) (directory : Path)
    (session : Session) : (search (.running behaviour) program directory session).2.asked
      = session.asked ++ [searchIn program directory] := by
  rw [search_eq]
  exact asked_run _ _ _

/-- A search is made, or nothing is asked at all. -/
theorem searches_or_quiet (behaviour : Behaviour) (program : String) (path : Path)
    (session : Session) : (∃ directory, SearchesIn session.tree path directory) ∨
      (resolveConfig (.running behaviour) program path session).2 = session := by
  cases hkind : (session.tree.find? path).map Host.kindOf with
  | none =>
    rw [resolveConfig_eq _ _ (kind?_running behaviour path session), hkind]
    exact .inr rfl
  | some kind =>
    by_cases hother : kind = .file
    · subst hother
      by_cases hname : NamesConfig path
      · rw [resolveConfig_of_config hkind hname]
        exact .inr rfl
      · obtain ⟨parent, hparent, _⟩ := exists_parent_of_file hkind
        exact .inl ⟨_, .beside hkind hname hparent⟩
    · exact .inl ⟨path, .itself hkind hother⟩

/-- The program is asked once at most, and where the search is made. -/
theorem searchesIn_of_asked
    (h : (resolveConfig (.running behaviour) program path session).2.asked
      = session.asked ++ [searchIn program directory]) :
    SearchesIn session.tree path directory := by
  rcases searches_or_quiet behaviour program path session with ⟨other, hother⟩ | hquiet
  · rw [resolveConfig_of_searches hother, search_asks, List.append_cancel_left_eq] at h
    obtain rfl : other = directory := by simpa [searchIn] using h
    exact hother
  · rw [hquiet] at h
    simp at h

theorem search_of_result {inner after : FileTree} {result : ProgramResult}
    (henter : session.tree.enter? (some directory) = some inner)
    (hrun : behaviour (searchIn program directory) inner = (some result, after)) :
    (search (.running behaviour) program directory session).1 = .ok (found directory result) := by
  have hresult : ((Host.running behaviour).run (searchIn program directory) session).1
      = some result := by
    simp only [Host.running, searchIn, henter] at hrun ⊢
    rw [hrun]
  rw [search_eq, Prod.map_fst, hresult, answer]

end Search

/-- What the search for a configuration comes to. -/
structure Resolves (behaviour : Behaviour) (program : String) (path : Path) (session : Session)
    (outcome : Except String (Option Path) × Session) : Prop where
  /-- A file that is a configuration is the answer, and no program is asked. -/
  named : IsFile session.tree path → NamesConfig path → outcome = (.ok (some path), session)
  /-- Any other file stands for the directory that it is in. -/
  beside : IsFile session.tree path → ¬NamesConfig path → ∃ parent, path.parent? = some parent ∧
    outcome = resolveConfig (.running behaviour) program parent.orHere session
  /-- The program is asked in that directory, or in the one that the path leads to itself. -/
  asks : ∀ directory, outcome.2.asked = session.asked ++ [searchIn program directory] ↔
    SearchesIn session.tree path directory
  /-- The answer means for the process what was printed where the program ran. -/
  answered : ∀ {directory : Path} {inner after : FileTree} {result : ProgramResult} {text : String},
    outcome.2.asked = session.asked ++ [searchIn program directory] →
    session.tree.enter? (some directory) = some inner →
    behaviour (searchIn program directory) inner = (some result, after) → Prints result text →
    ∃ config, outcome.1 = .ok (some config) ∧ LeadsAlike config directory ⟨text⟩
  /-- Where no path was printed, none is found. -/
  unanswered : ∀ {directory : Path} {inner after : FileTree} {result : ProgramResult},
    outcome.2.asked = session.asked ++ [searchIn program directory] →
    session.tree.enter? (some directory) = some inner →
    behaviour (searchIn program directory) inner = (some result, after) →
    (∀ text, ¬Prints result text) → outcome.1 = .ok none

theorem resolves (behaviour : Behaviour) (program : String) (path : Path) (session : Session) :
    Resolves behaviour program path session
      (resolveConfig (.running behaviour) program path session) where
  named := resolveConfig_of_config
  beside hfile hname := by
    obtain ⟨parent, hparent, hdirectory⟩ := exists_parent_of_file hfile
    refine ⟨parent, hparent, ?_⟩
    have hitself : SearchesIn session.tree parent.orHere parent.orHere :=
      .itself (congrArg (Option.map Host.kindOf) hdirectory) (by decide)
    rw [resolveConfig_of_searches hitself]
    exact resolveConfig_of_searches (.beside hfile hname hparent)
  asks directory := by
    refine ⟨searchesIn_of_asked, fun h => ?_⟩
    rw [resolveConfig_of_searches h, search_asks]
  answered {directory _ _ result text} hasked henter hrun hprints := by
    have hfound : found directory result = some (directory / ⟨text⟩) :=
      found_eq_some_iff.mpr ⟨text, hprints, rfl⟩
    refine ⟨_, ?_, leadsAlike_join directory hprints.notBlank⟩
    rw [resolveConfig_of_searches (searchesIn_of_asked hasked), search_of_result henter hrun,
      hfound]
  unanswered {directory _ _ result} hasked henter hrun hsilent := by
    have hfound : found directory result = none := by
      refine Option.eq_none_iff_forall_ne_some.mpr fun config hconfig => ?_
      obtain ⟨text, hprints, _⟩ := found_eq_some_iff.mp hconfig
      exact hsilent text hprints
    rw [resolveConfig_of_searches (searchesIn_of_asked hasked), search_of_result henter hrun,
      hfound]

end Prettier

end DtoGen

import DtoGen.Proofs.PathComponents
import DtoGen.Proofs.StageOrder
import DtoGen.Proofs.WrittenTexts

namespace DtoGen

namespace GenerationInput

def toPreview (input : GenerationInput) : GenerationInput :=
  { input with isDryRun := true }

def toRun (input : GenerationInput) : GenerationInput :=
  { input with isDryRun := false }

theorem request_toPreview (input : GenerationInput) (env : Environment) :
    input.toPreview.request env = input.request env := rfl

theorem request_toRun (input : GenerationInput) (env : Environment) :
    input.toRun.request env = input.request env := rfl

end GenerationInput

namespace Pipeline

variable {σ : Type} {pipeline : Pipeline (StateM σ)} {env : Environment} {schedule : List Nat}
  {input : GenerationInput} {request : Request} {world now : σ}

theorem preview_traced (calls : List Call) :
    pipeline.traced.preview request calls world
      = (((pipeline.preview request world).1, calls ++ [.synthesize]),
        (pipeline.preview request world).2) := by
  have hnoted := plan_traced pipeline request calls world
  rcases hplan : pipeline.plan request world with ⟨planned, now⟩
  rw [hplan] at hnoted
  unfold preview
  rw [bind_of_eq hplan, Traced.bind_of_eq hnoted]
  cases planned <;> rfl

/-- The summary of a result. -/
def summary (input : GenerationInput) (request : Request) (result : GenerationResult) :
    GenerationSummary :=
  ⟨request.options.output, input.warnings, result⟩

theorem generate_of_refused {error : GenerationError} (h : input.request env = .error error)
    (pipeline : Pipeline (StateM σ)) (schedule : List Nat) (world : σ) :
    pipeline.generate env schedule input world = (.error error, world) ∧
      pipeline.traced.generate env schedule input [] world = ((.error error, []), world) := by
  unfold generate
  rw [h]
  exact ⟨rfl, rfl⟩

theorem generate_of_result {answer : Except GenerationError GenerationResult}
    (hrequest : input.request env = .ok request)
    (h : pipeline.result schedule input.isDryRun request world = (answer, now)) :
    pipeline.generate env schedule input world = (answer.map (summary input request), now) := by
  unfold generate
  rw [hrequest]
  dsimp only
  rw [bind_of_eq h]
  cases answer <;> rfl

theorem traced_generate_of_result {answer : Except GenerationError GenerationResult}
    {calls : List Call} (hrequest : input.request env = .ok request)
    (h : pipeline.traced.result schedule input.isDryRun request [] world = ((answer, calls), now)) :
    pipeline.traced.generate env schedule input [] world
      = ((answer.map (summary input request), calls), now) := by
  unfold generate
  rw [hrequest]
  dsimp only
  rw [Traced.bind_of_eq h]
  cases answer <;> rfl

/-- Without a plan there is nothing to show and nothing to write. -/
theorem result_of_unplanned {error : GenerationError}
    (h : pipeline.plan request world = (.error error, now)) (schedule : List Nat)
    (isDryRun : Bool) :
    pipeline.result schedule isDryRun request world = (.error error, now) ∧
      pipeline.traced.result schedule isDryRun request [] world
        = ((.error error, [.synthesize]), now) := by
  have hnoted := plan_traced pipeline request [] world
  rw [h, List.nil_append] at hnoted
  have hrun : pipeline.run schedule request world = (.error error, now) := by
    unfold run
    rw [bind_of_eq h]
    rfl
  have htraced : pipeline.traced.run schedule request [] world
      = ((.error error, [.synthesize]), now) := by
    unfold run
    rw [Traced.bind_of_eq hnoted]
    rfl
  unfold result
  cases isDryRun with
  | true =>
    rw [if_pos rfl, if_pos rfl, preview_traced, preview_eq, h]
    exact ⟨rfl, rfl⟩
  | false =>
    rw [if_neg Bool.false_ne_true, if_neg Bool.false_ne_true, bind_of_eq hrun,
      Traced.bind_of_eq htraced]
    exact ⟨rfl, rfl⟩

/-- What a run has done that went well. -/
theorem run_ok {report : GenerationReport}
    (h : (pipeline.run schedule request world).1 = .ok report) :
    ∃ plan now formatting look later written,
      pipeline.plan request world = (.ok plan, now) ∧
      Resolution pipeline request.options now (.ok formatting) look later ∧
      Writing.run pipeline.disk formatting schedule plan.files later
        = (.ok written, (pipeline.run schedule request world).2) ∧
      report = Pipeline.report plan formatting written := by
  rcases hplan : pipeline.plan request world with ⟨planned, now⟩
  unfold run at h ⊢
  rw [bind_of_eq hplan] at h ⊢
  cases planned with
  | error error => cases h
  | ok plan =>
    obtain ⟨look, hlook, _⟩ := resolution pipeline request.options [] now
    rcases hresolve : pipeline.resolveFormatting request.options now with ⟨answer, later⟩
    rw [hresolve] at hlook
    dsimp only at h ⊢
    rw [bind_of_eq hresolve] at h ⊢
    cases answer with
    | error error => cases h
    | ok formatting =>
      rcases hrun : Writing.run pipeline.disk formatting schedule plan.files later with
        ⟨outcome, last⟩
      unfold write at h ⊢
      dsimp only at h ⊢
      rw [bind_of_eq hrun] at h ⊢
      cases outcome with
      | error error => cases h
      | ok written =>
        exact ⟨plan, now, formatting, look, later, written, rfl, hlook, hrun,
          (Except.ok.inj h).symm⟩

/-- The report lists the files of a preview. -/
structure Reports (files : List FileSpec) (report : GenerationReport) : Prop where
  paths : report.written.Perm (files.map (·.path))
  inOrder : report.written.Pairwise fun p q => (p.compareTo q).isLE = true
  total : report.total = files.length
  parts : report.total = report.synthesized + report.barrels

/-- The world holds a file tree that only the disk changes. -/
structure HoldsTree (pipeline : Pipeline (StateM σ)) (tree : σ → FileTree) : Prop where
  disk : pipeline.disk.ActsOn tree
  spares : Spares pipeline tree
  format : ∀ source path config world,
    tree (pipeline.formatter.format source path config world).2 = tree world

/-- What is left in the tree of the files of a preview. -/
structure Leaves (pipeline : Pipeline (StateM σ)) (options : Options) (report : GenerationReport)
    (files : List FileSpec) (before after : FileTree) : Prop where
  frame : before.SameFrame after
  led : ∀ file ∈ files, ∃ place, after.locate? file.path = some place
  verbatim : options.usePrettier = false → (files.map fun file => after.fileOf? file.path).Nodup →
    ∀ file ∈ files, Writing.Reads before after file.path file.content
  formatted : options.usePrettier = true → (files.map fun file => after.fileOf? file.path).Nodup →
    ∀ file ∈ files, ∃ text,
      (∃ w, (pipeline.formatter.format file.content file.path report.formatterConfig w).1
        = .ok text) ∧ Writing.Reads before after file.path text
  untouched : ∀ place, (∀ file ∈ files, after.fileOf? file.path ≠ some (after.identity place)) →
    before.Keeps after place

/-- A preview asks the synthesizer at most, and changes only what that changes. -/
structure OnlyAsks (pipeline : Pipeline (StateM σ)) (env : Environment) (input : GenerationInput)
    (world : σ) : Prop where
  calls : ∃ calls, pipeline.traced.generate env [] input.toPreview [] world
      = (((pipeline.generate env [] input.toPreview world).1, calls),
        (pipeline.generate env [] input.toPreview world).2) ∧
    (calls = [] ∨ calls = [.synthesize])
  spared : ∀ (κ : Type) (view : σ → κ),
    (∀ options schema w, view (pipeline.synthesizer.synthesize options schema w).2 = view w) →
      view (pipeline.generate env [] input.toPreview world).2 = view world

theorem generate_toPreview (hrequest : input.request env = .ok request)
    (pipeline : Pipeline (StateM σ)) (world : σ) :
    pipeline.generate env [] input.toPreview world
      = ((pipeline.preview request world).1.map (summary input request),
        (pipeline.preview request world).2) := by
  have hresult : pipeline.result [] input.toPreview.isDryRun request world
      = pipeline.preview request world := by
    rw [result, if_pos (show input.toPreview.isDryRun = true from rfl)]
  exact generate_of_result ((input.request_toPreview env).trans hrequest) hresult

theorem generate_toRun (hrequest : input.request env = .ok request)
    (pipeline : Pipeline (StateM σ)) (schedule : List Nat) (world : σ) :
    pipeline.generate env schedule input.toRun world
      = ((pipeline.run schedule request world).1.map fun report =>
          summary input request (.written report),
        (pipeline.run schedule request world).2) := by
  rcases hrun : pipeline.run schedule request world with ⟨answer, last⟩
  have hresult : pipeline.result schedule input.toRun.isDryRun request world
      = (answer.map .written, last) := by
    rw [result, if_neg (show ¬input.toRun.isDryRun = true from Bool.false_ne_true),
      bind_of_eq hrun]
    cases answer <;> rfl
  rw [generate_of_result ((input.request_toRun env).trans hrequest) hresult]
  cases answer <;> rfl

theorem onlyAsks (pipeline : Pipeline (StateM σ)) (env : Environment) (input : GenerationInput)
    (world : σ) : OnlyAsks pipeline env input world := by
  cases hrequest : input.request env with
  | error error =>
    rw [← input.request_toPreview env] at hrequest
    obtain ⟨hplain, htraced⟩ := generate_of_refused hrequest pipeline [] world
    constructor
    · rw [hplain, htraced]
      exact ⟨[], rfl, .inl rfl⟩
    · intro κ view _
      rw [hplain]
  | ok request =>
    have hresult : pipeline.traced.result [] input.toPreview.isDryRun request [] world
        = (((pipeline.preview request world).1, [.synthesize]),
          (pipeline.preview request world).2) := by
      rw [result, if_pos (show input.toPreview.isDryRun = true from rfl), preview_traced,
        List.nil_append]
    have hgenerate := generate_toPreview hrequest pipeline world
    have hnoted :=
      traced_generate_of_result ((input.request_toPreview env).trans hrequest) hresult
    constructor
    · rw [hgenerate, hnoted]
      exact ⟨_, rfl, .inr rfl⟩
    · intro κ view hview
      rw [hgenerate, preview_eq]
      exact plan_spared hview request world

/-- A run without a plan is its preview. -/
theorem run_of_preview_error {error : GenerationError}
    (h : (pipeline.generate env [] input.toPreview world).1 = .error error) :
    pipeline.generate env schedule input.toRun world
        = pipeline.generate env [] input.toPreview world ∧
      pipeline.traced.generate env schedule input.toRun [] world
        = pipeline.traced.generate env [] input.toPreview [] world := by
  cases hrequest : input.request env with
  | error other =>
    obtain ⟨hplain, htraced⟩ :=
      generate_of_refused ((input.request_toPreview env).trans hrequest) pipeline [] world
    obtain ⟨hplain', htraced'⟩ :=
      generate_of_refused ((input.request_toRun env).trans hrequest) pipeline schedule world
    rw [hplain, hplain', htraced, htraced']
    exact ⟨rfl, rfl⟩
  | ok request =>
    rcases hplan : pipeline.plan request world with ⟨planned, now⟩
    cases planned with
    | ok plan =>
      rw [generate_toPreview hrequest, preview_eq, hplan] at h
      cases h
    | error failure =>
      have hgenerate : ∀ (asked : GenerationInput) schedule,
          asked.request env = .ok request →
          pipeline.generate env schedule asked world = (.error failure, now) ∧
            pipeline.traced.generate env schedule asked [] world
              = ((.error failure, [.synthesize]), now) := by
        intro asked schedule hasked
        obtain ⟨hresult, hnoted⟩ := result_of_unplanned hplan schedule asked.isDryRun
        exact ⟨generate_of_result hasked hresult, traced_generate_of_result hasked hnoted⟩
      obtain ⟨hplain, htraced⟩ := hgenerate input.toPreview [] hrequest
      obtain ⟨hplain', htraced'⟩ := hgenerate input.toRun schedule hrequest
      rw [hplain, hplain', htraced, htraced']
      exact ⟨rfl, rfl⟩

theorem reports_of_run {plan : Plan} (formatting : Option (Formatting (StateM σ)))
    {written : List Path} (h : written = plan.files.map (·.path)) :
    Reports plan.files (Pipeline.report plan formatting written) := by
  have hperm : (Path.sorted written).Perm (plan.files.map (·.path)) :=
    h ▸ Path.sorted_perm written
  have htotal : (Path.sorted written).length = plan.files.length :=
    hperm.length_eq.trans (List.length_map _)
  refine ⟨hperm, Path.sorted_pairwise written, htotal, ?_⟩
  change (Path.sorted written).length = plan.synthesized.length + plan.barrels.length
  rw [htotal, Plan.files, List.length_append]

theorem HoldsTree.formatting {tree : σ → FileTree} (h : HoldsTree pipeline tree)
    {options : Options} {formatting : Option (Formatting (StateM σ))} {look : List Call}
    {later : σ} (hlook : Resolution pipeline options world (.ok formatting) look later) :
    Formatting.Spares formatting tree := by
  intro file w
  cases hlook with
  | unasked hoff => rfl
  | found hon hstart hanswer => exact h.format _ _ _ w

/-- The stages in front of the writing leave the tree alone. -/
theorem HoldsTree.tree_eq {tree : σ → FileTree} (h : HoldsTree pipeline tree)
    {planned : Except GenerationError Plan}
    {answer : Except GenerationError (Option (Formatting (StateM σ)))} {look : List Call}
    {later : σ} (hplan : pipeline.plan request world = (planned, now))
    (hlook : Resolution pipeline request.options now answer look later) :
    tree later = tree world := by
  have hplanned := plan_spared h.spares.synthesize request world
  rw [hplan] at hplanned
  exact (h.spares.resolution hlook).trans hplanned

/-- What a run leaves that goes well. -/
theorem leaves_of_run {tree : σ → FileTree} (h : HoldsTree pipeline tree) {plan : Plan}
    {formatting : Option (Formatting (StateM σ))} {look : List Call} {later : σ}
    {written : List Path} (hplan : pipeline.plan request world = (.ok plan, now))
    (hlook : Resolution pipeline request.options now (.ok formatting) look later)
    (hrun : (Writing.run pipeline.disk formatting schedule plan.files later).1 = .ok written) :
    Leaves pipeline request.options (Pipeline.report plan formatting written) plan.files
      (tree world) (tree (Writing.run pipeline.disk formatting schedule plan.files later).2) := by
  have hleft := Writing.run_leaves h.disk (h.formatting hlook) hrun
  rw [h.tree_eq hplan hlook] at hleft
  refine ⟨hleft.frame, hleft.led, fun hoff hapart file hfile => ?_,
    fun hon hapart file hfile => ?_, hleft.untouched⟩
  · obtain ⟨text, hanswer, hreads⟩ := hleft.reads hapart file hfile
    cases hlook with
    | unasked _ =>
      obtain ⟨w, hw⟩ := hanswer
      obtain rfl := Except.ok.inj hw
      exact hreads
    | found hon => simp [hoff] at hon
  · obtain ⟨text, hanswer, hreads⟩ := hleft.reads hapart file hfile
    cases hlook with
    | unasked hoff => simp [hoff] at hon
    | found => exact ⟨text, hanswer, hreads⟩

/-- A preview asks the synthesizer at most. If it fails, so does the run, with the same calls and
the same world; if both go well, the run reports and leaves what the preview has shown. -/
theorem preview_tells_run (pipeline : Pipeline (StateM σ)) (env : Environment)
    (schedule : List Nat) (input : GenerationInput) (world : σ) :
    OnlyAsks pipeline env input world ∧
    (∀ error, (pipeline.generate env [] input.toPreview world).1 = .error error →
      pipeline.generate env schedule input.toRun world
          = pipeline.generate env [] input.toPreview world ∧
        pipeline.traced.generate env schedule input.toRun [] world
          = pipeline.traced.generate env [] input.toPreview [] world) ∧
    (∀ shown done, (pipeline.generate env [] input.toPreview world).1 = .ok shown →
      (pipeline.generate env schedule input.toRun world).1 = .ok done →
      shown.output = done.output ∧ shown.warnings = done.warnings ∧
      ∃ request files report, input.request env = .ok request ∧
        shown.result = .preview files ∧ done.result = .written report ∧ Reports files report ∧
        ∀ tree, HoldsTree pipeline tree → Leaves pipeline request.options report files (tree world)
          (tree (pipeline.generate env schedule input.toRun world).2)) := by
  refine ⟨onlyAsks pipeline env input world, fun error => run_of_preview_error,
    fun shown done hshown hdone => ?_⟩
  cases hrequest : input.request env with
  | error error =>
    rw [(generate_of_refused ((input.request_toRun env).trans hrequest) pipeline schedule world).1]
      at hdone
    cases hdone
  | ok request =>
    rw [generate_toPreview hrequest, preview_eq] at hshown
    rw [generate_toRun hrequest] at hdone ⊢
    cases hanswer : (pipeline.run schedule request world).1 with
    | error error =>
      rw [hanswer] at hdone
      cases hdone
    | ok report =>
      obtain ⟨plan, now, formatting, look, later, written, hplan, hlook, hrun, rfl⟩ :=
        run_ok hanswer
      rw [hplan] at hshown
      rw [hanswer] at hdone
      obtain rfl := Except.ok.inj hshown
      obtain rfl := Except.ok.inj hdone
      obtain ⟨_, _, hpaths, _⟩ := Writing.run_ok (congrArg Prod.fst hrun)
      refine ⟨rfl, rfl, request, plan.files, _, rfl, rfl, rfl, reports_of_run formatting hpaths,
        fun tree htree => ?_⟩
      have hleaves := leaves_of_run htree hplan hlook (congrArg Prod.fst hrun)
      rwa [hrun] at hleaves

/-- An empty working directory. -/
def workTree : FileTree :=
  ⟨[([["work"]], .directory), ([["dev"]], .directory), ([["dev", "null"]], .device .null)],
    ["work"], 0o022, [], true⟩

/-- Asks for a generation with the options as they are by default. -/
def plainInput : GenerationInput :=
  ⟨⟨[]⟩, "out", ⟨[], []⟩, false⟩

theorem capitals_holdsTree : HoldsTree capitals id :=
  ⟨Disk.ofFileTree_actsOn, ⟨fun _ _ _ => rfl, fun _ => rfl, fun _ _ => rfl⟩, fun _ _ _ _ => rfl⟩

theorem capitals_previewed :
    let shownFiles : List FileSpec := [⟨⟨"out/a.ts"⟩, "a"⟩, ⟨⟨"out/b.ts"⟩, "b"⟩]
    let after := (capitals.generate .empty [1, 0] plainInput.toRun workTree).2
    (capitals.generate .empty [] plainInput.toPreview workTree).1
      = .ok ⟨⟨"out"⟩, [], .preview shownFiles⟩ ∧
    (shownFiles.map fun file => after.fileOf? file.path).Nodup ∧
    ∃ done request report,
      (capitals.generate .empty [1, 0] plainInput.toRun workTree).1 = .ok done ∧
      plainInput.request .empty = .ok request ∧ done.result = .written report ∧
      Reports shownFiles report ∧ HoldsTree capitals id ∧
      Leaves capitals request.options report shownFiles workTree after := by
  intro shownFiles after
  have hshown : (capitals.generate .empty [] plainInput.toPreview workTree).1
      = .ok ⟨⟨"out"⟩, [], .preview shownFiles⟩ := by
    decide +kernel
  have happart : (shownFiles.map fun file => after.fileOf? file.path).Nodup := by
    decide +kernel
  have hok : (capitals.generate .empty [1, 0] plainInput.toRun workTree).1.toBool = true := by
    decide +kernel
  refine ⟨hshown, happart, ?_⟩
  cases hdone : (capitals.generate .empty [1, 0] plainInput.toRun workTree).1 with
  | error error =>
    rw [hdone] at hok
    cases hok
  | ok done =>
    obtain ⟨_, _, hboth⟩ := preview_tells_run capitals .empty [1, 0] plainInput workTree
    obtain ⟨_, _, request, files, report, hrequest, hfiles, hreport, hreports, hleaves⟩ :=
      hboth _ done hshown hdone
    obtain rfl : shownFiles = files := GenerationResult.preview.inj hfiles
    exact ⟨done, request, report, rfl, hrequest, hreport, hreports, capitals_holdsTree,
      hleaves id capitals_holdsTree⟩

/-- Formats one file, and keeps a log beside it. -/
def logging : Pipeline (StateM FileTree) where
  synthesizer := .fixed [⟨⟨"a.ts"⟩, "a"⟩]
  formatter.resolveConfig _ := pure (.ok none)
  formatter.format text _ _ tree := (.ok text, (tree.appendBytes ⟨"log.txt"⟩ "x\n".toUTF8).2)
  disk := .ofFileTree
  workingDirectory := pure (.ok ⟨"."⟩)

/-- Writes one file, to a device. -/
def swallowed : Pipeline (StateM FileTree) :=
  { capitals with synthesizer := .fixed [⟨⟨"/dev/null"⟩, "x"⟩] }

/-- Asks for files as they are. -/
def verbatimInput : GenerationInput :=
  ⟨⟨[("usePrettier", "false")]⟩, "out", ⟨[], []⟩, false⟩

/-- A file with three names. -/
def mirroredTree : FileTree :=
  ⟨[([["work"]], .directory), ([["work", "out"]], .directory),
    ([["work", "out", "a.ts"], ["work", "out", "b.ts"], ["work", "kept.ts"]],
      .file "old".toUTF8 0o644)], ["work"], 0o022, [], true⟩

/-- A formatter can change what no preview shows, a device keeps nothing of what was shown, and a
file keeps what has been written to it last, under names that no preview shows as well. -/
theorem preview_hides_log_device_and_names :
    let logged := (logging.generate .empty [] plainInput.toRun workTree).2
    let dropped := (swallowed.generate .empty [] verbatimInput.toRun workTree).2
    let mirrored := (capitals.generate .empty [] verbatimInput.toRun mirroredTree).2
    ((logging.generate .empty [] plainInput.toPreview workTree).1
        = .ok ⟨⟨"out"⟩, [], .preview [⟨⟨"out/a.ts"⟩, "a"⟩]⟩ ∧
      (logging.generate .empty [] plainInput.toRun workTree).1.toBool = true ∧
      logged.locate? ⟨"out/a.ts"⟩ = some ["work", "out", "a.ts"] ∧
      workTree.readText? ⟨"log.txt"⟩ = none ∧ logged.readText? ⟨"log.txt"⟩ = some "x\n") ∧
    ((swallowed.generate .empty [] verbatimInput.toPreview workTree).1
        = .ok ⟨⟨"out"⟩, [], .preview [⟨⟨"/dev/null"⟩, "x"⟩]⟩ ∧
      (swallowed.generate .empty [] verbatimInput.toRun workTree).1.toBool = true ∧
      dropped.readText? ⟨"/dev/null"⟩ = some "") ∧
    ((capitals.generate .empty [] verbatimInput.toPreview mirroredTree).1
        = .ok ⟨⟨"out"⟩, [], .preview [⟨⟨"out/a.ts"⟩, "a"⟩, ⟨⟨"out/b.ts"⟩, "b"⟩]⟩ ∧
      (capitals.generate .empty [] verbatimInput.toRun mirroredTree).1.toBool = true ∧
      mirrored.locate? ⟨"out/a.ts"⟩ ≠ mirrored.locate? ⟨"out/b.ts"⟩ ∧
      mirrored.readText? ⟨"out/a.ts"⟩ = some "b" ∧ mirrored.readText? ⟨"kept.ts"⟩ = some "b") := by
  decide +kernel

end Pipeline

end DtoGen

import DtoGen.Command.Generate
import DtoGen.Proofs.CallTrace

namespace DtoGen

namespace Pipeline

variable {σ : Type}

/-- The look-up of the formatter's configuration: where it starts when the files are planned, and
what it answers there. -/
inductive LookedUp (pipeline : Pipeline (StateM σ)) (request : Request) (world : σ) :
    Plan → Path → Except String (Option Path) → Prop
  | named {plan : Plan} {start : Path} {now : σ}
    (hplan : pipeline.plan request world = (.ok plan, now))
    (hnamed : request.options.prettierConfig = some start) :
    LookedUp pipeline request world plan start (pipeline.formatter.resolveConfig start now).1
  | here {plan : Plan} {start : Path} {now later : σ}
    (hplan : pipeline.plan request world = (.ok plan, now))
    (hnamed : request.options.prettierConfig = none)
    (hhere : pipeline.workingDirectory now = (.ok start, later)) :
    LookedUp pipeline request world plan start (pipeline.formatter.resolveConfig start later).1

/-- What is left alone by the parts that a run asks before it writes. -/
structure Spares {κ : Type} (pipeline : Pipeline (StateM σ)) (view : σ → κ) : Prop where
  synthesize : ∀ options schema world,
    view (pipeline.synthesizer.synthesize options schema world).2 = view world
  workingDirectory : ∀ world, view (pipeline.workingDirectory world).2 = view world
  resolveConfig : ∀ path world, view (pipeline.formatter.resolveConfig path world).2 = view world

/-- What the calls of a run say about the order of its stages, and what a run that ends early has
left alone. -/
structure InOrder (pipeline : Pipeline (StateM σ)) (request : Request) (world : σ)
    (answer : Except GenerationError GenerationReport) (calls : List Call) (after : σ) : Prop where
  synthesizedOnce : calls.count .synthesize = 1
  unformatted : request.options.usePrettier = false →
    ∀ call ∈ calls, call.resolvedFrom? = none ∧ call.isFormat = false
  resolvedAtMostOnce : (calls.filterMap Call.resolvedFrom?).length ≤ 1
  /-- The look-up comes right behind the synthesis, and so before all work on files. -/
  resolved : ∀ start, .resolveConfig start ∈ calls → ∃ plan found behind,
    calls = .synthesize :: .resolveConfig start :: behind ∧
      LookedUp pipeline request world plan start found
  formatted : calls.filter Call.isFormat ≠ [] → ∃ plan start config,
    .resolveConfig start ∈ calls ∧ LookedUp pipeline request world plan start (.ok config) ∧
      (calls.filter Call.isFormat).Subperm (plan.files.map fun file => .format file.path config)
  formattedAll : ∀ report, answer = .ok report → request.options.usePrettier = true →
    ∃ plan start config,
      .resolveConfig start ∈ calls ∧ LookedUp pipeline request world plan start (.ok config) ∧
        (calls.filter Call.isFormat).Perm (plan.files.map fun file => .format file.path config)
  untouched : ∀ error, answer = .error error →
    ((∃ reason, error = .synthesis reason) ∨ ∃ path reason, error = .formatterConfig path reason) →
      (∀ call ∈ calls, call.touchesDisk = false) ∧
      ∀ (κ : Type) (view : σ → κ), Spares pipeline view → view after = view world

theorem plan_traced (pipeline : Pipeline (StateM σ)) (request : Request) (calls : List Call)
    (world : σ) :
    pipeline.traced.plan request calls world
      = (((pipeline.plan request world).1, calls ++ [.synthesize]),
        (pipeline.plan request world).2) := by
  rcases hfiles : pipeline.synthesizer.synthesize request.options request.schema world with
    ⟨answer, now⟩
  have hnoted : pipeline.traced.synthesizer.synthesize request.options request.schema calls world
      = ((answer, calls ++ [.synthesize]), now) := Traced.call_of_eq hfiles _ calls
  unfold plan Synthesizer.plan
  rw [bind_of_eq hfiles, Traced.bind_of_eq hnoted]
  cases answer <;> rfl

/-- What the third stage does, and how it can end. -/
inductive Resolution (pipeline : Pipeline (StateM σ)) (options : Options) (world : σ) :
    Except GenerationError (Option (Formatting (StateM σ))) → List Call → σ → Prop
  | unasked (hoff : options.usePrettier = false) :
    Resolution pipeline options world (.ok none) [] world
  | lost {reason : String} {now : σ} (hon : options.usePrettier = true)
    (hstart : pipeline.searchStart options world = (.error reason, now)) :
    Resolution pipeline options world (.error (.formatterConfig ⟨"."⟩ reason)) [] now
  | refused {start : Path} {reason : String} {now later : σ} (hon : options.usePrettier = true)
    (hstart : pipeline.searchStart options world = (.ok start, now))
    (hanswer : pipeline.formatter.resolveConfig start now = (.error reason, later)) :
    Resolution pipeline options world (.error (.formatterConfig start reason))
      [.resolveConfig start] later
  | found {start : Path} {config : Option Path} {now later : σ} (hon : options.usePrettier = true)
    (hstart : pipeline.searchStart options world = (.ok start, now))
    (hanswer : pipeline.formatter.resolveConfig start now = (.ok config, later)) :
    Resolution pipeline options world (.ok (some ⟨pipeline.formatter, config⟩))
      [.resolveConfig start] later

theorem searchStart_traced (pipeline : Pipeline (StateM σ)) (options : Options)
    (calls : List Call) (world : σ) :
    pipeline.traced.searchStart options calls world
      = (((pipeline.searchStart options world).1, calls),
        (pipeline.searchStart options world).2) := by
  unfold searchStart
  cases options.prettierConfig <;> rfl

theorem resolution (pipeline : Pipeline (StateM σ)) (options : Options) (calls : List Call)
    (world : σ) :
    ∃ look, Resolution pipeline options world (pipeline.resolveFormatting options world).1 look
        (pipeline.resolveFormatting options world).2 ∧
      pipeline.traced.resolveFormatting options calls world
        = (((pipeline.resolveFormatting options world).1.map Formatting.traced, calls ++ look),
          (pipeline.resolveFormatting options world).2) := by
  cases hon : options.usePrettier with
  | false =>
    have hplain : pipeline.resolveFormatting options world = (.ok none, world) := by
      simp only [resolveFormatting, hon]
      rfl
    have hnoted : pipeline.traced.resolveFormatting options calls world
        = ((.ok none, calls), world) := by
      simp only [resolveFormatting, hon]
      rfl
    rw [hplain, hnoted]
    exact ⟨[], .unasked hon, by rw [List.append_nil]; rfl⟩
  | true =>
    have hsearch := searchStart_traced pipeline options calls world
    rcases hstart : pipeline.searchStart options world with ⟨answer, now⟩
    rw [hstart] at hsearch
    simp only [resolveFormatting, hon, Bool.not_true, Bool.false_eq_true, if_false]
    rw [bind_of_eq hstart, Traced.bind_of_eq hsearch]
    cases answer with
    | error reason => exact ⟨[], .lost hon hstart, by rw [List.append_nil]; rfl⟩
    | ok start =>
      rcases hanswer : pipeline.formatter.resolveConfig start now with ⟨found, later⟩
      have hnoted : pipeline.traced.formatter.resolveConfig start calls now
          = ((found, calls ++ [.resolveConfig start]), later) := Traced.call_of_eq hanswer _ calls
      dsimp only
      rw [bind_of_eq hanswer, Traced.bind_of_eq hnoted]
      cases found with
      | error reason => exact ⟨_, .refused hon hstart hanswer, rfl⟩
      | ok config => exact ⟨_, .found hon hstart hanswer, rfl⟩

theorem report_traced (plan : Plan) (formatting : Option (Formatting (StateM σ)))
    (written : List Path) :
    report plan (Formatting.traced formatting) written = report plan formatting written := by
  cases formatting <;> rfl

theorem write_traced (pipeline : Pipeline (StateM σ)) (schedule : List Nat) (plan : Plan)
    (formatting : Option (Formatting (StateM σ))) (calls : List Call) (world : σ) :
    ∃ work, Writing.Worked formatting plan.files
        (pipeline.write schedule plan formatting world).1 work ∧
      pipeline.traced.write schedule plan (Formatting.traced formatting) calls world
        = (((pipeline.write schedule plan formatting world).1, calls ++ work),
          (pipeline.write schedule plan formatting world).2) := by
  obtain ⟨work, hrun, hwork⟩ := Writing.run_traced pipeline.disk formatting schedule plan.files
    calls world
  rcases hplain : Writing.run pipeline.disk formatting schedule plan.files world with ⟨answer, last⟩
  rw [hplain] at hrun hwork
  change Writing.run pipeline.traced.disk _ _ _ _ _ = _ at hrun
  have hreport := hwork.map (report plan formatting)
  unfold write
  rw [bind_of_eq hplain, Traced.bind_of_eq hrun]
  cases answer with
  | error error => exact ⟨work, hreport, rfl⟩
  | ok written =>
    refine ⟨work, hreport, ?_⟩
    dsimp only
    rw [report_traced]
    rfl

/-- What a run does, by the stage where it ends. -/
inductive Course (pipeline : Pipeline (StateM σ)) (request : Request) (world : σ) :
    Except GenerationError GenerationReport → List Call → σ → Prop
  | unsynthesized {reason : String} {now : σ}
    (hplan : pipeline.plan request world = (.error (.synthesis reason), now)) :
    Course pipeline request world (.error (.synthesis reason)) [.synthesize] now
  | unresolved {plan : Plan} {error : GenerationError} {look : List Call} {now later : σ}
    (hplan : pipeline.plan request world = (.ok plan, now))
    (hlook : Resolution pipeline request.options now (.error error) look later) :
    Course pipeline request world (.error error) (.synthesize :: look) later
  | worked {plan : Plan} {formatting : Option (Formatting (StateM σ))} {look work : List Call}
    {now later last : σ} {answer : Except GenerationError GenerationReport}
    (hplan : pipeline.plan request world = (.ok plan, now))
    (hlook : Resolution pipeline request.options now (.ok formatting) look later)
    (hwork : Writing.Worked formatting plan.files answer work) :
    Course pipeline request world answer (.synthesize :: look ++ work) last

theorem plan_error {pipeline : Pipeline (StateM σ)} {request : Request} {world now : σ}
    {error : GenerationError} (h : pipeline.plan request world = (.error error, now)) :
    ∃ reason, error = .synthesis reason := by
  rcases hfiles : pipeline.synthesizer.synthesize request.options request.schema world with
    ⟨answer, later⟩
  unfold plan Synthesizer.plan at h
  rw [bind_of_eq hfiles] at h
  cases answer with
  | error reason => exact ⟨reason, (Except.error.inj (congrArg Prod.fst h)).symm⟩
  | ok files => cases congrArg Prod.fst h

/-- Noting the calls down changes nothing of a run, and the run takes one of the courses. -/
theorem run_course (pipeline : Pipeline (StateM σ)) (schedule : List Nat) (request : Request)
    (world : σ) :
    ∃ calls, Course pipeline request world (pipeline.run schedule request world).1 calls
        (pipeline.run schedule request world).2 ∧
      pipeline.traced.run schedule request [] world
        = (((pipeline.run schedule request world).1, calls),
          (pipeline.run schedule request world).2) := by
  have hnoted := plan_traced pipeline request [] world
  rcases hplan : pipeline.plan request world with ⟨planned, now⟩
  rw [hplan, List.nil_append] at hnoted
  unfold run
  rw [bind_of_eq hplan, Traced.bind_of_eq hnoted]
  cases planned with
  | error error =>
    obtain ⟨reason, rfl⟩ := plan_error hplan
    exact ⟨_, .unsynthesized hplan, rfl⟩
  | ok plan =>
    obtain ⟨look, hlook, hresolved⟩ := resolution pipeline request.options [.synthesize] now
    rcases hplain : pipeline.resolveFormatting request.options now with ⟨answer, later⟩
    rw [hplain] at hlook hresolved
    dsimp only
    rw [bind_of_eq hplain, Traced.bind_of_eq hresolved]
    cases answer with
    | error error => exact ⟨_, .unresolved hplan hlook, rfl⟩
    | ok formatting =>
      obtain ⟨work, hwork, hwrite⟩ := write_traced pipeline schedule plan formatting
        ([.synthesize] ++ look) later
      exact ⟨_, .worked hplan hlook hwork, hwrite⟩

theorem lookedUp {pipeline : Pipeline (StateM σ)} {request : Request} {world now later : σ}
    {plan : Plan} {start : Path} (hplan : pipeline.plan request world = (.ok plan, now))
    (hstart : pipeline.searchStart request.options now = (.ok start, later)) :
    LookedUp pipeline request world plan start
      (pipeline.formatter.resolveConfig start later).1 := by
  unfold searchStart at hstart
  cases hnamed : request.options.prettierConfig with
  | none =>
    rw [hnamed] at hstart
    exact .here hplan hnamed hstart
  | some path =>
    rw [hnamed] at hstart
    obtain ⟨hpath, rfl⟩ := Prod.mk.inj hstart
    obtain rfl := Except.ok.inj hpath
    exact .named hplan hnamed

theorem plan_spared {κ : Type} {pipeline : Pipeline (StateM σ)} {view : σ → κ}
    (h : ∀ options schema w, view (pipeline.synthesizer.synthesize options schema w).2 = view w)
    (request : Request) (world : σ) :
    view (pipeline.plan request world).2 = view world := by
  have hspared := h request.options request.schema world
  rcases hfiles : pipeline.synthesizer.synthesize request.options request.schema world with
    ⟨answer, now⟩
  rw [hfiles] at hspared
  unfold plan Synthesizer.plan
  rw [bind_of_eq hfiles]
  cases answer <;> exact hspared

namespace Spares

variable {κ : Type} {pipeline : Pipeline (StateM σ)} {view : σ → κ}

theorem searchStart (h : Spares pipeline view) (options : Options) (world : σ) :
    view (pipeline.searchStart options world).2 = view world := by
  unfold Pipeline.searchStart
  cases options.prettierConfig with
  | none => exact h.workingDirectory world
  | some path => rfl

theorem resolution (h : Spares pipeline view) {options : Options} {world later : σ}
    {answer : Except GenerationError (Option (Formatting (StateM σ)))} {look : List Call}
    (hlook : Resolution pipeline options world answer look later) : view later = view world := by
  have hsearch := h.searchStart options world
  cases hlook with
  | unasked hoff => rfl
  | lost hon hstart =>
    rw [hstart] at hsearch
    exact hsearch
  | @refused start reason now later hon hstart hanswer =>
    have hresolve := h.resolveConfig start now
    rw [hanswer] at hresolve
    rw [hstart] at hsearch
    exact hresolve.trans hsearch
  | @found start config now later hon hstart hanswer =>
    have hresolve := h.resolveConfig start now
    rw [hanswer] at hresolve
    rw [hstart] at hsearch
    exact hresolve.trans hsearch

end Spares

/-- The calls of a run: a synthesis, at most one look-up, and the work on files. -/
theorem inOrder_of {pipeline : Pipeline (StateM σ)} {request : Request} {world after : σ}
    {answer : Except GenerationError GenerationReport} {work : List Call} (start? : Option Path)
    (hresolved : ∀ call ∈ work, call.resolvedFrom? = none) (hsynthesis : .synthesize ∉ work)
    (hlook : ∀ start, start? = some start → request.options.usePrettier = true ∧
      ∃ plan found, LookedUp pipeline request world plan start found)
    (hwork : work.filter Call.isFormat ≠ [] → ∃ plan start config, start? = some start ∧
      LookedUp pipeline request world plan start (.ok config) ∧
      (work.filter Call.isFormat).Subperm (plan.files.map fun file => .format file.path config))
    (hall : ∀ report, answer = .ok report → request.options.usePrettier = true →
      ∃ plan start config, start? = some start ∧
        LookedUp pipeline request world plan start (.ok config) ∧
        (work.filter Call.isFormat).Perm (plan.files.map fun file => .format file.path config))
    (huntouched : ∀ error, answer = .error error →
      ((∃ reason, error = .synthesis reason) ∨
        ∃ path reason, error = .formatterConfig path reason) →
      work = [] ∧ ∀ (κ : Type) (view : σ → κ), Spares pipeline view → view after = view world) :
    InOrder pipeline request world answer
      (.synthesize :: (start?.toList.map .resolveConfig ++ work)) after := by
  have hnone : work.filterMap Call.resolvedFrom? = [] := List.filterMap_eq_nil_iff.mpr hresolved
  have hfilter : (Call.synthesize :: (start?.toList.map .resolveConfig ++ work)).filter
      Call.isFormat = work.filter Call.isFormat := by
    cases start? <;> simp [Call.isFormat]
  have hmem : ∀ start, start? = some start → Call.resolveConfig start ∈
      Call.synthesize :: (start?.toList.map .resolveConfig ++ work) := by
    rintro start rfl
    simp
  constructor
  case synthesizedOnce =>
    have hcount := List.count_eq_zero.mpr hsynthesis
    cases start? <;> simp [hcount]
  case unformatted =>
    intro hoff call hcall
    cases start? with
    | some start =>
      rw [hoff] at hlook
      cases (hlook start rfl).1
    | none =>
      rcases List.mem_cons.mp hcall with rfl | hcall
      · exact ⟨rfl, rfl⟩
      · have hquiet : work.filter Call.isFormat = [] := by
          by_contra hsome
          obtain ⟨plan, start, config, hstart, _⟩ := hwork hsome
          cases hstart
        exact ⟨hresolved call hcall,
          Bool.eq_false_iff.mpr (List.filter_eq_nil_iff.mp hquiet call hcall)⟩
  case resolvedAtMostOnce =>
    cases start? <;> simp [List.filterMap_cons, hnone, Call.resolvedFrom?]
  case resolved =>
    intro start hcall
    have hstart : start? = some start := by
      rcases List.mem_cons.mp hcall with h | hcall
      · cases h
      rcases List.mem_append.mp hcall with hcall | hcall
      · obtain ⟨other, hother, heq⟩ := List.mem_map.mp hcall
        obtain rfl := Call.resolveConfig.inj heq
        exact Option.mem_toList.mp hother
      · cases hresolved _ hcall
    obtain ⟨_, plan, found, hlooked⟩ := hlook start hstart
    subst hstart
    exact ⟨plan, found, work, rfl, hlooked⟩
  case formatted =>
    rw [hfilter]
    intro hsome
    obtain ⟨plan, start, config, hstart, hlooked, hpart⟩ := hwork hsome
    exact ⟨plan, start, config, hmem start hstart, hlooked, hpart⟩
  case formattedAll =>
    rw [hfilter]
    intro report hok hon
    obtain ⟨plan, start, config, hstart, hlooked, hpart⟩ := hall report hok hon
    exact ⟨plan, start, config, hmem start hstart, hlooked, hpart⟩
  case untouched =>
    intro error herror hearly
    obtain ⟨rfl, hview⟩ := huntouched error herror hearly
    refine ⟨?_, hview⟩
    cases start? <;> simp [Call.touchesDisk]

/-- A run that ends before its work on files. -/
theorem inOrder_early {pipeline : Pipeline (StateM σ)} {request : Request} {world after : σ}
    {error : GenerationError} (start? : Option Path)
    (hlook : ∀ start, start? = some start → request.options.usePrettier = true ∧
      ∃ plan found, LookedUp pipeline request world plan start found)
    (hspared : ∀ (κ : Type) (view : σ → κ), Spares pipeline view → view after = view world) :
    InOrder pipeline request world (.error error)
      (.synthesize :: start?.toList.map .resolveConfig) after := by
  rw [← List.append_nil (start?.toList.map Call.resolveConfig)]
  exact inOrder_of start? (fun _ h => (List.not_mem_nil h).elim) List.not_mem_nil hlook
    (fun h => (h rfl).elim) (fun _ h => by cases h) (fun _ _ _ => ⟨rfl, hspared⟩)

theorem Course.inOrder {pipeline : Pipeline (StateM σ)} {request : Request} {world after : σ}
    {answer : Except GenerationError GenerationReport} {calls : List Call}
    (h : Course pipeline request world answer calls after) :
    InOrder pipeline request world answer calls after := by
  have hspared : ∀ {planned now}, pipeline.plan request world = (planned, now) →
      ∀ (κ : Type) (view : σ → κ), Spares pipeline view → view now = view world := by
    intro planned now hplan κ view hspares
    have hview := plan_spared hspares.synthesize request world
    rwa [hplan] at hview
  cases h with
  | @unsynthesized reason now hplan =>
    exact inOrder_early none (fun _ h => by cases h) (hspared hplan)
  | @unresolved plan error look now later hplan hlook =>
    have hafter : ∀ (κ : Type) (view : σ → κ), Spares pipeline view → view after = view world :=
      fun κ view hspares => (hspares.resolution hlook).trans (hspared hplan κ view hspares)
    cases hlook with
    | lost hon hstart => exact inOrder_early none (fun _ h => by cases h) hafter
    | @refused start reason now later hon hstart hanswer =>
      refine inOrder_early (some start) (fun other h => ?_) hafter
      obtain rfl := Option.some.inj h
      exact ⟨hon, plan, _, lookedUp hplan hstart⟩
  | @worked plan formatting look work now later last answer hplan hlook hwork =>
    obtain ⟨asked, hasked, hpart, hall⟩ := hwork.formats
    have hlate : ∀ error, answer = .error error → ((∃ reason, error = .synthesis reason) ∨
        ∃ path reason, error = .formatterConfig path reason) → False := by
      intro error herror hearly
      have hlate := hwork.late error herror
      obtain ⟨reason, rfl⟩ | ⟨path, reason, rfl⟩ := hearly <;> cases hlate
    cases hlook with
    | unasked hoff =>
      refine inOrder_of none hwork.resolvedFrom?_eq_none hwork.not_mem_synthesize
        (fun _ h => by cases h) (fun h => (h hasked).elim) (fun _ _ hon => ?_)
        (fun error herror hearly => (hlate error herror hearly).elim)
      rw [hoff] at hon
      cases hon
    | @found start config now later hon hstart hanswer =>
      have hlooked := lookedUp hplan hstart
      rw [hanswer] at hlooked
      refine inOrder_of (some start) hwork.resolvedFrom?_eq_none
        hwork.not_mem_synthesize (fun other h => ?_) (fun _ => ?_) (fun report hok _ => ?_)
        (fun error herror hearly => (hlate error herror hearly).elim)
      · obtain rfl := Option.some.inj h
        exact ⟨hon, plan, _, hlooked⟩
      · refine ⟨plan, start, config, rfl, hlooked, ?_⟩
        obtain ⟨part, hperm, hsublist⟩ := hpart
        rw [hasked]
        exact ⟨part.map _, hperm.map _, hsublist.map _⟩
      · refine ⟨plan, start, config, rfl, hlooked, ?_⟩
        rw [hasked]
        exact (hall ⟨report, hok⟩).map _

theorem Course.not_config {pipeline : Pipeline (StateM σ)} {request : Request} {world after : σ}
    {error : GenerationError} {calls : List Call}
    (h : Course pipeline request world (.error error) calls after) (config : ConfigError) :
    error ≠ .config config := by
  rintro rfl
  cases h with
  | unresolved hplan hlook => cases hlook
  | worked hplan hlook hwork => cases hwork.late _ rfl

theorem preview_eq (pipeline : Pipeline (StateM σ)) (request : Request) (world : σ) :
    pipeline.preview request world
      = ((pipeline.plan request world).1.map fun plan => .preview plan.files,
        (pipeline.plan request world).2) := by
  rcases hplan : pipeline.plan request world with ⟨planned, now⟩
  unfold preview
  rw [bind_of_eq hplan]
  cases planned <;> rfl

/-- A request that is normal never ends in an error of its configuration. -/
theorem result_not_config {pipeline : Pipeline (StateM σ)} {schedule : List Nat} {isDryRun : Bool}
    {request : Request} {world : σ} {error : GenerationError}
    (h : (pipeline.result schedule isDryRun request world).1 = .error error)
    (config : ConfigError) : error ≠ .config config := by
  unfold result at h
  cases isDryRun with
  | true =>
    rw [if_pos rfl, preview_eq] at h
    rcases hplan : pipeline.plan request world with ⟨planned, now⟩
    rw [hplan] at h
    cases planned with
    | error failure =>
      obtain ⟨reason, rfl⟩ := plan_error hplan
      obtain rfl := Except.error.inj h
      intro hconfig
      cases hconfig
    | ok plan => cases h
  | false =>
    obtain ⟨calls, hcourse, _⟩ := run_course pipeline schedule request world
    rcases hrun : pipeline.run schedule request world with ⟨answer, now⟩
    rw [hrun] at hcourse
    rw [if_neg Bool.false_ne_true, bind_of_eq hrun] at h
    cases answer with
    | error failure =>
      obtain rfl := Except.error.inj h
      exact hcourse.not_config config
    | ok report => cases h

/-- Only options that cannot be normalized end a generation with an error in its configuration. -/
theorem request_of_config {pipeline : Pipeline (StateM σ)} {env : Environment}
    {schedule : List Nat} {input : GenerationInput} {world : σ} {error : ConfigError}
    (h : (pipeline.generate env schedule input world).1 = .error (.config error)) :
    input.request env = .error (.config error) := by
  unfold generate at h
  cases hrequest : input.request env with
  | error other =>
    rw [hrequest] at h
    obtain rfl := Except.error.inj h
    rfl
  | ok request =>
    rcases hresult : pipeline.result schedule input.isDryRun request world with ⟨answer, now⟩
    rw [hrequest] at h
    dsimp only at h
    rw [bind_of_eq hresult] at h
    cases answer with
    | error failure =>
      obtain rfl := Except.error.inj h
      exact (result_not_config (congrArg Prod.fst hresult) error rfl).elim
    | ok result => cases h

/-- Noting down the calls of a run changes nothing of it, and the calls keep the order of the
stages. A generation that ends with an error in its configuration has called nothing. -/
theorem run_in_stages (pipeline : Pipeline (StateM σ)) (schedule : List Nat) (world : σ) :
    (∀ request, ∃ calls,
      pipeline.traced.run schedule request [] world
        = (((pipeline.run schedule request world).1, calls),
          (pipeline.run schedule request world).2) ∧
      InOrder pipeline request world (pipeline.run schedule request world).1 calls
        (pipeline.run schedule request world).2) ∧
    (∀ env input error,
      (pipeline.generate env schedule input world).1 = .error (.config error) →
      pipeline.generate env schedule input world = (.error (.config error), world) ∧
        pipeline.traced.generate env schedule input [] world
          = ((.error (.config error), []), world)) := by
  refine ⟨fun request => ?_, fun env input error herror => ?_⟩
  · obtain ⟨calls, hcourse, htraced⟩ := run_course pipeline schedule request world
    exact ⟨calls, htraced, hcourse.inOrder⟩
  · unfold generate
    rw [request_of_config herror]
    exact ⟨rfl, rfl⟩

/-- Makes the letters of two files capitals. -/
def capitals : Pipeline (StateM FileTree) where
  synthesizer := .fixed [⟨⟨"a.ts"⟩, "a"⟩, ⟨⟨"b.ts"⟩, "b"⟩]
  formatter := .upperCasing
  disk := .ofFileTree
  workingDirectory := pure (.ok ⟨"/work"⟩)

def capitalsRequest : Request :=
  ⟨{ output := ⟨"out"⟩, connectDtoPrefix := "", createDtoPrefix := "", updateDtoPrefix := "",
     dtoSuffix := "", entityPrefix := "", entitySuffix := "", fileNamingStyle := .camel,
     prettierConfig := none, exportRelationModifierClasses := false,
     outputToNestJsResourceStructure := false, entitiesOnly := false, usePrettier := true,
     reExport := false }, ⟨[], []⟩⟩

/-- Asks for a naming style that there is not. -/
def boldInput : GenerationInput :=
  ⟨⟨[("fileNamingStyle", "bold")]⟩, "out", ⟨[], []⟩, false⟩

theorem capitals_in_stages :
    let work : FileTree := ⟨[([["work"]], .directory)], ["work"], 0o022, [], true⟩
    InOrder capitals capitalsRequest work (capitals.run [1, 1, 0] capitalsRequest work).1
        [.synthesize, .resolveConfig ⟨"/work"⟩, .createDirectories ⟨"out"⟩,
          .format ⟨"out/b.ts"⟩ (some ⟨"/work/.prettierrc"⟩), .createDirectories ⟨"out"⟩,
          .format ⟨"out/a.ts"⟩ (some ⟨"/work/.prettierrc"⟩), .write ⟨"out/a.ts"⟩,
          .write ⟨"out/b.ts"⟩]
        (capitals.run [1, 1, 0] capitalsRequest work).2 ∧
      (capitals.generate .empty [] boldInput work).1 = .error (.config (.badNamingStyle "bold")) ∧
      capitals.traced.generate .empty [] boldInput [] work
        = ((.error (.config (.badNamingStyle "bold")), []), work) := by
  intro work
  have hrefused : (capitals.generate .empty [] boldInput work).1
      = .error (.config (.badNamingStyle "bold")) := by
    decide +kernel
  refine ⟨?_, hrefused, ((run_in_stages capitals [] work).2 _ _ _ hrefused).2⟩
  have hcalls : (capitals.traced.run [1, 1, 0] capitalsRequest [] work).1.2
      = [.synthesize, .resolveConfig ⟨"/work"⟩, .createDirectories ⟨"out"⟩,
        .format ⟨"out/b.ts"⟩ (some ⟨"/work/.prettierrc"⟩), .createDirectories ⟨"out"⟩,
        .format ⟨"out/a.ts"⟩ (some ⟨"/work/.prettierrc"⟩), .write ⟨"out/a.ts"⟩,
        .write ⟨"out/b.ts"⟩] := by
    decide +kernel
  obtain ⟨calls, htraced, horder⟩ := (run_in_stages capitals [1, 1, 0] work).1 capitalsRequest
  rw [htraced] at hcalls
  obtain rfl : calls = _ := hcalls
  exact horder

end Pipeline

end DtoGen

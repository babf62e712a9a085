import Mathlib.Data.List.Perm.Subperm
import DtoGen.Generation.Trace
import DtoGen.Proofs.TaskSteps

namespace DtoGen

theorem bind_of_eq {σ α β : Type} {action : StateM σ α} {next : α → StateM σ β} {world now : σ}
    {value : α} (h : action world = (value, now)) : (action >>= next) world = next value now := by
  change next (action world).1 (action world).2 = _
  rw [h]

namespace Traced

variable {σ α β : Type}

theorem bind_of_eq {action : Traced (StateM σ) α} {next : α → Traced (StateM σ) β}
    {calls made : List Call} {world now : σ} {value : α}
    (h : action calls world = ((value, made), now)) :
    (action >>= next) calls world = next value made now := by
  change next (action calls world).1.1 (action calls world).1.2 (action calls world).2 = _
  rw [h]

theorem call_of_eq {action : StateM σ α} {world now : σ} {value : α}
    (h : action world = (value, now)) (c : Call) (calls : List Call) :
    Traced.call c action calls world = ((value, calls ++ [c]), now) := by
  change (((action world).1, calls ++ [c]), (action world).2) = _
  rw [h]

end Traced

/-- The formatter whose calls are noted down, with the same configuration. -/
def Formatting.traced {m : Type → Type} [Monad m] (formatting : Option (Formatting m)) :
    Option (Formatting (Traced m)) :=
  formatting.map fun formatting => ⟨formatting.formatter.traced, formatting.config⟩

namespace GenerationError

/-- Whether the error shows while files are being written. -/
def isLate : GenerationError → Bool
  | format _ _ => true
  | write _ => true
  | _ => false

end GenerationError

/-- The calls of a formatter that some files ask for. -/
def formatCalls {m : Type → Type} (formatting : Option (Formatting m)) (files : List FileSpec) :
    List Call :=
  match formatting with
  | none => []
  | some formatting => files.map fun file => .format file.path formatting.config

theorem formatCalls_append {m : Type → Type} (formatting : Option (Formatting m))
    (first second : List FileSpec) : formatCalls formatting (first ++ second)
      = formatCalls formatting first ++ formatCalls formatting second := by
  cases formatting with
  | none => rfl
  | some formatting => exact List.map_append

namespace WriteTask

variable {σ : Type} {disk : Disk (StateM σ)} {formatting : Option (Formatting (StateM σ))}

/-- The calls that the next step of a task makes. -/
def nextCalls (formatting : Option (Formatting (StateM σ))) (task : WriteTask) : List Call :=
  match task.progress with
  | .waiting => task.file.directoryToMake?.toList.map .createDirectories
  | .prepared => formatCalls formatting [task.file]
  | .formatted _ => [.write task.file.path]
  | .written | .failed _ => []

theorem prepare_traced (disk : Disk (StateM σ)) (file : FileSpec) (calls : List Call) (world : σ) :
    prepare disk.traced file calls world = (((prepare disk file world).1,
      calls ++ file.directoryToMake?.toList.map .createDirectories),
      (prepare disk file world).2) := by
  unfold prepare
  cases file.directoryToMake? with
  | none =>
    rw [Option.toList_none, List.map_nil, List.append_nil]
    rfl
  | some directory => rfl

theorem format_traced (formatting : Option (Formatting (StateM σ))) (file : FileSpec)
    (calls : List Call) (world : σ) :
    format (Formatting.traced formatting) file calls world
      = (((format formatting file world).1, calls ++ formatCalls formatting [file]),
        (format formatting file world).2) := by
  cases formatting with
  | none =>
    rw [formatCalls, List.append_nil]
    rfl
  | some formatting =>
    cases hanswer : formatting.formatter.format file.content file.path formatting.config world with
    | mk answer now =>
      have hplain : Formatting.apply (some formatting) file world = (answer, now) := hanswer
      have hnoted : Formatting.apply (Formatting.traced (some formatting)) file calls world
          = ((answer, calls ++ formatCalls (some formatting) [file]), now) :=
        Traced.call_of_eq hanswer _ calls
      unfold format
      rw [Traced.bind_of_eq hnoted, bind_of_eq hplain]
      cases answer <;> rfl

/-- A step that is noted down is the step itself, and its calls come behind the others. -/
theorem step_traced (disk : Disk (StateM σ)) (formatting : Option (Formatting (StateM σ)))
    (task : WriteTask) (calls : List Call) (world : σ) :
    task.step disk.traced (Formatting.traced formatting) calls world
      = (((task.step disk formatting world).1, calls ++ nextCalls formatting task),
        (task.step disk formatting world).2) := by
  obtain ⟨file, progress⟩ := task
  cases progress with
  | waiting =>
    have hstep : (⟨file, .waiting⟩ : WriteTask).step disk.traced (Formatting.traced formatting)
        calls world = (((⟨file, (prepare disk.traced file calls world).1.1⟩ : WriteTask),
          (prepare disk.traced file calls world).1.2),
          (prepare disk.traced file calls world).2) := rfl
    rw [hstep, prepare_traced]
    rfl
  | prepared =>
    have hstep : (⟨file, .prepared⟩ : WriteTask).step disk.traced (Formatting.traced formatting)
        calls world
        = (((⟨file, (format (Formatting.traced formatting) file calls world).1.1⟩ : WriteTask),
          (format (Formatting.traced formatting) file calls world).1.2),
          (format (Formatting.traced formatting) file calls world).2) := rfl
    rw [hstep, format_traced]
    rfl
  | formatted content => rfl
  | written =>
    rw [nextCalls, List.append_nil]
    rfl
  | failed error =>
    rw [nextCalls, List.append_nil]
    rfl

theorem nextCalls_of_finished (formatting : Option (Formatting (StateM σ))) {task : WriteTask}
    (h : task.isFinished = true) : nextCalls formatting task = [] := by
  obtain ⟨file, progress⟩ := task
  cases progress <;> first | rfl | cases h

theorem nextCalls_work (formatting : Option (Formatting (StateM σ))) (task : WriteTask) :
    ∀ call ∈ nextCalls formatting task, call.isFormat = true ∨ call.touchesDisk = true := by
  intro call hcall
  obtain ⟨file, progress⟩ := task
  cases progress with
  | waiting =>
    obtain ⟨directory, _, rfl⟩ := List.mem_map.mp hcall
    exact .inr rfl
  | prepared =>
    cases formatting with
    | none => cases hcall
    | some formatting =>
      obtain ⟨_, _, rfl⟩ := List.mem_map.mp hcall
      exact .inl rfl
  | formatted content =>
    obtain rfl := List.mem_singleton.mp hcall
    exact .inr rfl
  | written => cases hcall
  | failed error => cases hcall

/-- Whether the task has not come to its formatting. -/
def isPending (task : WriteTask) : Bool :=
  match task.progress with
  | .waiting | .prepared => true
  | _ => false

end WriteTask

namespace Writing

open WriteTask

variable {σ : Type} {disk : Disk (StateM σ)} {formatting : Option (Formatting (StateM σ))}

/-- The files that have not come to their formatting. -/
def pendingFiles (tasks : List WriteTask) : List FileSpec :=
  (tasks.filter isPending).map (·.file)

theorem pendingFiles_append (first second : List WriteTask) :
    pendingFiles (first ++ second) = pendingFiles first ++ pendingFiles second := by
  rw [pendingFiles, List.filter_append, List.map_append]
  rfl

theorem pendingFiles_cons (task : WriteTask) (tasks : List WriteTask) :
    pendingFiles (task :: tasks)
      = (if task.isPending then [task.file] else []) ++ pendingFiles tasks := by
  unfold pendingFiles
  cases h : task.isPending <;> simp [h]

/-- The calls of the formatter are those of the files that asked for it. A file that has not asked
is still pending, or its task has failed before. -/
structure Accounted (formatting : Option (Formatting (StateM σ))) (files : List FileSpec)
    (tasks : List WriteTask) (calls : List Call) : Prop where
  asked : ∃ asked lost, calls.filter Call.isFormat = formatCalls formatting asked ∧
    (asked ++ (pendingFiles tasks ++ lost)).Perm files ∧
    ((∀ task ∈ tasks, task.error? = none) → lost = [])
  work : ∀ call ∈ calls, call.isFormat = true ∨ call.touchesDisk = true
  late : ∀ task ∈ tasks, ∀ error, task.error? = some error → error.isLate = true

theorem accounted_start (formatting : Option (Formatting (StateM σ))) (files : List FileSpec) :
    Accounted formatting files (files.map WriteTask.start) [] := by
  refine ⟨⟨[], [], ?_, ?_, fun _ => rfl⟩, fun _ h => (List.not_mem_nil h).elim,
    fun task ht error herror => ?_⟩
  · cases formatting <;> rfl
  · have hall : pendingFiles (files.map WriteTask.start) = files := by
      induction files with
      | nil => rfl
      | cons file files ih =>
        rw [List.map_cons, pendingFiles_cons, ih]
        rfl
    rw [hall, List.nil_append, List.append_nil]
  · obtain ⟨file, _, rfl⟩ := List.mem_map.mp ht
    cases herror

/-- What one step does to the account of a task. -/
inductive StepAccount (formatting : Option (Formatting (StateM σ))) (task next : WriteTask) : Prop
  /-- It asks the formatter. -/
  | asks (hnow : task.isPending = true) (hthen : next.isPending = false)
    (hcalls : (nextCalls formatting task).filter Call.isFormat = formatCalls formatting [task.file])
  /-- It fails before it could ask. -/
  | loses (hnow : task.isPending = true) (hthen : next.isPending = false)
    (hcalls : (nextCalls formatting task).filter Call.isFormat = [])
    (hfailed : next.error? ≠ none)
  | stays (hsame : next.isPending = task.isPending)
    (hcalls : (nextCalls formatting task).filter Call.isFormat = [])

theorem stepAccount (disk : Disk (StateM σ)) (formatting : Option (Formatting (StateM σ)))
    (task : WriteTask) (world : σ) :
    StepAccount formatting task (task.step disk formatting world).1 := by
  have hdirectories : ∀ file : FileSpec,
      (nextCalls formatting ⟨file, .waiting⟩).filter Call.isFormat = [] := by
    intro file
    apply List.filter_eq_nil_iff.mpr
    intro call hcall
    obtain ⟨directory, _, rfl⟩ := List.mem_map.mp hcall
    exact Bool.false_ne_true
  have hasked : ∀ file : FileSpec,
      (nextCalls formatting ⟨file, .prepared⟩).filter Call.isFormat
        = formatCalls formatting [file] := by
    intro file
    cases formatting <;> rfl
  have hmoves := step_moves disk formatting task world
  generalize (task.step disk formatting world).1 = next at hmoves ⊢
  cases hmoves with
  | prepared file => exact .stays rfl (hdirectories file)
  | unprepared file _ => exact .loses rfl rfl (hdirectories file) (Option.some_ne_none _)
  | formatted file _ => exact .asks rfl rfl (hasked file)
  | rejected file _ => exact .asks rfl rfl (hasked file)
  | written _ _ => exact .stays rfl rfl
  | refused _ _ => exact .stays rfl rfl
  | finished h => exact .stays rfl (by rw [nextCalls_of_finished formatting h]; rfl)

theorem step_late (disk : Disk (StateM σ)) (formatting : Option (Formatting (StateM σ)))
    {task : WriteTask} (h : ∀ error, task.error? = some error → error.isLate = true) (world : σ) :
    ∀ error, (task.step disk formatting world).1.error? = some error → error.isLate = true := by
  intro error herror
  have hmoves := step_moves disk formatting task world
  generalize (task.step disk formatting world).1 = next at hmoves herror
  cases hmoves with
  | finished _ => exact h error herror
  | _ => cases herror <;> rfl

/-- A task that has failed stays so. -/
theorem error?_step {task : WriteTask} {world : σ}
    (h : (task.step disk formatting world).1.error? = none) : task.error? = none := by
  obtain ⟨file, progress⟩ := task
  cases progress <;> first | rfl | exact h

/-- One task takes a step, and the account stays right. -/
theorem Accounted.step {files : List FileSpec} {before behind : List WriteTask}
    {task : WriteTask} {calls : List Call}
    (h : Accounted formatting files (before ++ task :: behind) calls) (disk : Disk (StateM σ))
    (world : σ) :
    Accounted formatting files (before ++ (task.step disk formatting world).1 :: behind)
      (calls ++ nextCalls formatting task) := by
  have hfile : (task.step disk formatting world).1.file = task.file := step_file task world
  obtain ⟨asked, lost, hasked, hperm, hlost⟩ := h.asked
  have hnone : (∀ other ∈ before ++ (task.step disk formatting world).1 :: behind,
      other.error? = none) → lost = [] := by
    intro hall
    refine hlost fun other hother => ?_
    rcases mem_of_replaced hother with rfl | hother
    · exact error?_step (hall _ (List.mem_append_right _ List.mem_cons_self))
    · exact hall other hother
  rw [pendingFiles_append, pendingFiles_cons] at hperm
  refine ⟨?_, fun call hcall => ?_, fun other hother error herror => ?_⟩
  · rw [List.filter_append, hasked, pendingFiles_append, pendingFiles_cons]
    rcases stepAccount disk formatting task world with
      ⟨hnow, hthen, hcalls⟩ | ⟨hnow, hthen, hcalls, hfailed⟩ | ⟨hsame, hcalls⟩
    · rw [if_pos hnow] at hperm
      rw [hthen, hcalls, ← formatCalls_append]
      refine ⟨asked ++ [task.file], lost, rfl, .trans ?_ hperm, hnone⟩
      simp only [List.append_assoc, List.singleton_append, Bool.false_eq_true, if_false,
        List.nil_append]
      exact List.perm_middle.symm.append_left asked
    · rw [if_pos hnow] at hperm
      rw [hthen, hcalls, List.append_nil]
      refine ⟨asked, task.file :: lost, rfl, .trans ?_ hperm, fun hall => ?_⟩
      · simp only [List.append_assoc, List.singleton_append, Bool.false_eq_true, if_false,
          List.nil_append]
        exact (List.perm_middle.append_left (pendingFiles before)).append_left asked
      · exact absurd (hall _ (List.mem_append_right _ List.mem_cons_self)) hfailed
    · rw [hsame, hfile, hcalls, List.append_nil]
      exact ⟨asked, lost, rfl, hperm, hnone⟩
  · rcases List.mem_append.mp hcall with hcall | hcall
    · exact h.work call hcall
    · exact nextCalls_work formatting task call hcall
  · rcases mem_of_replaced hother with rfl | hother
    · refine step_late disk formatting (fun error herror => ?_) world error herror
      exact h.late task (List.mem_append_right _ List.mem_cons_self) error herror
    · exact h.late other hother error herror

theorem stepAt_traced (disk : Disk (StateM σ)) (formatting : Option (Formatting (StateM σ)))
    (i : Nat) (tasks : List WriteTask) (calls : List Call) (world : σ) :
    stepAt disk.traced (Formatting.traced formatting) i tasks calls world
      = (((stepAt disk formatting i tasks world).1,
          calls ++ (tasks[i]?.toList.flatMap (nextCalls formatting))),
        (stepAt disk formatting i tasks world).2) := by
  induction tasks generalizing i with
  | nil =>
    rw [List.getElem?_nil, Option.toList_none, List.flatMap_nil, List.append_nil]
    cases i <;> rfl
  | cons task tasks ih =>
    cases i with
    | zero =>
      have hhead : stepAt disk.traced (Formatting.traced formatting) 0 (task :: tasks) calls world
          = (((task.step disk.traced (Formatting.traced formatting) calls world).1.1 :: tasks,
            (task.step disk.traced (Formatting.traced formatting) calls world).1.2),
            (task.step disk.traced (Formatting.traced formatting) calls world).2) := rfl
      rw [hhead, step_traced]
      simp [stepAt_eq]
    | succ i =>
      have hhead : stepAt disk.traced (Formatting.traced formatting) (i + 1) (task :: tasks) calls
            world
          = ((task :: (stepAt disk.traced (Formatting.traced formatting) i tasks calls world).1.1,
            (stepAt disk.traced (Formatting.traced formatting) i tasks calls world).1.2),
            (stepAt disk.traced (Formatting.traced formatting) i tasks calls world).2) := rfl
      rw [hhead, ih, List.getElem?_cons_succ]
      rfl

/-- Watching tasks with notes is watching them, and the account stays right. -/
theorem watch_traced (disk : Disk (StateM σ)) {files : List FileSpec} {tasks : List WriteTask}
    {account : List Call} (h : Accounted formatting files tasks account) (schedule : List Nat)
    (calls : List Call) (world : σ) :
    ∃ work, watch disk.traced (Formatting.traced formatting) schedule tasks calls world
        = (((watch disk formatting schedule tasks world).1, calls ++ work),
          (watch disk formatting schedule tasks world).2) ∧
      Accounted formatting files (watch disk formatting schedule tasks world).1.2
        (account ++ work) := by
  induction schedule generalizing tasks account calls world with
  | nil =>
    refine ⟨[], ?_, ?_⟩
    · rw [List.append_nil]
      rfl
    · rw [List.append_nil]
      exact h
  | cons i schedule ih =>
    obtain ⟨made, hcalls, haccount⟩ : ∃ made,
        stepAt disk.traced (Formatting.traced formatting) i tasks calls world
          = (((stepAt disk formatting i tasks world).1, calls ++ made),
            (stepAt disk formatting i tasks world).2) ∧
        Accounted formatting files (stepAt disk formatting i tasks world).1 (account ++ made) := by
      refine ⟨_, stepAt_traced disk formatting i tasks calls world, ?_⟩
      cases htask : tasks[i]? with
      | none =>
        rw [stepAt_eq, htask, Option.toList_none, List.flatMap_nil, List.append_nil]
        exact h
      | some task =>
        obtain ⟨before, behind, rfl, rfl⟩ := exists_split htask
        rw [stepAt_split, Option.toList_some, List.flatMap_singleton]
        exact h.step disk world
    obtain ⟨work, hwork, hend⟩ :=
      ih haccount (calls ++ made) (stepAt disk formatting i tasks world).2
    have hhead : watch disk.traced (Formatting.traced formatting) (i :: schedule) tasks calls world
        = (let stepped := stepAt disk.traced (Formatting.traced formatting) i tasks calls world
          let watched := watch disk.traced (Formatting.traced formatting) schedule stepped.1.1
            stepped.1.2 stepped.2
          ((((if tasks.length ≤ i then failure? tasks else none).or watched.1.1.1,
            watched.1.1.2), watched.1.2), watched.2)) := rfl
    refine ⟨made ++ work, ?_, ?_⟩
    · rw [hhead, hcalls]
      dsimp only
      rw [hwork, List.append_assoc]
      rfl
    · rw [← List.append_assoc]
      exact hend

theorem follow_traced (disk : Disk (StateM σ)) {files : List FileSpec} {tasks : List WriteTask}
    {account : List Call} (h : Accounted formatting files tasks account) (schedule : List Nat)
    (calls : List Call) (world : σ) :
    ∃ work, follow disk.traced (Formatting.traced formatting) schedule tasks calls world
        = (((follow disk formatting schedule tasks world).1, calls ++ work),
          (follow disk formatting schedule tasks world).2) ∧
      Accounted formatting files (follow disk formatting schedule tasks world).1
        (account ++ work) := by
  obtain ⟨work, hwork, haccount⟩ := watch_traced disk h schedule calls world
  refine ⟨work, ?_, ?_⟩
  · rw [follow_eq_watch, follow_eq_watch]
    change ((_, _), _) = _
    rw [hwork]
    rfl
  · rw [follow_eq_watch]
    exact haccount

/-- What the calls of a write phase are, and how it may end. -/
structure Worked {α : Type} (formatting : Option (Formatting (StateM σ))) (files : List FileSpec)
    (answer : Except GenerationError α) (work : List Call) : Prop where
  kinds : ∀ call ∈ work, call.isFormat = true ∨ call.touchesDisk = true
  formats : ∃ asked, work.filter Call.isFormat = formatCalls formatting asked ∧
    asked.Subperm files ∧ ((∃ result, answer = .ok result) → asked.Perm files)
  late : ∀ error, answer = .error error → error.isLate = true

theorem Worked.resolvedFrom?_eq_none {α : Type} {files : List FileSpec}
    {answer : Except GenerationError α} {work : List Call}
    (h : Worked formatting files answer work) : ∀ call ∈ work, call.resolvedFrom? = none := by
  intro call hcall
  have hkind := h.kinds call hcall
  cases call <;> simp [Call.isFormat, Call.touchesDisk, Call.resolvedFrom?] at hkind ⊢

theorem Worked.not_mem_synthesize {α : Type} {files : List FileSpec}
    {answer : Except GenerationError α} {work : List Call}
    (h : Worked formatting files answer work) : .synthesize ∉ work := by
  intro hcall
  have hkind := h.kinds _ hcall
  simp [Call.isFormat, Call.touchesDisk] at hkind

theorem Worked.map {α β : Type} {files : List FileSpec} {answer : Except GenerationError α}
    {work : List Call} (f : α → β) (h : Worked formatting files answer work) :
    Worked formatting files (answer.map f) work := by
  obtain ⟨asked, hasked, hpart, hall⟩ := h.formats
  refine ⟨h.kinds, ⟨asked, hasked, hpart, fun hok => hall ?_⟩, fun error herror => h.late error ?_⟩
  · cases answer with
    | error error =>
      obtain ⟨result, hresult⟩ := hok
      cases hresult
    | ok result => exact ⟨result, rfl⟩
  · cases answer with
    | error other => rw [Except.error.inj herror]
    | ok result => cases herror

theorem Accounted.worked {files : List FileSpec} {tasks : List WriteTask} {calls : List Call}
    {seen : Option GenerationError} (h : Accounted formatting files tasks calls)
    (hfinished : ∀ task ∈ tasks, task.isFinished = true)
    (hseen : ∀ error, seen = some error → ∃ task ∈ tasks, task.progress = .failed error) :
    Worked formatting files (outcome seen tasks) calls := by
  obtain ⟨asked, lost, hasked, hperm, hlost⟩ := h.asked
  have hpending : pendingFiles tasks = [] := by
    have hnone : tasks.filter isPending = [] := by
      apply List.filter_eq_nil_iff.mpr
      intro task ht hpending
      have hend := hfinished task ht
      obtain ⟨file, progress⟩ := task
      cases progress <;> first | (cases hpending; done) | cases hend
    rw [pendingFiles, hnone, List.map_nil]
  rw [hpending, List.nil_append] at hperm
  refine ⟨h.work, ⟨asked, hasked, ?_, ?_⟩, fun error herror => ?_⟩
  · exact (List.sublist_append_left asked lost).subperm.trans hperm.subperm
  · rintro ⟨paths, hok⟩
    have hwritten := ((outcome_ok hfinished hseen).mp hok).2
    have hnone : ∀ task ∈ tasks, task.error? = none := by
      intro task ht
      have hprogress := hwritten task ht
      obtain ⟨file, progress⟩ := task
      obtain rfl : progress = .written := hprogress
      rfl
    rw [hlost hnone, List.append_nil] at hperm
    exact hperm
  · obtain ⟨task, ht, hfailed⟩ := outcome_error hseen herror
    exact h.late task ht error (error?_eq_some.mpr hfailed)

theorem run_traced (disk : Disk (StateM σ)) (formatting : Option (Formatting (StateM σ)))
    (schedule : List Nat) (files : List FileSpec) (calls : List Call) (world : σ) :
    ∃ work, run disk.traced (Formatting.traced formatting) schedule files calls world
        = (((run disk formatting schedule files world).1, calls ++ work),
          (run disk formatting schedule files world).2) ∧
      Worked formatting files (run disk formatting schedule files world).1 work := by
  have hrun : run disk.traced (Formatting.traced formatting) schedule files calls world
      = (let reached := watch disk.traced (Formatting.traced formatting) schedule
          (files.map WriteTask.start) calls world
        let done := finish disk.traced (Formatting.traced formatting) reached.1.1.2 reached.1.2
          reached.2
        ((outcome reached.1.1.1 done.1.1, done.1.2), done.2)) := rfl
  have hplain : run disk formatting schedule files world
      = (let reached := watch disk formatting schedule (files.map WriteTask.start) world
        let done := finish disk formatting reached.1.2 reached.2
        (outcome reached.1.1 done.1, done.2)) := rfl
  obtain ⟨first, hfirst, haccount⟩ := watch_traced disk
    (accounted_start formatting files) schedule calls world
  have hseen := watch_seen disk formatting schedule (files.map WriteTask.start) world
  rw [hrun, hplain, hfirst]
  generalize watch disk formatting schedule (files.map WriteTask.start) world = reached
    at haccount hseen ⊢
  obtain ⟨⟨seen, tasks⟩, now⟩ := reached
  obtain ⟨second, hsecond, hend⟩ := follow_traced disk haccount
    (completion tasks.length) (calls ++ first) now
  dsimp only at hseen ⊢
  rw [finish_eq_follow, hsecond, List.append_assoc]
  refine ⟨first ++ second, ?_, ?_⟩
  · rw [finish_eq_follow]
  · have hfinished := finish_finished disk formatting tasks now
    rw [finish_eq_follow] at hfinished ⊢
    refine hend.worked hfinished fun error herror => ?_
    obtain ⟨task, ht, hfailed⟩ := hseen error herror
    exact ⟨task, failed_stays ht hfailed disk formatting _ now, hfailed⟩

end Writing

end DtoGen

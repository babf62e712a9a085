import Mathlib.Data.List.TakeWhile
import DtoGen.Generation.Writing

namespace DtoGen

namespace WriteTask

variable {σ : Type} {disk : Disk (StateM σ)} {formatting : Option (Formatting (StateM σ))}

/-- How many steps are left at most. -/
def stepsLeft : Progress → Nat
  | .waiting => 3
  | .prepared => 2
  | .formatted _ => 1
  | .written | .failed _ => 0

theorem isFinished_iff {task : WriteTask} :
    task.isFinished = true ↔ stepsLeft task.progress = 0 := by
  obtain ⟨file, progress⟩ := task
  cases progress <;> simp [isFinished, stepsLeft]

theorem prepare_cases (disk : Disk (StateM σ)) (file : FileSpec) (world : σ) :
    (prepare disk file world).1 = .prepared ∨
      ∃ directory, (prepare disk file world).1 = .failed (.write directory) := by
  unfold prepare
  cases file.directoryToMake? with
  | none => exact .inl rfl
  | some directory =>
    change (if (disk.createDirectories directory world).1 then Progress.prepared
        else .failed (.write directory)) = .prepared ∨ ∃ other,
      (if (disk.createDirectories directory world).1 then Progress.prepared
        else .failed (.write directory)) = .failed (.write other)
    cases (disk.createDirectories directory world).1 with
    | true => exact .inl rfl
    | false => exact .inr ⟨directory, rfl⟩

theorem format_eq (formatting : Option (Formatting (StateM σ))) (file : FileSpec) (world : σ) :
    format formatting file world
      = ((match (Formatting.apply formatting file world).1 with
          | .ok content => .formatted content
          | .error reason => .failed (.format file.path reason)),
        (Formatting.apply formatting file world).2) := by
  change (match (Formatting.apply formatting file world).1 with
    | .ok content => (pure (.formatted content) : StateM σ Progress)
    | .error reason => pure (.failed (.format file.path reason)))
      (Formatting.apply formatting file world).2 = _
  cases (Formatting.apply formatting file world).1 <;> rfl

theorem format_cases (formatting : Option (Formatting (StateM σ))) (file : FileSpec) (world : σ) :
    (∃ content, (format formatting file world).1 = .formatted content) ∨
      ∃ reason, (format formatting file world).1 = .failed (.format file.path reason) := by
  rw [format_eq]
  cases (Formatting.apply formatting file world).1 with
  | ok content => exact .inl ⟨content, rfl⟩
  | error reason => exact .inr ⟨reason, rfl⟩

theorem write_cases (disk : Disk (StateM σ)) (path : Path) (content : String) (world : σ) :
    (write disk path content world).1 = .written ∨
      (write disk path content world).1 = .failed (.write path) := by
  change (if (disk.write path content world).1 then Progress.written
      else .failed (.write path)) = .written ∨
    (if (disk.write path content world).1 then Progress.written
      else .failed (.write path)) = .failed (.write path)
  cases (disk.write path content world).1 with
  | true => exact .inl rfl
  | false => exact .inr rfl

theorem step_file (task : WriteTask) (world : σ) :
    (task.step disk formatting world).1.file = task.file := by
  obtain ⟨file, progress⟩ := task
  cases progress <;> rfl

theorem step_of_finished {task : WriteTask} (h : task.isFinished = true) (world : σ) :
    task.step disk formatting world = (task, world) := by
  obtain ⟨file, progress⟩ := task
  cases progress <;> first | rfl | cases h

/-- What a step can make of a task. -/
inductive Moves : WriteTask → WriteTask → Prop
  | prepared (file : FileSpec) : Moves ⟨file, .waiting⟩ ⟨file, .prepared⟩
  | unprepared (file : FileSpec) (directory : Path) :
    Moves ⟨file, .waiting⟩ ⟨file, .failed (.write directory)⟩
  | formatted (file : FileSpec) (content : String) :
    Moves ⟨file, .prepared⟩ ⟨file, .formatted content⟩
  | rejected (file : FileSpec) (reason : String) :
    Moves ⟨file, .prepared⟩ ⟨file, .failed (.format file.path reason)⟩
  | written (file : FileSpec) (content : String) :
    Moves ⟨file, .formatted content⟩ ⟨file, .written⟩
  | refused (file : FileSpec) (content : String) :
    Moves ⟨file, .formatted content⟩ ⟨file, .failed (.write file.path)⟩
  | finished {task : WriteTask} (h : task.isFinished = true) : Moves task task

theorem step_moves (disk : Disk (StateM σ)) (formatting : Option (Formatting (StateM σ)))
    (task : WriteTask) (world : σ) : Moves task (task.step disk formatting world).1 := by
  obtain ⟨file, progress⟩ := task
  cases progress with
  | waiting =>
    change Moves _ ⟨file, (prepare disk file world).1⟩
    rcases prepare_cases disk file world with h | ⟨directory, h⟩ <;> rw [h]
    · exact .prepared file
    · exact .unprepared file directory
  | prepared =>
    change Moves _ ⟨file, (format formatting file world).1⟩
    rcases format_cases formatting file world with ⟨content, h⟩ | ⟨reason, h⟩ <;> rw [h]
    · exact .formatted file content
    · exact .rejected file reason
  | formatted content =>
    change Moves _ ⟨file, (write disk file.path content world).1⟩
    rcases write_cases disk file.path content world with h | h <;> rw [h]
    · exact .written file content
    · exact .refused file content
  | written => exact .finished rfl
  | failed error => exact .finished rfl

theorem stepsLeft_step (disk : Disk (StateM σ)) (formatting : Option (Formatting (StateM σ)))
    (task : WriteTask) (world : σ) :
    stepsLeft (task.step disk formatting world).1.progress ≤ stepsLeft task.progress - 1 := by
  have hmoves := step_moves disk formatting task world
  generalize (task.step disk formatting world).1 = next at hmoves ⊢
  cases hmoves with
  | finished h => rw [isFinished_iff.mp h]
  | _ => simp [stepsLeft]

theorem steps_succ (count : Nat) (task : WriteTask) (world : σ) :
    steps disk formatting (count + 1) task world
      = (steps disk formatting count task world).1.step disk formatting
          (steps disk formatting count task world).2 := by
  induction count generalizing task world with
  | zero => rfl
  | succ count ih =>
    have hhead : ∀ n, steps disk formatting (n + 1) task world
        = steps disk formatting n (task.step disk formatting world).1
          (task.step disk formatting world).2 := fun _ => rfl
    rw [hhead, ih, hhead]

theorem stepsLeft_steps (disk : Disk (StateM σ)) (formatting : Option (Formatting (StateM σ)))
    (count : Nat) (task : WriteTask) (world : σ) :
    stepsLeft (steps disk formatting count task world).1.progress
      ≤ stepsLeft task.progress - count := by
  induction count with
  | zero => exact Nat.le_refl _
  | succ count ih =>
    rw [steps_succ]
    have hstep := stepsLeft_step disk formatting
      (steps disk formatting count task world).1 (steps disk formatting count task world).2
    omega

/-- Whatever it has done before, a task is finished when it has taken all its steps. -/
theorem steps_finished (task : WriteTask) (world : σ) :
    (steps disk formatting stepCount task world).1.isFinished = true := by
  have hmost : stepsLeft task.progress ≤ stepCount := by
    cases task.progress <;> simp [stepsLeft, stepCount]
  have hleft := stepsLeft_steps disk formatting stepCount task world
  exact isFinished_iff.mpr (by omega)

end WriteTask

namespace Writing

open WriteTask

variable {σ : Type} {disk : Disk (StateM σ)} {formatting : Option (Formatting (StateM σ))}

theorem stepAt_eq (disk : Disk (StateM σ)) (formatting : Option (Formatting (StateM σ))) (i : Nat)
    (tasks : List WriteTask) (world : σ) :
    stepAt disk formatting i tasks world = match tasks[i]? with
      | none => (tasks, world)
      | some task => (tasks.set i (task.step disk formatting world).1,
          (task.step disk formatting world).2) := by
  induction tasks generalizing i with
  | nil => cases i <;> rfl
  | cons task tasks ih =>
    cases i with
    | zero => rfl
    | succ i =>
      have hhead : stepAt disk formatting (i + 1) (task :: tasks) world
          = (task :: (stepAt disk formatting i tasks world).1,
            (stepAt disk formatting i tasks world).2) := rfl
      rw [hhead, ih, List.getElem?_cons_succ]
      cases tasks[i]? <;> rfl

theorem exists_split {tasks : List WriteTask} {i : Nat} {task : WriteTask}
    (h : tasks[i]? = some task) :
    ∃ before behind, tasks = before ++ task :: behind ∧ i = before.length := by
  obtain ⟨hi, rfl⟩ := List.getElem?_eq_some_iff.mp h
  refine ⟨tasks.take i, tasks.drop (i + 1), ?_, ?_⟩
  · rw [List.getElem_cons_drop, List.take_append_drop]
  · rw [List.length_take, Nat.min_eq_left (Nat.le_of_lt hi)]

theorem stepAt_split (disk : Disk (StateM σ)) (formatting : Option (Formatting (StateM σ)))
    (before behind : List WriteTask) (task : WriteTask) (world : σ) :
    stepAt disk formatting before.length (before ++ task :: behind) world
      = (before ++ (task.step disk formatting world).1 :: behind,
        (task.step disk formatting world).2) := by
  rw [stepAt_eq]
  simp

/-- Of the tasks after a step, only the one that took it is new. -/
theorem mem_of_replaced {before behind : List WriteTask} {task next other : WriteTask}
    (h : other ∈ before ++ next :: behind) : other = next ∨ other ∈ before ++ task :: behind := by
  rcases List.mem_append.mp h with hbefore | h
  · exact .inr (List.mem_append_left _ hbefore)
  · rcases List.mem_cons.mp h with rfl | hbehind
    · exact .inl rfl
    · exact .inr (List.mem_append_right _ (List.mem_cons_of_mem _ hbehind))

theorem follow_cons (i : Nat) (schedule : List Nat) (tasks : List WriteTask) (world : σ) :
    follow disk formatting (i :: schedule) tasks world
      = follow disk formatting schedule (stepAt disk formatting i tasks world).1
          (stepAt disk formatting i tasks world).2 := rfl

theorem follow_files (disk : Disk (StateM σ)) (formatting : Option (Formatting (StateM σ)))
    (schedule : List Nat) (tasks : List WriteTask) (world : σ) :
    (follow disk formatting schedule tasks world).1.map (·.file) = tasks.map (·.file) := by
  induction schedule generalizing tasks world with
  | nil => rfl
  | cons i schedule ih =>
    rw [follow_cons, ih]
    cases htask : tasks[i]? with
    | none => rw [stepAt_eq, htask]
    | some task =>
      obtain ⟨ahead, behind, rfl, rfl⟩ := exists_split htask
      rw [stepAt_split, List.map_append, List.map_append, List.map_cons, List.map_cons, step_file]

theorem follow_start_files (disk : Disk (StateM σ)) (formatting : Option (Formatting (StateM σ)))
    (schedule : List Nat) (files : List FileSpec) (world : σ) :
    (follow disk formatting schedule (files.map WriteTask.start) world).1.map (·.file) = files := by
  rw [follow_files, List.map_map]
  exact List.map_id files

theorem follow_start_paths (disk : Disk (StateM σ)) (formatting : Option (Formatting (StateM σ)))
    (schedule : List Nat) (files : List FileSpec) (world : σ) :
    (follow disk formatting schedule (files.map WriteTask.start) world).1.map (·.file.path)
      = files.map (·.path) := by
  have hmap := congrArg (List.map FileSpec.path)
    (follow_start_files disk formatting schedule files world)
  rwa [List.map_map] at hmap

section Lawful

variable {m : Type → Type} [Monad m] [LawfulMonad m] {d : Disk m} {f : Option (Formatting m)}

theorem follow_append (first second : List Nat) (tasks : List WriteTask) :
    follow d f (first ++ second) tasks = follow d f first tasks >>= follow d f second := by
  induction first generalizing tasks with
  | nil => simp [follow]
  | cons i first ih => simp [follow, ih]

theorem follow_behind (schedule : List Nat) (task : WriteTask) (tasks : List WriteTask) :
    follow d f (schedule.map (· + 1)) (task :: tasks)
      = (task :: ·) <$> follow d f schedule tasks := by
  induction schedule generalizing tasks with
  | nil => simp [follow]
  | cons i schedule ih => simp [follow, stepAt, ih]

theorem follow_first (count : Nat) (task : WriteTask) (tasks : List WriteTask) :
    follow d f (List.replicate count 0) (task :: tasks)
      = (· :: tasks) <$> task.steps d f count := by
  induction count generalizing task with
  | zero => simp [follow, steps]
  | succ count ih => simp [List.replicate_succ, follow, stepAt, steps, ih]

/-- To follow a schedule is to watch it, whatever is seen. -/
theorem follow_eq_watch (schedule : List Nat) (tasks : List WriteTask) :
    follow d f schedule tasks = Prod.snd <$> watch d f schedule tasks := by
  induction schedule generalizing tasks with
  | nil => simp [follow, watch]
  | cons i schedule ih => simp [follow, watch, ih]

/-- The steps that are taken when the schedule is over, as a schedule. -/
def completion : Nat → List Nat
  | 0 => []
  | count + 1 => List.replicate stepCount 0 ++ (completion count).map (· + 1)

theorem finish_eq_follow (tasks : List WriteTask) :
    finish d f tasks = follow d f (completion tasks.length) tasks := by
  induction tasks with
  | nil => rfl
  | cons task tasks ih =>
    rw [List.length_cons, completion, follow_append, follow_first]
    simp [finish, follow_behind, ih]

end Lawful

theorem finish_finished (disk : Disk (StateM σ)) (formatting : Option (Formatting (StateM σ)))
    (tasks : List WriteTask) (world : σ) :
    ∀ task ∈ (finish disk formatting tasks world).1, task.isFinished = true := by
  induction tasks generalizing world with
  | nil => exact fun _ h => by cases h
  | cons task tasks ih =>
    intro other hother
    rcases List.mem_cons.mp hother with rfl | hother
    · exact steps_finished task world
    · exact ih _ other hother

theorem watch_follows (disk : Disk (StateM σ)) (formatting : Option (Formatting (StateM σ)))
    (schedule : List Nat) (tasks : List WriteTask) (world : σ) :
    ((watch disk formatting schedule tasks world).1.2,
      (watch disk formatting schedule tasks world).2)
        = follow disk formatting schedule tasks world := by
  rw [follow_eq_watch]
  rfl

theorem error?_eq_some {task : WriteTask} {error : GenerationError} :
    task.error? = some error ↔ task.progress = .failed error := by
  obtain ⟨file, progress⟩ := task
  cases progress <;> simp [error?]

/-- A task that has failed stays as it is, whatever the others do. -/
theorem failed_stays {tasks : List WriteTask} {task : WriteTask} {error : GenerationError}
    (ht : task ∈ tasks) (hfailed : task.progress = .failed error)
    (disk : Disk (StateM σ)) (formatting : Option (Formatting (StateM σ))) (schedule : List Nat)
    (world : σ) : task ∈ (follow disk formatting schedule tasks world).1 := by
  induction schedule generalizing tasks world with
  | nil => exact ht
  | cons i schedule ih =>
    rw [follow_cons]
    refine ih ?_ _
    rw [stepAt_eq]
    cases hi : tasks[i]? with
    | none => exact ht
    | some other =>
      obtain ⟨before, behind, rfl, rfl⟩ := exists_split hi
      simp only [List.set_append_right _ _ (Nat.le_refl _), Nat.sub_self, List.set_cons_zero]
      rcases List.mem_append.mp ht with hbefore | hrest
      · exact List.mem_append_left _ hbefore
      · rcases List.mem_cons.mp hrest with rfl | hbehind
        · have hfinished : task.isFinished = true := by simp [isFinished, hfailed]
          rw [step_of_finished hfinished]
          exact List.mem_append_right _ List.mem_cons_self
        · exact List.mem_append_right _ (List.mem_cons_of_mem _ hbehind)

theorem failure?_eq_some {tasks : List WriteTask} {error : GenerationError}
    (h : failure? tasks = some error) : ∃ task ∈ tasks, task.progress = .failed error := by
  unfold failure? at h
  obtain ⟨task, ht, herror⟩ := List.exists_of_findSome?_eq_some h
  refine ⟨task, ?_, error?_eq_some.mp herror⟩
  split at ht
  · exact ht
  · exact (List.takeWhile_prefix _).subset ht

/-- All finished tasks are seen. -/
theorem failure?_eq_none {tasks : List WriteTask}
    (hfinished : ∀ task ∈ tasks, task.isFinished = true) :
    failure? tasks = none ↔ ∀ task ∈ tasks, task.progress = .written := by
  have hwritten : ∀ task ∈ tasks, task.error? = none ↔ task.progress = .written := by
    intro task ht
    have hend := hfinished task ht
    obtain ⟨file, progress⟩ := task
    cases progress <;> first | (cases hend; done) | simp [error?]
  unfold failure?
  dsimp only
  rw [List.takeWhile_eq_self_iff.mpr hfinished, ite_self, List.findSome?_eq_none_iff]
  exact forall₂_congr hwritten

/-- A failure that is seen is that of a task, which keeps it. -/
theorem watch_seen (disk : Disk (StateM σ)) (formatting : Option (Formatting (StateM σ)))
    (schedule : List Nat) (tasks : List WriteTask) (world : σ) (error : GenerationError)
    (h : (watch disk formatting schedule tasks world).1.1 = some error) :
    ∃ task ∈ (watch disk formatting schedule tasks world).1.2, task.progress = .failed error := by
  induction schedule generalizing tasks world with
  | nil => cases h
  | cons i schedule ih =>
    have hhead : (watch disk formatting (i :: schedule) tasks world).1.1
        = (if tasks.length ≤ i then failure? tasks else none).or
          (watch disk formatting schedule (stepAt disk formatting i tasks world).1
            (stepAt disk formatting i tasks world).2).1.1 := rfl
    rw [hhead, Option.or_eq_some_iff] at h
    rcases h with hseen | ⟨_, hlater⟩
    · obtain ⟨task, ht, hfailed⟩ := failure?_eq_some (Option.ite_none_right_eq_some.mp hseen).2
      have hends := congrArg Prod.fst
        (watch_follows disk formatting (i :: schedule) tasks world)
      have hkept := failed_stays ht hfailed disk formatting (i :: schedule) world
      rw [← hends] at hkept
      exact ⟨task, hkept, hfailed⟩
    · exact ih _ _ hlater

/-- A run is a schedule that finishes all tasks, and a failure of one of them that was seen
before. -/
theorem run_eq_follow (disk : Disk (StateM σ)) (formatting : Option (Formatting (StateM σ)))
    (schedule : List Nat) (files : List FileSpec) (world : σ) :
    ∃ complete seen, run disk formatting schedule files world
        = (outcome seen (follow disk formatting complete (files.map WriteTask.start) world).1,
          (follow disk formatting complete (files.map WriteTask.start) world).2) ∧
      (∀ task ∈ (follow disk formatting complete (files.map WriteTask.start) world).1,
        task.isFinished = true) ∧
      ∀ error, seen = some error →
        ∃ task ∈ (follow disk formatting complete (files.map WriteTask.start) world).1,
          task.progress = .failed error := by
  have hwatch := watch_follows disk formatting schedule (files.map WriteTask.start) world
  refine ⟨schedule ++ completion
    (follow disk formatting schedule (files.map WriteTask.start) world).1.length,
    (watch disk formatting schedule (files.map WriteTask.start) world).1.1, ?_⟩
  have happend := congrFun (follow_append (d := disk) (f := formatting) schedule (completion
    (follow disk formatting schedule (files.map WriteTask.start) world).1.length)
    (files.map WriteTask.start)) world
  rw [happend]
  change run disk formatting schedule files world
    = (outcome _ (follow disk formatting (completion _) _ _).1,
      (follow disk formatting (completion _) _ _).2) ∧
    (∀ task ∈ (follow disk formatting (completion _) _ _).1, task.isFinished = true) ∧
    ∀ error, _ → ∃ task ∈ (follow disk formatting (completion _) _ _).1, _
  rw [← finish_eq_follow]
  refine ⟨?_, finish_finished disk formatting _ _, fun error hseen => ?_⟩
  · rw [← hwatch]
    rfl
  · obtain ⟨task, ht, hfailed⟩ := watch_seen disk formatting schedule _ world error hseen
    rw [finish_eq_follow, ← hwatch]
    exact ⟨task, failed_stays ht hfailed disk formatting _ _, hfailed⟩

theorem outcome_error {seen : Option GenerationError} {tasks : List WriteTask}
    {error : GenerationError}
    (hseen : ∀ error, seen = some error → ∃ task ∈ tasks, task.progress = .failed error)
    (h : outcome seen tasks = .error error) : ∃ task ∈ tasks, task.progress = .failed error := by
  unfold outcome at h
  split at h
  · rename_i found hfound
    obtain rfl := Except.error.inj h
    rcases Option.or_eq_some_iff.mp hfound with hbefore | ⟨_, hnow⟩
    · exact hseen found hbefore
    · exact failure?_eq_some hnow
  · cases h

theorem outcome_ok {seen : Option GenerationError} {tasks : List WriteTask} {paths : List Path}
    (hfinished : ∀ task ∈ tasks, task.isFinished = true)
    (hseen : ∀ error, seen = some error → ∃ task ∈ tasks, task.progress = .failed error) :
    outcome seen tasks = .ok paths ↔
      paths = tasks.map (·.file.path) ∧ ∀ task ∈ tasks, task.progress = .written := by
  have hnone : seen.or (failure? tasks) = none ↔ ∀ task ∈ tasks, task.progress = .written := by
    rw [Option.or_eq_none_iff, failure?_eq_none hfinished, and_iff_right_iff_imp]
    intro hall
    cases seen with
    | none => rfl
    | some error =>
      obtain ⟨task, ht, hfailed⟩ := hseen error rfl
      rw [hall task ht] at hfailed
      cases hfailed
  rw [← hnone]
  unfold outcome
  split
  · rename_i error herror
    simp [herror]
  · rename_i hfound
    rw [Except.ok.injEq, and_iff_left hfound]
    exact eq_comm

/-- A run that goes well follows a schedule in which every task has written its file. -/
theorem run_ok {schedule : List Nat} {files : List FileSpec} {world : σ} {paths : List Path}
    (h : (run disk formatting schedule files world).1 = .ok paths) :
    ∃ complete, (run disk formatting schedule files world).2
        = (follow disk formatting complete (files.map WriteTask.start) world).2 ∧
      paths = files.map (·.path) ∧
      (follow disk formatting complete (files.map WriteTask.start) world).1.map (·.file) = files ∧
      ∀ task ∈ (follow disk formatting complete (files.map WriteTask.start) world).1,
        task.progress = .written := by
  obtain ⟨complete, seen, hrun, hfinished, hseen⟩ :=
    run_eq_follow disk formatting schedule files world
  rw [hrun] at h ⊢
  obtain ⟨hpaths, hwritten⟩ := (outcome_ok hfinished hseen).mp h
  exact ⟨complete, rfl, hpaths.trans (follow_start_paths disk formatting complete files world),
    follow_start_files disk formatting complete files world, hwritten⟩

end Writing

end DtoGen

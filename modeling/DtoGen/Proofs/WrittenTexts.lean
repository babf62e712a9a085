import Mathlib.Data.List.Nodup
import DtoGen.Proofs.LoneTask

namespace DtoGen

/-- The world of the disk holds a file tree, and the disk works on that. -/
structure Disk.ActsOn {σ : Type} (disk : Disk (StateM σ)) (tree : σ → FileTree) : Prop where
  createDirectories : ∀ path world,
    (disk.createDirectories path world).1 = ((tree world).createDirectories path).1 ∧
      tree (disk.createDirectories path world).2 = ((tree world).createDirectories path).2
  write : ∀ path content world,
    (disk.write path content world).1 = ((tree world).writeText path content).1 ∧
      tree (disk.write path content world).2 = ((tree world).writeText path content).2

theorem Disk.ofFileTree_actsOn : Disk.ofFileTree.ActsOn id :=
  ⟨fun _ _ => ⟨rfl, rfl⟩, fun _ _ _ => ⟨rfl, rfl⟩⟩

namespace Formatting

variable {σ : Type}

/-- No formatting changes the tree. -/
def Spares (formatting : Option (Formatting (StateM σ))) (tree : σ → FileTree) : Prop :=
  ∀ file world, tree (apply formatting file world).2 = tree world

/-- The text is an answer for the file. -/
def Answers (formatting : Option (Formatting (StateM σ))) (file : FileSpec) (text : String) :
    Prop :=
  ∃ world, (apply formatting file world).1 = .ok text

end Formatting

namespace FileTree

/-- A second write leaves what it would have left as the first one. -/
theorem afterWrite_afterWrite {before now : FileTree} (h : SameFrame before now)
    (old : Option Entry) (first second : ByteArray) :
    now.afterWrite (some (before.afterWrite old first)) second = before.afterWrite old second := by
  unfold afterWrite newMode
  rw [h.mask]
  rcases old with _ | (_ | _ | _ | _ | _) <;> rfl

theorem fromUTF8?_toUTF8 (text : String) : String.fromUTF8? text.toUTF8 = some text := by
  unfold String.fromUTF8?
  exact dif_pos text.isValidUTF8

/-- A write leaves a file with its content, or the device that was there. -/
theorem afterWrite_cases (tree : FileTree) (old : Option Entry) (content : ByteArray) :
    (∃ mode, tree.afterWrite old content = .file content mode) ∨
      ∃ device, old = some (.device device) ∧ tree.afterWrite old content = .device device := by
  unfold afterWrite
  split
  · exact .inl ⟨_, rfl⟩
  · exact .inr ⟨_, rfl, rfl⟩
  · exact .inl ⟨_, rfl⟩
  · exact .inl ⟨_, rfl⟩

/-- What has been written reads back, unless it was written to a device. -/
theorem readText?_of_afterWrite {before after : FileTree} {path : Path} {place : Place}
    {text : String} (hpath : meansDirectory path = false) (hplace : after.locate? path = some place)
    (hdevice : ∀ device, before.entry? place ≠ some (.device device))
    (h : after.entry? place = some (before.afterWrite (before.entry? place) text.toUTF8)) :
    after.readText? path = some text := by
  rcases before.afterWrite_cases (before.entry? place) text.toUTF8 with
    ⟨mode, hfile⟩ | ⟨device, hold, _⟩
  · rw [hfile] at h
    have hbytes : after.readBytes? path = some text.toUTF8 := by
      simp [readBytes?, find?, hplace, h, visible?, hpath, Entry.content?]
    rw [readText?, hbytes]
    exact fromUTF8?_toUTF8 text
  · exact absurd hold (hdevice device)

/-- The place is as it was, or is a new directory. -/
def Keeps (before now : FileTree) (place : Place) : Prop :=
  now.entry? place = before.entry? place ∨
    before.entry? place = none ∧ now.entry? place = some .directory

theorem Keeps.trans_makes {before now made : FileTree} {place : Place}
    (h : Keeps before now place) (hmakes : MakesDirectories now made) :
    Keeps before made place := by
  rcases h with hsame | ⟨hnone, hnew⟩
  · rcases hmakes.entry place with heq | ⟨hnone, _, hnew⟩
    · exact .inl (heq.trans hsame)
    · exact .inr ⟨hsame.symm.trans hnone, hnew⟩
  · exact .inr ⟨hnone, hmakes.entry_of_some hnew⟩

end FileTree

namespace Writing

open FileTree WriteTask

variable {σ : Type} {disk : Disk (StateM σ)} {formatting : Option (Formatting (StateM σ))}
  {tree : σ → FileTree}

/-- The task has written to the file of a name. -/
structure HasWritten (now : FileTree) (name : Place) (task : WriteTask) : Prop where
  progress : task.progress = .written
  path : meansDirectory task.file.path = false
  reach : ∃ place, now.reach task.file.path = .place place ∧ now.SameFile place name

/-- What some task that has written to the file of a name has left there, as it was let to. -/
def HoldsText (formatting : Option (Formatting (StateM σ))) (before now : FileTree)
    (tasks : List WriteTask) (name : Place) : Prop :=
  before.mayWrite name = true ∧
    ∃ task ∈ tasks, HasWritten now name task ∧ ∃ text, Formatting.Answers formatting task.file text ∧
      now.entry? name = some (before.afterWrite (before.entry? name) text.toUTF8)

/-- What the tasks have done to the tree by now. -/
structure Kept (formatting : Option (Formatting (StateM σ))) (before now : FileTree)
    (tasks : List WriteTask) : Prop where
  grows : Grows before now
  formatted : ∀ task ∈ tasks, ∀ text, task.progress = .formatted text →
    Formatting.Answers formatting task.file text
  led : ∀ task ∈ tasks, task.progress = .written → ∃ place, HasWritten now place task
  untouched : ∀ place, (∀ task ∈ tasks, ¬HasWritten now place task) → Keeps before now place
  holds : ∀ place, (∃ task ∈ tasks, HasWritten now place task) →
    HoldsText formatting before now tasks place

theorem HasWritten.of_grows {now later : FileTree} (h : Grows now later) {place : Place}
    {task : WriteTask} (hwritten : HasWritten now place task) : HasWritten later place task := by
  obtain ⟨own, hreach, hsame⟩ := hwritten.reach
  refine ⟨hwritten.progress, hwritten.path, own, ?_, (h.sameFile own place).mpr hsame⟩
  rw [h.reach_eq (by simp [hreach])]
  exact hreach

/-- What has written stays among the tasks when one that has not takes a step. -/
theorem HasWritten.stays {now later : FileTree} {place : Place} {ahead behind : List WriteTask}
    {task next other : WriteTask} (h : HasWritten now place other) (hgrows : Grows now later)
    (hwas : task.progress ≠ .written) (hother : other ∈ ahead ++ task :: behind) :
    other ∈ ahead ++ next :: behind ∧ HasWritten later place other := by
  refine ⟨(mem_of_replaced hother).resolve_left ?_, h.of_grows hgrows⟩
  rintro rfl
  exact hwas h.progress

theorem HasWritten.fileOf?_eq {now : FileTree} {name : Place} {task : WriteTask}
    (h : HasWritten now name task) : now.fileOf? task.file.path = some (now.identity name) := by
  obtain ⟨place, hreach, hsame⟩ := h.reach
  rw [fileOf?, FileTree.locate?_eq, hreach]
  exact congrArg some hsame

theorem kept_start (formatting : Option (Formatting (StateM σ))) (before : FileTree)
    (files : List FileSpec) : Kept formatting before before (files.map WriteTask.start) := by
  have hwaiting : ∀ task ∈ files.map WriteTask.start, task.progress = .waiting := by
    intro task ht
    obtain ⟨file, _, rfl⟩ := List.mem_map.mp ht
    rfl
  refine ⟨.refl before, fun task ht text h => ?_, fun task ht h => ?_, fun place _ => .inl rfl,
    fun place hplace => ?_⟩
  · rw [hwaiting task ht] at h
    cases h
  · rw [hwaiting task ht] at h
    cases h
  · obtain ⟨task, ht, h⟩ := hplace
    have hprogress := h.progress
    rw [hwaiting task ht] at hprogress
    cases hprogress

namespace Kept

variable {before now later : FileTree} {ahead behind : List WriteTask} {task next : WriteTask}

/-- A task that has written by now has written to the same file before the tree grew. -/
theorem hasWritten_back {tasks : List WriteTask} (h : Kept formatting before now tasks)
    (hgrows : Grows now later) (ht : task ∈ tasks) {place : Place}
    (hwritten : HasWritten later place task) : HasWritten now place task := by
  obtain ⟨other, hother⟩ := h.led task ht hwritten.progress
  obtain ⟨own, hreach, _⟩ := hother.reach
  obtain ⟨found, hlater, hsame⟩ := hwritten.reach
  rw [hgrows.reach_eq (by simp [hreach]), hreach] at hlater
  obtain rfl := Lead.place.inj hlater
  exact ⟨hother.progress, hother.path, own, hreach, (hgrows.sameFile own place).mp hsame⟩

/-- A task that has not written takes a step and has still not written. -/
theorem unwritten (h : Kept formatting before now (ahead ++ task :: behind))
    (hmakes : MakesDirectories now later) (hwas : task.progress ≠ .written)
    (hnot : next.progress ≠ .written)
    (hanswers : ∀ text, next.progress = .formatted text →
      Formatting.Answers formatting next.file text) :
    Kept formatting before later (ahead ++ next :: behind) := by
  have hgrows := hmakes.grows
  have hold : ∀ other ∈ ahead ++ next :: behind, other = next ∨
      other ∈ ahead ++ task :: behind := fun _ => mem_of_replaced
  refine ⟨h.grows.trans hgrows, fun other hother text htext => ?_, fun other hother hdone => ?_,
    fun place hnone => ?_, fun place hsome => ?_⟩
  · rcases hold other hother with rfl | hother
    · exact hanswers text htext
    · exact h.formatted other hother text htext
  · rcases hold other hother with rfl | hother
    · exact absurd hdone hnot
    · obtain ⟨place, hplace⟩ := h.led other hother hdone
      exact ⟨place, hplace.of_grows hgrows⟩
  · refine (h.untouched place fun other hother hwritten => ?_).trans_makes hmakes
    obtain ⟨hmem, hlater⟩ := hwritten.stays hgrows hwas hother
    exact hnone other hmem hlater
  · obtain ⟨other, hother, hwritten⟩ := hsome
    rcases hold other hother with rfl | hother
    · exact absurd hwritten.progress hnot
    · obtain ⟨hmay, writer, hwriter, hplace, text, hanswer, hentry⟩ :=
        h.holds place ⟨other, hother, h.hasWritten_back hgrows hother hwritten⟩
      obtain ⟨hmem, hlater⟩ := hplace.stays hgrows hwas hwriter
      exact ⟨hmay, writer, hmem, hlater, text, hanswer, hmakes.entry_of_some hentry⟩

/-- What a write leaves does not depend on the writes that were there before. -/
theorem afterWrite_eq {tasks : List WriteTask} (h : Kept formatting before now tasks)
    {path : Path} {place : Place} (hw : now.writable? path = some (place, now.entry? place))
    (content : ByteArray) : now.afterWrite (now.entry? place) content
      = before.afterWrite (before.entry? place) content := by
  have hframe := h.grows.toSameFrame
  by_cases hsome : ∃ task ∈ tasks, HasWritten now place task
  · obtain ⟨_, _, _, _, text, _, hentry⟩ := h.holds place hsome
    rw [hentry]
    exact afterWrite_afterWrite hframe _ _ _
  · have hnone : ∀ task ∈ tasks, ¬HasWritten now place task := fun task ht hwritten =>
      hsome ⟨task, ht, hwritten⟩
    rcases h.untouched place hnone with hsame | ⟨_, hnew⟩
    · rw [hsame]
      exact afterWrite_congr hframe _ _
    · obtain ⟨_, _, hplace, _⟩ := writable?_eq_some.mp hw
      exact absurd (sight_eq_directory.mpr hnew) hplace

/-- A task writes its text. -/
theorem written {file : FileSpec} {text : String} {place : Place}
    (h : Kept formatting before now (ahead ++ ⟨file, .formatted text⟩ :: behind))
    (hw : now.writable? file.path = some (place, now.entry? place))
    (hput : Puts now place (now.afterWrite (now.entry? place) text.toUTF8) later) :
    Kept formatting before later (ahead ++ ⟨file, .written⟩ :: behind) := by
  have hgrows : Grows now later := hput.grows_of_write hw text.toUTF8
  obtain ⟨hreach, hpath, _, hmay, _⟩ := writable?_eq_some.mp hw
  have hreached : later.reach file.path = .place place :=
    (hgrows.reach_eq (by simp [hreach])).trans hreach
  have hhere : ∀ q, now.SameFile place q → HasWritten later q ⟨file, .written⟩ := fun q hq =>
    ⟨rfl, hpath, place, hreached, (hput.sameFile place q).mpr hq⟩
  have hmem : (⟨file, .written⟩ : WriteTask) ∈ ahead ++ ⟨file, .written⟩ :: behind := by simp
  have hold : ∀ other ∈ ahead ++ ⟨file, .written⟩ :: behind, other = ⟨file, .written⟩ ∨
      other ∈ ahead ++ ⟨file, .formatted text⟩ :: behind := fun _ => mem_of_replaced
  have hwas : (Progress.formatted text) ≠ .written := nofun
  refine ⟨h.grows.trans hgrows, fun other hother found hfound => ?_, fun other hother hdone => ?_,
    fun q hnone => ?_, fun q hsome => ?_⟩
  · rcases hold other hother with rfl | hother
    · cases hfound
    · exact h.formatted other hother found hfound
  · rcases hold other hother with rfl | hother
    · exact ⟨place, hhere place (.refl now place)⟩
    · obtain ⟨q, hq⟩ := h.led other hother hdone
      exact ⟨q, hq.of_grows hgrows⟩
  · have hq : ¬now.SameFile place q := fun hsame => hnone _ hmem (hhere q hsame)
    have hkeeps := h.untouched q fun other hother hwritten => by
      obtain ⟨hother, hlater⟩ := hwritten.stays hgrows hwas hother
      exact hnone other hother hlater
    rwa [Keeps, ← hput.elsewhere q hq] at hkeeps
  · -- either a name of the file that is written now, or one that keeps what it had
    by_cases hq : now.SameFile place q
    · have hbefore := (h.grows.sameFile place q).mp hq
      refine ⟨hbefore.mayWrite_eq.trans (h.grows.mayWrite_of hmay), _, hmem, hhere q hq, text,
        h.formatted ⟨file, .formatted text⟩ (by simp) text rfl, ?_⟩
      rw [hput.named q hq, h.afterWrite_eq hw, hbefore.entry?_eq]
    · obtain ⟨other, hother, hwritten⟩ := hsome
      rcases hold other hother with rfl | hother
      · obtain ⟨own, hown, hsame⟩ := hwritten.reach
        rw [hreached] at hown
        obtain rfl := Lead.place.inj hown
        exact absurd ((hput.sameFile place q).mp hsame) hq
      · obtain ⟨hbefore, writer, hwriter, hplace, found, hanswer, hentry⟩ :=
          h.holds q ⟨other, hother, h.hasWritten_back hgrows hother hwritten⟩
        obtain ⟨hwriter, hlater⟩ := hplace.stays hgrows hwas hwriter
        exact ⟨hbefore, writer, hwriter, hlater, found, hanswer, (hput.elsewhere q hq).trans hentry⟩

end Kept

theorem prepare_acts (hdisk : disk.ActsOn tree) (file : FileSpec) (world : σ) :
    (prepare disk file world).1 = (file.prepared (tree world)).1 ∧
      tree (prepare disk file world).2 = (file.prepared (tree world)).2 := by
  cases hd : file.directoryToMake? with
  | none =>
    rw [FileSpec.prepared_of_none hd]
    unfold prepare
    rw [hd]
    exact ⟨rfl, rfl⟩
  | some directory =>
    obtain ⟨hanswer, htree⟩ := hdisk.createDirectories directory world
    rw [FileSpec.prepared_of_some hd, ← hanswer, ← htree]
    unfold prepare
    rw [hd]
    exact ⟨rfl, rfl⟩

/-- What a step can make of a task and of the tree. -/
inductive MovesOn (formatting : Option (Formatting (StateM σ))) (now : FileTree) :
    WriteTask → WriteTask → FileTree → Prop
  | prepared {file : FileSpec} (h : (file.prepared now).1 = .prepared) :
    MovesOn formatting now ⟨file, .waiting⟩ ⟨file, .prepared⟩ (file.prepared now).2
  | unprepared {file : FileSpec} {error : GenerationError}
    (h : (file.prepared now).1 = .failed error) :
    MovesOn formatting now ⟨file, .waiting⟩ ⟨file, .failed error⟩ (file.prepared now).2
  | formatted {file : FileSpec} {text : String} (world : σ)
    (h : (Formatting.apply formatting file world).1 = .ok text) :
    MovesOn formatting now ⟨file, .prepared⟩ ⟨file, .formatted text⟩ now
  | rejected {file : FileSpec} {reason : String} (world : σ)
    (h : (Formatting.apply formatting file world).1 = .error reason) :
    MovesOn formatting now ⟨file, .prepared⟩ ⟨file, .failed (.format file.path reason)⟩ now
  | written {file : FileSpec} {text : String} (h : (now.writeText file.path text).1 = true) :
    MovesOn formatting now ⟨file, .formatted text⟩ ⟨file, .written⟩
      (now.writeText file.path text).2
  | refused {file : FileSpec} {text : String} (h : (now.writeText file.path text).1 = false) :
    MovesOn formatting now ⟨file, .formatted text⟩ ⟨file, .failed (.write file.path)⟩ now
  | finished {task : WriteTask} (h : task.isFinished = true) : MovesOn formatting now task task now

theorem step_movesOn (hdisk : disk.ActsOn tree) (hspares : Formatting.Spares formatting tree)
    (task : WriteTask) (world : σ) :
    MovesOn formatting (tree world) task (task.step disk formatting world).1
      (tree (task.step disk formatting world).2) := by
  obtain ⟨file, progress⟩ := task
  cases progress with
  | waiting =>
    obtain ⟨hanswer, htree⟩ := prepare_acts hdisk file world
    change MovesOn formatting (tree world) _ ⟨file, (prepare disk file world).1⟩
      (tree (prepare disk file world).2)
    rw [hanswer, htree]
    rcases prepared_cases (tree world) file with hok | ⟨error, herror⟩
    · rw [hok]
      exact .prepared hok
    · rw [herror]
      exact .unprepared herror
  | prepared =>
    have htree := hspares file world
    change MovesOn formatting (tree world) _ ⟨file, (format formatting file world).1⟩
      (tree (format formatting file world).2)
    rw [format_eq, htree]
    cases hanswer : (Formatting.apply formatting file world).1 with
    | ok text => exact .formatted world hanswer
    | error reason => exact .rejected world hanswer
  | formatted text =>
    obtain ⟨hanswer, htree⟩ := hdisk.write file.path text world
    change MovesOn formatting (tree world) _
      ⟨file, if (disk.write file.path text world).1 then .written else .failed (.write file.path)⟩
      (tree (disk.write file.path text world).2)
    rw [hanswer, htree]
    cases hw : ((tree world).writeText file.path text).1 with
    | true => exact .written hw
    | false =>
      rw [writeText_of_false hw]
      exact .refused hw
  | written => exact .finished rfl
  | failed error => exact .finished rfl

theorem Kept.moves {before now later : FileTree} {ahead behind : List WriteTask}
    {task next : WriteTask} (h : Kept formatting before now (ahead ++ task :: behind))
    (hmoves : MovesOn formatting now task next later) :
    Kept formatting before later (ahead ++ next :: behind) := by
  cases hmoves with
  | prepared _ => exact h.unwritten (FileSpec.prepared_makes now _) (by simp) (by simp) (by simp)
  | unprepared _ => exact h.unwritten (FileSpec.prepared_makes now _) (by simp) (by simp) (by simp)
  | formatted world hanswer =>
    refine h.unwritten (.refl now) (by simp) (by simp) fun found hfound => ?_
    obtain rfl := Progress.formatted.inj hfound
    exact ⟨world, hanswer⟩
  | rejected _ _ => exact h.unwritten (.refl now) (by simp) (by simp) (by simp)
  | written hw =>
    obtain ⟨place, hplace, hput⟩ := writeText_written hw
    exact h.written hplace hput
  | refused _ => exact h.unwritten (.refl now) (by simp) (by simp) (by simp)
  | finished _ => exact h

theorem Kept.follow {before : FileTree} (hdisk : disk.ActsOn tree)
    (hspares : Formatting.Spares formatting tree) (schedule : List Nat) {tasks : List WriteTask}
    {world : σ} (h : Kept formatting before (tree world) tasks) :
    Kept formatting before (tree (follow disk formatting schedule tasks world).2)
      (follow disk formatting schedule tasks world).1 := by
  induction schedule generalizing tasks world with
  | nil => exact h
  | cons i schedule ih =>
    rw [follow_cons]
    apply ih
    cases htask : tasks[i]? with
    | none =>
      rw [stepAt_eq, htask]
      exact h
    | some task =>
      obtain ⟨ahead, behind, rfl, rfl⟩ := exists_split htask
      rw [stepAt_split]
      exact h.moves (step_movesOn hdisk hspares task world)

/-- What a path leads to in the end: to its text, unless it leads to a device. -/
structure Reads (before after : FileTree) (path : Path) (text : String) : Prop where
  text : ∀ place, after.locate? path = some place →
    (∀ device, before.entry? place ≠ some (.device device)) → after.readText? path = some text
  /-- A device keeps nothing. -/
  device : ∀ place device, after.locate? path = some place →
    before.entry? place = some (.device device) → after.entry? place = some (.device device)

/-- What a run that went well leaves in the tree. -/
structure Left (formatting : Option (Formatting (StateM σ))) (before after : FileTree)
    (files : List FileSpec) : Prop where
  frame : SameFrame before after
  led : ∀ file ∈ files, ∃ place, after.locate? file.path = some place
  /-- Where the paths lead to different files, each has an answer of its own there. -/
  reads : (files.map fun file => after.fileOf? file.path).Nodup → ∀ file ∈ files,
    ∃ text, Formatting.Answers formatting file text ∧ Reads before after file.path text
  untouched : ∀ place, (∀ file ∈ files, after.fileOf? file.path ≠ some (after.identity place)) →
    Keeps before after place

/-- When a run has gone well, every task has written its file, and the tree is kept. -/
theorem run_kept (hdisk : disk.ActsOn tree) (hspares : Formatting.Spares formatting tree)
    {schedule : List Nat} {files : List FileSpec} {world : σ} {paths : List Path}
    (h : (run disk formatting schedule files world).1 = .ok paths) :
    ∃ tasks, Kept formatting (tree world) (tree (run disk formatting schedule files world).2) tasks ∧
      tasks.map (·.file) = files ∧ ∀ task ∈ tasks, task.progress = .written := by
  obtain ⟨complete, hend, _, hfiles, hwritten⟩ := run_ok h
  have hkept := (kept_start formatting (tree world) files).follow hdisk hspares complete
  rw [hend]
  exact ⟨_, hkept, hfiles, hwritten⟩

/-- A task that has written finds a file where its path leads. -/
theorem Kept.located {before now : FileTree} {tasks : List WriteTask}
    (h : Kept formatting before now tasks) {task : WriteTask} (ht : task ∈ tasks)
    (hwritten : task.progress = .written) : ∃ place, now.locate? task.file.path = some place ∧
      meansDirectory task.file.path = false ∧ HasWritten now place task := by
  obtain ⟨name, hname⟩ := h.led task ht hwritten
  obtain ⟨place, hreach, _⟩ := hname.reach
  refine ⟨place, ?_, hname.path, hwritten, hname.path, place, hreach, .refl now place⟩
  rw [FileTree.locate?_eq, hreach]
  rfl

/-- Where the paths lead to different files, a task finds its own text in its file. -/
theorem Kept.own_text {before now : FileTree} {tasks : List WriteTask}
    (h : Kept formatting before now tasks) (hwritten : ∀ task ∈ tasks, task.progress = .written)
    (hapart : ((tasks.map (·.file)).map fun file => now.fileOf? file.path).Nodup)
    {task : WriteTask} (ht : task ∈ tasks) :
    ∃ place text, now.locate? task.file.path = some place ∧
      meansDirectory task.file.path = false ∧ Formatting.Answers formatting task.file text ∧
      now.entry? place = some (before.afterWrite (before.entry? place) text.toUTF8) := by
  obtain ⟨place, hlocated, hpath, hplace⟩ := h.located ht (hwritten task ht)
  obtain ⟨_, writer, hwriter, hwrote, text, hanswer, hentry⟩ := h.holds place ⟨task, ht, hplace⟩
  have hsame : writer.file = task.file :=
    List.inj_on_of_nodup_map hapart (List.mem_map_of_mem hwriter) (List.mem_map_of_mem ht)
      (hwrote.fileOf?_eq.trans hplace.fileOf?_eq.symm)
  rw [hsame] at hanswer
  exact ⟨place, text, hlocated, hpath, hanswer, hentry⟩

theorem run_leaves (hdisk : disk.ActsOn tree) (hspares : Formatting.Spares formatting tree)
    {schedule : List Nat} {files : List FileSpec} {world : σ} {paths : List Path}
    (h : (run disk formatting schedule files world).1 = .ok paths) :
    Left formatting (tree world) (tree (run disk formatting schedule files world).2) files := by
  obtain ⟨tasks, hkept, rfl, hwritten⟩ := run_kept hdisk hspares h
  refine ⟨hkept.grows.toSameFrame, fun file hfile => ?_, fun hapart file hfile => ?_,
    fun place hnone => ?_⟩
  · obtain ⟨task, ht, rfl⟩ := List.mem_map.mp hfile
    obtain ⟨place, hplace, _⟩ := hkept.located ht (hwritten task ht)
    exact ⟨place, hplace⟩
  · obtain ⟨task, ht, rfl⟩ := List.mem_map.mp hfile
    obtain ⟨place, text, hplace, hpath, hanswer, hentry⟩ := hkept.own_text hwritten hapart ht
    refine ⟨text, hanswer, fun q hq hdevice => ?_, fun q device hq hdevice => ?_⟩
    · obtain rfl := Option.some.inj (hplace.symm.trans hq)
      exact readText?_of_afterWrite hpath hq hdevice hentry
    · obtain rfl := Option.some.inj (hplace.symm.trans hq)
      rw [hentry, hdevice]
      rfl
  · refine hkept.untouched place fun task ht hplace => ?_
    exact hnone task.file (List.mem_map_of_mem ht) hplace.fileOf?_eq

end Writing

end DtoGen

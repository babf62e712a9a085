import DtoGen.Proofs.PlainWays
import DtoGen.Proofs.WrittenTexts

namespace DtoGen

namespace FileTree

variable {tree larger later result : FileTree}

theorem Grows.directoryAt?_of_some (h : Grows tree larger) {place d : Place}
    (hd : tree.directoryAt? place = some d) : larger.directoryAt? place = some d := by
  have hthere : tree.sight place ≠ .nothing := fun hs => by
    rw [directoryAt?_of_nothing (sight_eq_nothing.mp hs)] at hd
    cases hd
  rw [h.directoryAt?_eq hthere (not_dangles_of_directoryAt? hd), hd]

/-- Directories that have been made are found where they were made. -/
theorem makeDirectories_again {place : Place} {components : List Component}
    (hall : (tree.makeDirectories place components).1 = true)
    (h : Grows (tree.makeDirectories place components).2 larger) :
    larger.makeDirectories place components = (true, larger) := by
  induction components generalizing tree place with
  | nil => rfl
  | cons component rest ih =>
    rw [makeDirectories_cons] at hall h ⊢
    cases hnext : next place component with
    | none => simp [hnext] at hall
    | some reached =>
      simp only [hnext] at hall h ⊢
      cases hd : tree.directoryAt? reached with
      | some d =>
        simp only [hd] at hall h
        have hgrows := (makeDirectories_makes tree d rest).grows.trans h
        rw [hgrows.directoryAt?_of_some hd]
        exact ih hall h
      | none =>
        simp only [hd] at hall h
        split at hall
        · cases hall
        · rename_i hfree
          rw [if_neg hfree] at h
          have hput := Puts.of_absent (set_of_free hfree).1
          have hmade : (tree.set reached .directory).directoryAt? reached = some reached := by
            simp [directoryAt?, hput.here]
          have hgrows := (makeDirectories_makes (tree.set reached .directory) reached rest).grows
          rw [(hgrows.trans h).directoryAt?_of_some hmade]
          exact ih hall h

/-- The path leads to a file or a device, and the text can be written there if nothing keeps the
user from it. -/
structure HasRoom (tree : FileTree) (path : Path) (text : String) (place : Place) : Prop where
  reach : tree.reach path = .place place
  path : meansDirectory path = false
  plain : tree.sight place = .plain (tree.mayWrite place)
  takes : takesContent (tree.entry? place) text.toUTF8 = true

/-- A tree that grows, and in which every place takes the content that it took. -/
structure Refills (tree larger : FileTree) : Prop where
  grows : Grows tree larger
  takes : ∀ place, takesContent (larger.entry? place) = takesContent (tree.entry? place)

theorem Refills.refl (tree : FileTree) : Refills tree tree :=
  ⟨.refl tree, fun _ => rfl⟩

theorem Refills.trans (h : Refills tree larger) (h' : Refills larger later) : Refills tree later :=
  ⟨h.grows.trans h'.grows, fun place => (h'.takes place).trans (h.takes place)⟩

theorem MakesDirectories.refills (h : MakesDirectories tree later) : Refills tree later := by
  refine ⟨h.grows, fun place => ?_⟩
  rcases h.entry place with heq | ⟨hnone, _, hmade⟩
  · rw [heq]
  · rw [hnone, hmade]
    rfl

theorem takesContent_afterWrite (tree : FileTree) (old : Option Entry) (content : ByteArray) :
    takesContent (some (tree.afterWrite old content)) = takesContent old := by
  rcases old with _ | (_ | _ | _ | _ | _) <;> rfl

theorem Puts.refills_of_write {path : Path} {place : Place} {content : ByteArray}
    (hw : tree.writable? path = some (place, tree.entry? place))
    (h : Puts tree place (tree.afterWrite (tree.entry? place) content) result) :
    Refills tree result := by
  refine ⟨h.grows_of_write hw content, fun q => ?_⟩
  by_cases hq : tree.SameFile place q
  · rw [h.named q hq, takesContent_afterWrite, hq.entry?_eq]
  · rw [h.elsewhere q hq]

/-- Whether a file that is made may be written over. -/
def reopens (tree : FileTree) : Bool :=
  tree.isPrivileged || (tree.newMode 0o666).testBit 7

namespace HasRoom

variable {path : Path} {text : String} {place : Place}

theorem locate?_eq (h : tree.HasRoom path text place) : tree.locate? path = some place := by
  rw [FileTree.locate?_eq, h.reach]
  rfl

theorem writable?_eq (h : tree.HasRoom path text place) (hmay : tree.mayWrite place = true) :
    tree.writable? path = some (place, tree.entry? place) :=
  writable?_eq_some.mpr ⟨h.reach, h.path, by simp [h.plain], hmay, rfl⟩

theorem writes (h : tree.HasRoom path text place) (hmay : tree.mayWrite place = true) :
    (tree.writeText path text).1 = true ∧ Puts tree place
      (tree.afterWrite (tree.entry? place) text.toUTF8) (tree.writeText path text).2 := by
  obtain ⟨hanswer, hput, _⟩ := writeBytes_of_some (h.writable?_eq hmay) text.toUTF8
  exact ⟨hanswer.trans h.takes, hput h.takes⟩

theorem refused (h : tree.HasRoom path text place) (hnot : tree.mayWrite place = false) :
    tree.writeText path text = (false, tree) := by
  refine writeBytes_of_none (Option.eq_none_iff_forall_ne_some.mpr ?_) _
  rintro ⟨other, old⟩ hw
  obtain ⟨hreach, _, _, hmay, _⟩ := writable?_eq_some.mp hw
  rw [h.reach] at hreach
  obtain rfl := Lead.place.inj hreach
  rw [hnot] at hmay
  cases hmay

theorem sight_eq (hgrows : Grows tree larger) (h : tree.HasRoom path text place) :
    larger.sight place = tree.sight place :=
  hgrows.sight_eq (by simp [h.plain])

theorem mayWrite_eq (hgrows : Grows tree larger) (h : tree.HasRoom path text place) :
    larger.mayWrite place = tree.mayWrite place :=
  hgrows.mayWrite_eq_of (h.sight_eq hgrows)

theorem of_refills (hrefills : Refills tree larger) (h : tree.HasRoom path text place) :
    larger.HasRoom path text place := by
  have hgrows := hrefills.grows
  refine ⟨?_, h.path, ?_, ?_⟩
  · exact (hgrows.reach_eq (by simp [h.reach])).trans h.reach
  · rw [h.sight_eq hgrows, h.mayWrite_eq hgrows]
    exact h.plain
  · rw [hrefills.takes]
    exact h.takes

/-- Where a text has been written there is room for it. -/
theorem of_written (h : (tree.writeText path text).1 = true) :
    ∃ place, Refills tree (tree.writeText path text).2 ∧
      HasRoom (tree.writeText path text).2 path text place := by
  obtain ⟨place, hw, hput⟩ := WriteTask.writeText_written h
  obtain ⟨hreach, hpath, _⟩ := writable?_eq_some.mp hw
  have hrefills := hput.refills_of_write hw
  have htakes : takesContent (tree.entry? place) text.toUTF8 = true :=
    (writeBytes_of_some hw text.toUTF8).1.symm.trans h
  refine ⟨place, hrefills, ?_, hpath, ?_, ?_⟩
  · exact (hrefills.grows.reach_eq (by simp [hreach])).trans hreach
  · rw [sight, mayWrite, hput.here]
    unfold afterWrite
    split <;> rfl
  · rw [hrefills.takes]
    exact htakes

end HasRoom

/-- Putting where something is what is there already changes nothing. -/
theorem set_same {place : Place} {entry : Entry} (hroot : place ≠ [])
    (h : tree.entry? place = some entry) : tree.set place entry = tree := by
  unfold entry? at h
  rw [if_neg hroot] at h
  obtain ⟨number, hnumber, hitem⟩ := Option.bind_eq_some_iff.mp h
  obtain ⟨⟨names, other⟩, hthere, rfl⟩ := Option.map_eq_some_iff.mp hitem
  have hitems : (tree.items.modify number fun item => (item.1, other)) = tree.items := by
    refine List.ext_getElem? fun i => ?_
    rw [List.getElem?_modify]
    by_cases hi : number = i
    · subst hi
      simp [hthere]
    · simp [hi]
  simp only [set, hnumber, hitems]

/-- A text that has been written to a place is written again without a trace. -/
theorem HasRoom.writeText_same {before : FileTree} {path : Path} {text : String} {place : Place}
    (h : tree.HasRoom path text place) {old : Option Entry}
    (hentry : tree.entry? place = some (before.afterWrite old text.toUTF8)) :
    (tree.writeText path text).2 = tree := by
  cases hmay : tree.mayWrite place with
  | false => rw [h.refused hmay]
  | true =>
    have hw := h.writable?_eq hmay
    rw [hentry] at hw
    unfold writeText writeBytes
    rw [hw]
    rcases before.afterWrite_cases old text.toUTF8 with ⟨mode, hfile⟩ | ⟨device, _, hdevice⟩
    · rw [hfile] at hentry ⊢
      have hnot : tree.entry? place ≠ some .directory := by simp [hentry]
      exact set_same (ne_root_of_not_directory hnot) hentry
    · rw [hdevice]
      cases device <;> rfl

end FileTree

namespace FileSpec

open FileTree

/-- The directories of the file are there. -/
def Housed (tree : FileTree) (file : FileSpec) : Prop :=
  file.prepared tree = (.prepared, tree)

variable {tree larger : FileTree} {file : FileSpec}

theorem housed_of_prepared (h : (file.prepared tree).1 = .prepared)
    (hgrows : Grows (file.prepared tree).2 larger) : file.Housed larger := by
  unfold Housed
  cases hd : file.directoryToMake? with
  | none => rw [prepared_of_none hd]
  | some directory =>
    rw [prepared_of_some hd] at h hgrows ⊢
    have hbefore := (createDirectories_makes tree directory).grows.trans hgrows
    unfold createDirectories at h hgrows ⊢
    by_cases hempty : directory.text = ""
    · simp [hempty]
    · rw [if_neg hempty] at h hgrows ⊢
      cases husable : isUsable directory with
      | false => simp [husable] at h
      | true =>
        simp only [husable, if_true] at h hgrows ⊢
        have hall :
            (tree.makeDirectories (tree.start directory) directory.components).1 = true := by
          by_contra hnot
          simp [hnot] at h
        rw [hbefore.start_eq, makeDirectories_again hall hgrows]
        rfl

theorem Housed.of_grows (h : file.Housed tree) (hgrows : Grows tree larger) :
    file.Housed larger := by
  have hok : (file.prepared tree).1 = .prepared := congrArg Prod.fst h
  have hsame : (file.prepared tree).2 = tree := congrArg Prod.snd h
  exact housed_of_prepared hok (hsame.symm ▸ hgrows)

end FileSpec

namespace Formatting

variable {σ : Type}

/-- The answers depend on nothing but the file. -/
def IsSteady (formatting : Option (Formatting (StateM σ))) : Prop :=
  ∀ file world other, (apply formatting file world).1 = (apply formatting file other).1

theorem Answers.apply_eq {formatting : Option (Formatting (StateM σ))} {file : FileSpec}
    {text : String} (hsteady : IsSteady formatting) (h : Answers formatting file text) (world : σ) :
    (apply formatting file world).1 = .ok text := by
  obtain ⟨other, hother⟩ := h
  rw [hsteady file world other, hother]

theorem Answers.unique {formatting : Option (Formatting (StateM σ))} {file : FileSpec}
    {text found : String} (hsteady : IsSteady formatting) (h : Answers formatting file text)
    (hfound : Answers formatting file found) : found = text := by
  obtain ⟨world, hworld⟩ := hfound
  rw [h.apply_eq hsteady] at hworld
  exact (Except.ok.inj hworld).symm

end Formatting

namespace Writing

open FileSpec FileTree WriteTask

variable {σ : Type} {disk : Disk (StateM σ)} {formatting : Option (Formatting (StateM σ))}
  {tree : σ → FileTree}

/-- What one step keeps of a world, of the task that takes it and of the tasks beside it, a
schedule keeps. -/
theorem follow_keeps (held : σ → Prop) (stands : σ → WriteTask → Prop)
    (hstep : ∀ world task, held world → stands world task →
      held (task.step disk formatting world).2 ∧
        stands (task.step disk formatting world).2 (task.step disk formatting world).1 ∧
        ∀ other, stands world other → stands (task.step disk formatting world).2 other)
    (schedule : List Nat) {tasks : List WriteTask} {world : σ} (hheld : held world)
    (hall : ∀ task ∈ tasks, stands world task) :
    held (follow disk formatting schedule tasks world).2 ∧
      ∀ task ∈ (follow disk formatting schedule tasks world).1,
        stands (follow disk formatting schedule tasks world).2 task := by
  induction schedule generalizing tasks world with
  | nil => exact ⟨hheld, hall⟩
  | cons i schedule ih =>
    rw [follow_cons]
    cases htask : tasks[i]? with
    | none =>
      rw [stepAt_eq, htask]
      exact ih hheld hall
    | some task =>
      obtain ⟨ahead, behind, rfl, rfl⟩ := exists_split htask
      obtain ⟨hnext, hmoved, hothers⟩ := hstep world task hheld (hall task (by simp))
      rw [stepAt_split]
      refine ih hnext fun other hother => ?_
      rcases mem_of_replaced hother with rfl | hother
      · exact hmoved
      · exact hothers other (hall other hother)

/-- The text is an answer for the file, and can be written at the place. -/
structure Ready (formatting : Option (Formatting (StateM σ))) (now : FileTree) (file : FileSpec)
    (text : String) (place : Place) : Prop where
  answers : Formatting.Answers formatting file text
  housed : file.Housed now
  room : now.HasRoom file.path text place

/-- Every file can be written. -/
def AllReady (formatting : Option (Formatting (StateM σ))) (now : FileTree)
    (files : List FileSpec) : Prop :=
  ∀ file ∈ files, ∃ text place, Ready formatting now file text place

/-- What the task has done by now it can do again. -/
inductive Repeatable (formatting : Option (Formatting (StateM σ))) (now : FileTree)
    (file : FileSpec) : Progress → Prop
  | waiting : Repeatable formatting now file .waiting
  | prepared (hhoused : file.Housed now) : Repeatable formatting now file .prepared
  | formatted {text : String} (hhoused : file.Housed now)
    (hanswers : Formatting.Answers formatting file text) :
    Repeatable formatting now file (.formatted text)
  | written {text : String} {place : Place} (hready : Ready formatting now file text place) :
    Repeatable formatting now file .written
  | failed (error : GenerationError) : Repeatable formatting now file (.failed error)

theorem Ready.of_refills {now later : FileTree} {file : FileSpec} {text : String} {place : Place}
    (h : Ready formatting now file text place) (hrefills : Refills now later) :
    Ready formatting later file text place :=
  ⟨h.answers, h.housed.of_grows hrefills.grows, h.room.of_refills hrefills⟩

theorem Repeatable.of_refills {now later : FileTree} {file : FileSpec} {progress : Progress}
    (h : Repeatable formatting now file progress) (hrefills : Refills now later) :
    Repeatable formatting later file progress := by
  cases h with
  | waiting => exact .waiting
  | prepared hhoused => exact .prepared (hhoused.of_grows hrefills.grows)
  | formatted hhoused hanswers => exact .formatted (hhoused.of_grows hrefills.grows) hanswers
  | written hready => exact .written (hready.of_refills hrefills)
  | failed error => exact .failed error

theorem Repeatable.moves {now later : FileTree} {task next : WriteTask}
    (h : Repeatable formatting now task.file task.progress)
    (hmoves : MovesOn formatting now task next later) :
    Refills now later ∧ Repeatable formatting later next.file next.progress := by
  cases hmoves with
  | prepared hok =>
    exact ⟨(prepared_makes now _).refills, .prepared (housed_of_prepared hok (.refl _))⟩
  | unprepared _ => exact ⟨(prepared_makes now _).refills, .failed _⟩
  | formatted world hanswer =>
    cases h with
    | prepared hhoused => exact ⟨.refl now, .formatted hhoused ⟨world, hanswer⟩⟩
  | rejected _ _ => exact ⟨.refl now, .failed _⟩
  | written hw =>
    obtain ⟨place, hrefills, hroom⟩ := HasRoom.of_written hw
    cases h with
    | formatted hhoused hanswers =>
      exact ⟨hrefills, .written ⟨hanswers, hhoused.of_grows hrefills.grows, hroom⟩⟩
  | refused _ => exact ⟨.refl now, .failed _⟩
  | finished _ => exact ⟨.refl now, h⟩

/-- Behind a run that went well, every file can be written again. -/
theorem run_ready (hdisk : disk.ActsOn tree) (hspares : Formatting.Spares formatting tree)
    {schedule : List Nat} {files : List FileSpec} {world : σ} {paths : List Path}
    (h : (run disk formatting schedule files world).1 = .ok paths) :
    AllReady formatting (tree (run disk formatting schedule files world).2) files := by
  obtain ⟨complete, hend, _, hfiles, hwritten⟩ := run_ok h
  have hstart : ∀ task ∈ files.map WriteTask.start,
      Repeatable formatting (tree world) task.file task.progress := by
    intro task ht
    obtain ⟨file, _, rfl⟩ := List.mem_map.mp ht
    exact .waiting
  obtain ⟨_, hall⟩ := follow_keeps (fun _ => True)
    (fun now task => Repeatable formatting (tree now) task.file task.progress)
    (fun now task _ htask => by
      obtain ⟨hrefills, hmoved⟩ := htask.moves (step_movesOn hdisk hspares task now)
      exact ⟨trivial, hmoved, fun _ hother => hother.of_refills hrefills⟩) complete trivial hstart
  rw [hend]
  intro file hfile
  rw [← hfiles] at hfile
  obtain ⟨task, ht, rfl⟩ := List.mem_map.mp hfile
  have htask := hall task ht
  rw [hwritten task ht] at htask
  cases htask with
  | written hready => exact ⟨_, _, hready⟩

/-- The task of a file has failed if its file may not be written over, and has not if it may. What
it is about to write is an answer for its file. -/
structure GoesWell (formatting : Option (Formatting (StateM σ))) (opens : FileSpec → Prop)
    (task : WriteTask) : Prop where
  failed : ∀ error, task.progress = .failed error →
    ¬opens task.file ∧ error = .write task.file.path
  written : task.progress = .written → opens task.file
  answers : ∀ text, task.progress = .formatted text → Formatting.Answers formatting task.file text

/-- Trees that a run does not leave, in each of which there is room for every file. -/
structure Receives (formatting : Option (Formatting (StateM σ))) (files : List FileSpec)
    (opens : FileSpec → Prop) (held : FileTree → Prop) : Prop where
  ready : ∀ now, held now → ∀ file ∈ files, ∃ text place, Ready formatting now file text place ∧
    (opens file ↔ now.mayWrite place = true)
  writes : ∀ now file text place, held now → file ∈ files →
    Ready formatting now file text place → now.mayWrite place = true →
    held (now.writeText file.path text).2

variable {files : List FileSpec} {opens : FileSpec → Prop} {held : FileTree → Prop}

theorem GoesWell.moves (hsteady : Formatting.IsSteady formatting)
    (hreceives : Receives formatting files opens held) {now later : FileTree}
    {task next : WriteTask} (hheld : held now) (hfile : task.file ∈ files)
    (h : GoesWell formatting opens task) (hmoves : MovesOn formatting now task next later) :
    held later ∧ GoesWell formatting opens next := by
  obtain ⟨text, place, hready, hopens⟩ := hreceives.ready now hheld _ hfile
  have hhoused : task.file.prepared now = (.prepared, now) := hready.housed
  cases hmoves with
  | prepared _ =>
    rw [hhoused]
    exact ⟨hheld, by simp, by simp, by simp⟩
  | unprepared herror =>
    rw [hhoused] at herror
    cases herror
  | formatted world hanswer =>
    refine ⟨hheld, by simp, by simp, fun found hfound => ?_⟩
    obtain rfl := Progress.formatted.inj hfound
    exact ⟨world, hanswer⟩
  | rejected world hanswer =>
    rw [hready.answers.apply_eq hsteady] at hanswer
    cases hanswer
  | @written file found hw =>
    obtain rfl : found = text := hready.answers.unique hsteady (h.answers found rfl)
    have hmay : now.mayWrite place = true := by
      by_contra hnot
      rw [hready.room.refused (eq_false_of_ne_true hnot)] at hw
      cases hw
    exact ⟨hreceives.writes now file found place hheld hfile hready hmay, by simp,
      fun _ => hopens.mpr hmay, by simp⟩
  | @refused file found hw =>
    obtain rfl : found = text := hready.answers.unique hsteady (h.answers found rfl)
    refine ⟨hheld, fun error herror => ⟨fun hopen => ?_, (Progress.failed.inj herror).symm⟩,
      by simp, by simp⟩
    rw [(hready.room.writes (hopens.mp hopen)).1] at hw
    cases hw
  | finished _ => exact ⟨hheld, h⟩

/-- Where there is room for every file, a run goes well if each file may be written over, and
otherwise tells of one that may not. -/
theorem run_received (hdisk : disk.ActsOn tree) (hspares : Formatting.Spares formatting tree)
    (hsteady : Formatting.IsSteady formatting) (hreceives : Receives formatting files opens held)
    (schedule : List Nat) {world : σ} (hheld : held (tree world)) :
    (∀ paths, (run disk formatting schedule files world).1 = .ok paths ↔
        paths = files.map (·.path) ∧ ∀ file ∈ files, opens file) ∧
      (∀ error, (run disk formatting schedule files world).1 = .error error →
        ∃ file ∈ files, ¬opens file ∧ error = .write file.path) ∧
      held (tree (run disk formatting schedule files world).2) := by
  obtain ⟨complete, seen, hrun, hfinished, hseen⟩ :=
    run_eq_follow disk formatting schedule files world
  have hstart : ∀ task ∈ files.map WriteTask.start,
      task.file ∈ files ∧ GoesWell formatting opens task := by
    intro task ht
    obtain ⟨file, hfile, rfl⟩ := List.mem_map.mp ht
    exact ⟨hfile, by simp [WriteTask.start], by simp [WriteTask.start], by simp [WriteTask.start]⟩
  obtain ⟨hend, hall⟩ := follow_keeps (fun now => held (tree now))
    (fun _ task => task.file ∈ files ∧ GoesWell formatting opens task)
    (fun now task hnow htask => by
      have hmoves := step_movesOn hdisk hspares task now
      obtain ⟨hnext, hwell⟩ := htask.2.moves hsteady hreceives hnow htask.1 hmoves
      exact ⟨hnext, ⟨(step_file task now).symm ▸ htask.1, hwell⟩, fun _ hother => hother⟩)
    complete hheld hstart
  have hfiles := follow_start_files disk formatting complete files world
  rw [hrun]
  refine ⟨fun paths => ?_, fun error herror => ?_, hend⟩
  · rw [outcome_ok hfinished hseen, follow_start_paths disk formatting complete files world]
    refine and_congr_right fun _ => ⟨fun hwritten file hfile => ?_, fun hopens task ht => ?_⟩
    · rw [← hfiles] at hfile
      obtain ⟨task, ht, rfl⟩ := List.mem_map.mp hfile
      exact (hall task ht).2.written (hwritten task ht)
    · have hdone := hfinished task ht
      obtain ⟨hfile, hwell⟩ := hall task ht
      obtain ⟨file, progress⟩ := task
      cases progress with
      | written => rfl
      | failed error => exact absurd (hopens file hfile) (hwell.failed error rfl).1
      | _ => cases hdone
  · obtain ⟨task, ht, hfailed⟩ := outcome_error hseen herror
    obtain ⟨hfile, hwell⟩ := hall task ht
    exact ⟨task.file, hfile, hwell.failed error hfailed⟩

/-- What a second run leaves of what the first one has left. -/
structure Redone (files : List FileSpec) (before after last : FileTree) : Prop where
  frame : after.SameFrame last
  elsewhere : ∀ place, (∀ file ∈ files, after.fileOf? file.path ≠ some (after.identity place)) →
    last.entry? place = after.entry? place
  directories : ∀ place,
    last.entry? place = some .directory ↔ after.entry? place = some .directory
  /-- Where the paths lead to different files, nothing changes at all. -/
  unchanged : (files.map fun file => after.fileOf? file.path).Nodup → last = after
  /-- Without links and steps up, it is enough that the paths spell names of different files. -/
  plain : (∀ file ∈ files, file.Plain before) →
    (files.map fun file => (file.place? before).map before.identity).Nodup → last = after

/-- Every file that has been made may be written over. -/
def Rewritable (files : List FileSpec) (before after : FileTree) : Prop :=
  before.reopens = true ∨ ∀ file ∈ files, ∀ place, after.locate? file.path = some place →
    before.entry? place ≠ none

/-- Trees that have been refilled, and are as they were where no file is written. -/
structure Refilled (files : List FileSpec) (after now : FileTree) : Prop where
  refills : Refills after now
  elsewhere : ∀ place, (∀ file ∈ files, after.fileOf? file.path ≠ some (after.identity place)) →
    now.entry? place = after.entry? place

/-- No file is written where a directory is, and none is made. -/
theorem Refilled.directory_iff {after now : FileTree} (h : Refilled files after now)
    (hready : AllReady formatting after files) (place : Place) :
    now.entry? place = some .directory ↔ after.entry? place = some .directory := by
  constructor
  · intro hdirectory
    by_cases hled : ∃ file ∈ files, after.fileOf? file.path = some (after.identity place)
    · obtain ⟨file, hfile, hplace⟩ := hled
      obtain ⟨text, own, hown⟩ := hready file hfile
      rw [fileOf?, hown.room.locate?_eq] at hplace
      have hsame : now.SameFile own place :=
        (h.refills.grows.sameFile own place).mpr (Option.some.inj hplace)
      have hplain := (hown.of_refills h.refills).room.plain
      rw [sight_eq_directory.mpr (hsame.entry?_eq.trans hdirectory)] at hplain
      cases hplain
    · rw [← h.elsewhere place fun file hfile hplace => hled ⟨file, hfile, hplace⟩]
      exact hdirectory
  · intro hdirectory
    have hsight := sight_eq_directory.mpr hdirectory
    exact sight_eq_directory.mp ((h.refills.grows.sight_eq (by simp [hsight])).trans hsight)

/-- Whether what the path of a file leads to may be written over. -/
def Opens (after : FileTree) (file : FileSpec) : Prop :=
  ∀ place, after.locate? file.path = some place → after.mayWrite place = true

theorem Ready.opens_iff {now : FileTree} {file : FileSpec} {text : String} {place : Place}
    (h : Ready formatting now file text place) : Opens now file ↔ now.mayWrite place = true := by
  simp [Opens, h.room.locate?_eq]

theorem receives_refilled {after : FileTree} (h : AllReady formatting after files) :
    Receives formatting files (Opens after) (Refilled files after) := by
  refine ⟨fun now hnow file hfile => ?_, fun now file text place hnow hfile hready hmay => ?_⟩
  · obtain ⟨text, place, hready⟩ := h file hfile
    refine ⟨text, place, hready.of_refills hnow.refills, ?_⟩
    rw [hready.opens_iff, hready.room.mayWrite_eq hnow.refills.grows]
  · obtain ⟨_, hput⟩ := hready.room.writes hmay
    refine ⟨hnow.refills.trans (hput.refills_of_write (hready.room.writable?_eq hmay)),
      fun q hq => ?_⟩
    have hne : ¬now.SameFile place q := by
      intro hsame
      obtain ⟨first, other, hfirst⟩ := h file hfile
      have hplace := (hfirst.of_refills hnow.refills).room.locate?_eq.symm.trans
        hready.room.locate?_eq
      obtain rfl := Option.some.inj hplace
      refine hq file hfile ?_
      rw [fileOf?, hfirst.room.locate?_eq]
      exact congrArg some ((hnow.refills.grows.sameFile other q).mp hsame)
    exact (hput.elsewhere q hne).trans (hnow.elsewhere q hq)

/-- Where every path leads to a file of its own, each task finds its own text there. -/
theorem receives_same (hsteady : Formatting.IsSteady formatting) {before after : FileTree}
    {tasks : List WriteTask} (h : Kept formatting before after tasks)
    (hfiles : tasks.map (·.file) = files) (hwritten : ∀ task ∈ tasks, task.progress = .written)
    (hready : AllReady formatting after files)
    (hapart : (files.map fun file => after.fileOf? file.path).Nodup) :
    Receives formatting files (Opens after) (· = after) := by
  subst hfiles
  refine ⟨fun now hnow file hfile => ?_, ?_⟩
  · subst hnow
    obtain ⟨text, place, hfound⟩ := hready file hfile
    exact ⟨text, place, hfound, hfound.opens_iff⟩
  · rintro now file text place rfl hfile hfound _
    obtain ⟨task, ht, rfl⟩ := List.mem_map.mp hfile
    obtain ⟨own, found, hown, _, hanswers, hentry⟩ := h.own_text hwritten hapart ht
    obtain rfl : own = place := Option.some.inj (hown.symm.trans hfound.room.locate?_eq)
    obtain rfl : found = text := hfound.answers.unique hsteady hanswers
    exact hfound.room.writeText_same hentry

/-- What has been written may be written over if it was there before, or if the mask leaves new
files open. -/
theorem Kept.mayWrite_iff {before now : FileTree} {tasks : List WriteTask}
    (h : Kept formatting before now tasks) {place : Place}
    (hwritten : ∃ task ∈ tasks, HasWritten now place task) :
    now.mayWrite place = true ↔ before.reopens = true ∨ before.entry? place ≠ none := by
  obtain ⟨hmay, _, _, _, text, _, hentry⟩ := h.holds place hwritten
  cases hbefore : before.entry? place with
  | none =>
    rw [hbefore] at hentry
    rw [mayWrite, hentry]
    dsimp only
    rw [h.grows.admits_eq]
    simp [afterWrite, admits, reopens]
  | some entry =>
    have hsight : now.sight place = before.sight place :=
      h.grows.sight_eq (by simp [sight_eq_nothing, hbefore])
    simp [h.grows.mayWrite_eq_of hsight, hmay]

/-- The second run may write over everything if every file that the first one made is left open. -/
theorem Kept.opens_iff {before after : FileTree} {tasks : List WriteTask}
    (h : Kept formatting before after tasks) (hwritten : ∀ task ∈ tasks, task.progress = .written) :
    (∀ file ∈ tasks.map (·.file), Opens after file) ↔
      Rewritable (tasks.map (·.file)) before after := by
  have hone : ∀ file ∈ tasks.map (·.file), ∀ place, after.locate? file.path = some place →
      (after.mayWrite place = true ↔ before.reopens = true ∨ before.entry? place ≠ none) := by
    intro file hfile place hplace
    obtain ⟨task, ht, rfl⟩ := List.mem_map.mp hfile
    obtain ⟨own, hown, _, hdone⟩ := h.located ht (hwritten task ht)
    obtain rfl := Option.some.inj (hown.symm.trans hplace)
    exact h.mayWrite_iff ⟨task, ht, hdone⟩
  constructor
  · intro hopens
    by_cases hnew : before.reopens = true
    · exact .inl hnew
    · exact .inr fun file hfile place hplace =>
        ((hone file hfile place hplace).mp (hopens file hfile place hplace)).resolve_left hnew
  · intro hall file hfile place hplace
    exact (hone file hfile place hplace).mpr (hall.imp_right fun hold =>
      hold file hfile place hplace)

/-- Where no path goes up or through a link, the paths lead to the files that they spell. -/
theorem nodup_of_plain {before after : FileTree} (hgrows : Grows before after)
    (hready : AllReady formatting after files) (hplain : ∀ file ∈ files, file.Plain before)
    (h : (files.map fun file => (file.place? before).map before.identity).Nodup) :
    (files.map fun file => after.fileOf? file.path).Nodup := by
  rw [List.Nodup, List.pairwise_map] at h ⊢
  refine h.imp_of_mem fun hfile hother hne hsame => hne ?_
  obtain ⟨_, place, hfound⟩ := hready _ hfile
  obtain ⟨_, place', hfound'⟩ := hready _ hother
  rw [fileOf?, fileOf?, hfound.room.locate?_eq, hfound'.room.locate?_eq] at hsame
  rw [(hplain _ hfile).place?_eq hgrows hfound.room.reach,
    (hplain _ hother).place?_eq hgrows hfound'.room.reach]
  exact congrArg some ((hgrows.sameFile place place').mp (Option.some.inj hsame))

/-- When a run has gone well, a second one in the tree that it has left changes no file but those
that several paths lead to, in whatever order the tasks take their steps. It goes well if every file
that has been made may be written over, and otherwise stops at a file. -/
theorem run_again (hdisk : disk.ActsOn tree) (hspares : Formatting.Spares formatting tree)
    (hsteady : Formatting.IsSteady formatting) {schedule : List Nat} {world : σ}
    {paths : List Path} (h : (run disk formatting schedule files world).1 = .ok paths)
    (again : List Nat) {later : σ}
    (hlater : tree later = tree (run disk formatting schedule files world).2) :
    ((run disk formatting again files later).1 = .ok paths ↔
        Rewritable files (tree world) (tree (run disk formatting schedule files world).2)) ∧
      (∀ error, (run disk formatting again files later).1 = .error error →
        ∃ file ∈ files, error = .write file.path) ∧
      Redone files (tree world) (tree (run disk formatting schedule files world).2)
        (tree (run disk formatting again files later).2) := by
  obtain ⟨_, _, hpaths, _⟩ := run_ok h
  obtain ⟨tasks, hkept, hfiles, hwritten⟩ := run_kept hdisk hspares h
  have hready := run_ready hdisk hspares h
  generalize tree (run disk formatting schedule files world).2 = after at *
  have hstart : Refilled files after (tree later) := by
    rw [hlater]
    exact ⟨.refl after, fun _ _ => rfl⟩
  -- Wherever the paths lead, the second run keeps to trees that are the first one's refilled. Where
  -- they lead to different files, it keeps to that very tree.
  obtain ⟨hok, hfailed, hrefilled⟩ :=
    run_received hdisk hspares hsteady (receives_refilled hready) again hstart
  have hunchanged : (files.map fun file => after.fileOf? file.path).Nodup →
      tree (run disk formatting again files later).2 = after := fun hapart =>
    have hreceives := receives_same hsteady hkept hfiles hwritten hready hapart
    (run_received hdisk hspares hsteady hreceives again hlater).2.2
  refine ⟨?_, fun error herror => ?_, hrefilled.refills.grows.toSameFrame, hrefilled.elsewhere,
    hrefilled.directory_iff hready, hunchanged, fun hplain hspelled =>
      hunchanged (nodup_of_plain hkept.grows hready hplain hspelled)⟩
  · subst hfiles
    rw [hok paths, and_iff_right hpaths, hkept.opens_iff hwritten]
  · obtain ⟨file, hfile, _, hwrite⟩ := hfailed error herror
    exact ⟨file, hfile, hwrite⟩

end Writing

end DtoGen

import DtoGen.Proofs.FileTreeGrowth
import DtoGen.Proofs.TaskSteps

namespace DtoGen

/-- The formatter computes its answers from the file alone, and leaves the disk as it is. -/
def Formatting.Computes (formatting : Option (Formatting (StateM FileTree)))
    (content : FileSpec → Except String String) : Prop :=
  ∀ file, Formatting.apply formatting file = pure (content file)

namespace FileSpec

/-- The answer of the task's first step, and the tree that it leaves. -/
def prepared (tree : FileTree) (file : FileSpec) : Progress × FileTree :=
  WriteTask.prepare Disk.ofFileTree file tree

/-- The place that the file is written to, once its directories are there. -/
def destination? (tree : FileTree) (file : FileSpec) : Option Place :=
  if (file.prepared tree).1 = .prepared then
    ((file.prepared tree).2.writable? file.path).map Prod.fst
  else none

/-- The text of the file comes to be under the name. -/
def WritesTo (tree : FileTree) (file : FileSpec) (name : Place) : Prop :=
  ∃ place, file.destination? tree = some place ∧ tree.SameFile place name

/-- A directory has to be made at the place for the sake of the file. -/
def MakesDirectoryAt (tree : FileTree) (file : FileSpec) (place : Place) : Prop :=
  tree.entry? place = none ∧ FileTree.entry? (file.prepared tree).2 place = some .directory

/-- No link that stands for nothing is on the way of the file, and no gap is left on it. -/
structure Clear (tree : FileTree) (file : FileSpec) : Prop where
  directories : ∀ directory, file.directoryToMake? = some directory →
    tree.clearWay (tree.start directory) directory.components = true
  path : (file.prepared tree).1 = .prepared → (file.prepared tree).2.reach file.path ≠ .missing

variable {tree larger : FileTree} {file : FileSpec}

theorem prepared_of_none (h : file.directoryToMake? = none) (tree : FileTree) :
    file.prepared tree = (.prepared, tree) := by
  unfold prepared WriteTask.prepare
  rw [h]
  rfl

theorem prepared_of_some {directory : Path} (h : file.directoryToMake? = some directory)
    (tree : FileTree) :
    file.prepared tree
      = (if (tree.createDirectories directory).1 then .prepared else .failed (.write directory),
        (tree.createDirectories directory).2) := by
  unfold prepared WriteTask.prepare
  rw [h]
  rfl

theorem createDirectories_makes (tree : FileTree) (path : Path) :
    FileTree.MakesDirectories tree (tree.createDirectories path).2 := by
  unfold FileTree.createDirectories
  split
  · exact .refl tree
  split
  · exact FileTree.makeDirectories_makes _ _ _
  · exact .refl tree

theorem prepared_makes (tree : FileTree) (file : FileSpec) :
    FileTree.MakesDirectories tree (file.prepared tree).2 := by
  cases h : file.directoryToMake? with
  | none => rw [prepared_of_none h]; exact .refl tree
  | some directory => rw [prepared_of_some h]; exact createDirectories_makes tree directory

/-- In a larger tree the first step answers alike, and gains the same directories. -/
theorem prepared_alike (h : FileTree.Grows tree larger) (hclear : file.Clear tree)
    (hfree : ∀ place, file.MakesDirectoryAt tree place →
      larger.entry? place = none ∨ larger.entry? place = some .directory) :
    (file.prepared larger).1 = (file.prepared tree).1 ∧
      FileTree.GainAlike tree (file.prepared tree).2 larger (file.prepared larger).2 := by
  unfold MakesDirectoryAt at hfree
  cases hd : file.directoryToMake? with
  | none =>
    rw [prepared_of_none hd, prepared_of_none hd]
    exact ⟨rfl, fun _ => .inr ⟨rfl, rfl⟩⟩
  | some directory =>
    rw [prepared_of_some hd] at hfree
    rw [prepared_of_some hd, prepared_of_some hd]
    unfold FileTree.createDirectories at hfree ⊢
    by_cases hempty : directory.text = ""
    · simp only [if_pos hempty]
      exact ⟨trivial, fun _ => .inr ⟨rfl, rfl⟩⟩
    · simp only [if_neg hempty] at hfree ⊢
      cases husable : FileTree.isUsable directory with
      | false =>
        simp only [Bool.false_eq_true, if_false]
        exact ⟨trivial, fun _ => .inr ⟨rfl, rfl⟩⟩
      | true =>
        simp only [husable, if_true] at hfree
        simp only [if_true, h.start_eq]
        obtain ⟨hanswer, hgain⟩ := FileTree.makeDirectories_alike h
          (hclear.directories directory hd) fun q hnone hmade => hfree q ⟨hnone, hmade⟩
        exact ⟨by rw [hanswer], hgain⟩

theorem destination?_eq_some {place : Place} :
    file.destination? tree = some place ↔ (file.prepared tree).1 = .prepared ∧
      ∃ old, (file.prepared tree).2.writable? file.path = some (place, old) := by
  unfold destination?
  split
  · rename_i h
    simp [h]
  · rename_i h
    simp [h]

/-- What was at the destination is still there when the directories are made. -/
theorem entry?_destination {place : Place} (h : file.destination? tree = some place) :
    FileTree.entry? (file.prepared tree).2 place = tree.entry? place := by
  obtain ⟨_, old, hw⟩ := destination?_eq_some.mp h
  obtain ⟨_, _, hplace, _⟩ := FileTree.writable?_eq_some.mp hw
  rcases (prepared_makes tree file).entry place with heq | ⟨_, _, hmade⟩
  · exact heq
  · exact absurd (FileTree.sight_eq_directory.mpr hmade) hplace

theorem WritesTo.entry?_prepared {q : Place} (h : file.WritesTo tree q) :
    FileTree.entry? (file.prepared tree).2 q = tree.entry? q := by
  obtain ⟨place, hplace, hsame⟩ := h
  have hmade := ((prepared_makes tree file).sameFile place q).mpr hsame
  rw [← hmade.entry?_eq, ← hsame.entry?_eq, entry?_destination hplace]

end FileSpec

namespace WriteTask

open FileSpec

/-- The progress of a file with its directories, once it has been formatted. -/
def formattedProgress (content : FileSpec → Except String String) (file : FileSpec) : Progress :=
  match content file with
  | .ok text => .formatted text
  | .error reason => .failed (.format file.path reason)

def writtenProgress (tree : FileTree) (file : FileSpec) (text : String) : Progress :=
  if (tree.writeText file.path text).1 then .written else .failed (.write file.path)

/-- One step on a file tree. -/
def stepOn (formatting : Option (Formatting (StateM FileTree))) (task : WriteTask)
    (tree : FileTree) : WriteTask × FileTree :=
  task.step Disk.ofFileTree formatting tree

variable {formatting : Option (Formatting (StateM FileTree))}
  {content : FileSpec → Except String String} {tree larger : FileTree} {file : FileSpec}

theorem stepOn_waiting : stepOn formatting ⟨file, .waiting⟩ tree
    = (⟨file, (file.prepared tree).1⟩, (file.prepared tree).2) := rfl

theorem stepOn_prepared (h : Formatting.Computes formatting content) :
    stepOn formatting ⟨file, .prepared⟩ tree = (⟨file, formattedProgress content file⟩, tree) := by
  unfold stepOn step format formattedProgress
  rw [h file]
  cases content file <;> rfl

theorem stepOn_formatted (text : String) : stepOn formatting ⟨file, .formatted text⟩ tree
    = (⟨file, writtenProgress tree file text⟩, (tree.writeText file.path text).2) := by
  rfl

theorem stepOn_finished {task : WriteTask} (h : task.isFinished = true) :
    stepOn formatting task tree = (task, tree) :=
  step_of_finished h tree

/-- What is known of a lone task by its progress, and of the tree that it works on. -/
inductive Stage (content : FileSpec → Except String String) (tree : FileTree) (file : FileSpec) :
    Progress → FileTree → Prop
  | waiting : Stage content tree file .waiting tree
  | prepared : (file.prepared tree).1 = .prepared →
    Stage content tree file .prepared (file.prepared tree).2
  | formatted (text : String) : (file.prepared tree).1 = .prepared → content file = .ok text →
    Stage content tree file (.formatted text) (file.prepared tree).2
  | written (text : String) : (file.prepared tree).1 = .prepared → content file = .ok text →
    ((file.prepared tree).2.writeText file.path text).1 = true →
    Stage content tree file .written ((file.prepared tree).2.writeText file.path text).2
  | failed (error : GenerationError) :
    Stage content tree file (.failed error) (file.prepared tree).2

/-- A write that does not go through changes nothing. -/
theorem writeText_of_false {path : Path} {text : String}
    (h : (tree.writeText path text).1 = false) : (tree.writeText path text).2 = tree := by
  unfold FileTree.writeText at h ⊢
  cases hw : tree.writable? path with
  | none => rw [FileTree.writeBytes_of_none hw]
  | some found =>
    obtain ⟨hanswer, _, hrefused⟩ := FileTree.writeBytes_of_some hw text.toUTF8
    exact hrefused (hanswer.symm.trans h)

theorem prepared_cases (tree : FileTree) (file : FileSpec) :
    (file.prepared tree).1 = .prepared ∨ ∃ error, (file.prepared tree).1 = .failed error := by
  cases h : file.directoryToMake? with
  | none => exact .inl (congrArg Prod.fst (prepared_of_none h tree))
  | some directory =>
    rw [prepared_of_some h]
    cases (tree.createDirectories directory).1 with
    | true => exact .inl rfl
    | false => exact .inr ⟨_, rfl⟩

theorem Stage.step (hcomputes : Formatting.Computes formatting content) {progress : Progress}
    {now : FileTree} (h : Stage content tree file progress now) :
    (stepOn formatting ⟨file, progress⟩ now).1.file = file ∧
      Stage content tree file (stepOn formatting ⟨file, progress⟩ now).1.progress
        (stepOn formatting ⟨file, progress⟩ now).2 := by
  cases h with
  | waiting =>
    rw [stepOn_waiting]
    refine ⟨rfl, ?_⟩
    rcases prepared_cases tree file with hok | ⟨error, herror⟩
    · rw [hok]
      exact .prepared hok
    · rw [herror]
      exact .failed error
  | prepared hok =>
    rw [stepOn_prepared hcomputes]
    refine ⟨rfl, ?_⟩
    unfold formattedProgress
    cases htext : content file with
    | ok text => exact .formatted text hok htext
    | error reason => exact .failed _
  | formatted text hok htext =>
    rw [stepOn_formatted]
    refine ⟨rfl, ?_⟩
    unfold writtenProgress
    cases hw : ((file.prepared tree).2.writeText file.path text).1 with
    | true => exact .written text hok htext hw
    | false =>
      rw [writeText_of_false hw]
      exact .failed _
  | written text hok htext hw =>
    rw [stepOn_finished rfl]
    exact ⟨rfl, .written text hok htext hw⟩
  | failed error =>
    rw [stepOn_finished rfl]
    exact ⟨rfl, .failed error⟩

/-- The task of a file that has the disk to itself, after some steps. -/
def alone (formatting : Option (Formatting (StateM FileTree))) (tree : FileTree)
    (file : FileSpec) (count : Nat) : WriteTask × FileTree :=
  steps Disk.ofFileTree formatting count (start file) tree

/-- The tree that it has left by then. -/
def loneTree (formatting : Option (Formatting (StateM FileTree))) (tree : FileTree)
    (file : FileSpec) (count : Nat) : FileTree :=
  (alone formatting tree file count).2

/-- How a task that has the disk to itself ends. -/
def verdict (formatting : Option (Formatting (StateM FileTree))) (tree : FileTree)
    (file : FileSpec) : Progress :=
  (alone formatting tree file stepCount).1.progress

theorem alone_succ (count : Nat) : alone formatting tree file (count + 1)
    = stepOn formatting (alone formatting tree file count).1
        (alone formatting tree file count).2 :=
  steps_succ count (start file) tree

theorem alone_stage (hcomputes : Formatting.Computes formatting content) (count : Nat) :
    (alone formatting tree file count).1.file = file ∧
      Stage content tree file (alone formatting tree file count).1.progress
        (alone formatting tree file count).2 := by
  induction count with
  | zero => exact ⟨rfl, .waiting⟩
  | succ count ih =>
    obtain ⟨hfile, hstage⟩ := ih
    rw [alone_succ]
    rcases hreached : alone formatting tree file count with ⟨⟨f, progress⟩, now⟩
    rw [hreached] at hfile hstage
    obtain rfl : f = file := hfile
    exact hstage.step hcomputes

theorem alone_of_finished {count later : Nat}
    (h : (alone formatting tree file count).1.isFinished = true) (hle : count ≤ later) :
    alone formatting tree file later = alone formatting tree file count := by
  induction hle with
  | refl => rfl
  | step _ ih => rw [alone_succ, ih, stepOn_finished h]

/-- A task that is finished has come to its verdict, and three steps always finish it. -/
theorem alone_verdict {count : Nat}
    (h : (alone formatting tree file count).1.isFinished = true ∨ stepCount ≤ count) :
    (alone formatting tree file count).1.isFinished = true ∧
      (alone formatting tree file count).1.progress = verdict formatting tree file := by
  have hend : (alone formatting tree file stepCount).1.isFinished = true :=
    steps_finished (start file) tree
  have hcases : ∀ {count}, stepCount ≤ count →
      alone formatting tree file count = alone formatting tree file stepCount :=
    fun hle => alone_of_finished hend hle
  rcases Nat.le_total stepCount count with hle | hle
  · rw [hcases hle]
    exact ⟨hend, rfl⟩
  · have hfinished : (alone formatting tree file count).1.isFinished = true := by
      rcases h with h | hge
      · exact h
      · rw [hcases hge]
        exact hend
    exact ⟨hfinished, by rw [verdict, alone_of_finished hfinished hle]⟩

theorem writeText_written {path : Path} {text : String}
    (h : (tree.writeText path text).1 = true) :
    ∃ place, tree.writable? path = some (place, tree.entry? place) ∧
      FileTree.Puts tree place (tree.afterWrite (tree.entry? place) text.toUTF8)
        (tree.writeText path text).2 := by
  unfold FileTree.writeText at h ⊢
  cases hw : tree.writable? path with
  | none =>
    rw [FileTree.writeBytes_of_none hw] at h
    cases h
  | some found =>
    obtain ⟨place, old⟩ := found
    obtain ⟨_, _, _, _, rfl⟩ := FileTree.writable?_eq_some.mp hw
    obtain ⟨hanswer, hput, _⟩ := FileTree.writeBytes_of_some hw text.toUTF8
    exact ⟨place, rfl, hput (hanswer.symm.trans h)⟩

theorem afterWrite_congr {other : FileTree} (h : FileTree.SameFrame tree other)
    (old : Option Entry) (content : ByteArray) :
    other.afterWrite old content = tree.afterWrite old content := by
  unfold FileTree.afterWrite FileTree.newMode
  rw [h.mask]

/-- The whole text is at the destination when the task has written it. -/
theorem written_entry (hok : (file.prepared tree).1 = .prepared) {text : String}
    (hw : ((file.prepared tree).2.writeText file.path text).1 = true) :
    ∃ place, file.destination? tree = some place ∧
      FileTree.Puts (file.prepared tree).2 place
        (tree.afterWrite (tree.entry? place) text.toUTF8)
        ((file.prepared tree).2.writeText file.path text).2 := by
  obtain ⟨place, hwritable, hput⟩ := writeText_written hw
  have hdestination := destination?_eq_some.mpr ⟨hok, _, hwritable⟩
  refine ⟨place, hdestination, ?_⟩
  have hframe := (prepared_makes tree file).toSameFrame
  rwa [entry?_destination hdestination, afterWrite_congr hframe] at hput

theorem Stage.tree_of_waiting {now : FileTree} (h : Stage content tree file .waiting now) :
    now = tree := by
  cases h
  rfl

theorem Stage.grows {progress : Progress} {now : FileTree}
    (h : Stage content tree file progress now) : FileTree.Grows tree now := by
  have hmade := (prepared_makes tree file).grows
  cases h with
  | waiting => exact .refl tree
  | prepared _ => exact hmade
  | formatted _ _ _ => exact hmade
  | failed _ => exact hmade
  | written text hok _ hw =>
    obtain ⟨place, hwritable, hput⟩ := writeText_written hw
    exact hmade.trans (hput.grows_of_write hwritable _)

/-- A place has changed if a directory was made there, or if the file was written there. -/
theorem Stage.entry {progress : Progress} {now : FileTree}
    (h : Stage content tree file progress now) (q : Place) :
    now.entry? q = tree.entry? q ∨
      (file.MakesDirectoryAt tree q ∧ now.entry? q = some .directory) ∨ file.WritesTo tree q := by
  have hmade : FileTree.entry? (file.prepared tree).2 q = tree.entry? q ∨
      (file.MakesDirectoryAt tree q ∧
        FileTree.entry? (file.prepared tree).2 q = some .directory) := by
    rcases (prepared_makes tree file).entry q with heq | ⟨hnone, _, hdirectory⟩
    · exact .inl heq
    · exact .inr ⟨⟨hnone, hdirectory⟩, hdirectory⟩
  cases h with
  | waiting => exact .inl rfl
  | prepared _ => exact hmade.imp_right .inl
  | formatted _ _ _ => exact hmade.imp_right .inl
  | failed _ => exact hmade.imp_right .inl
  | written text hok _ hw =>
    obtain ⟨place, hdestination, hput⟩ := written_entry hok hw
    by_cases hq : tree.SameFile place q
    · exact .inr (.inr ⟨place, hdestination, hq⟩)
    · rw [hput.elsewhere q (mt ((prepared_makes tree file).sameFile place q).mp hq)]
      exact hmade.imp_right .inl

/-- Until it is written, the file is as it was under all its names. -/
theorem Stage.entry_unwritten {progress : Progress} {now : FileTree}
    (h : Stage content tree file progress now) {q : Place} (hwrites : file.WritesTo tree q)
    (hnot : progress ≠ .written) : now.entry? q = tree.entry? q := by
  have hprepared := hwrites.entry?_prepared
  cases h with
  | waiting => rfl
  | prepared _ => exact hprepared
  | formatted _ _ _ => exact hprepared
  | failed _ => exact hprepared
  | written _ _ _ _ => exact absurd rfl hnot

theorem Stage.entry_written {now : FileTree} (h : Stage content tree file .written now) :
    ∃ place text, file.destination? tree = some place ∧ content file = .ok text ∧
      ∀ q, tree.SameFile place q →
        now.entry? q = some (tree.afterWrite (tree.entry? place) text.toUTF8) := by
  cases h with
  | written text hok htext hw =>
    obtain ⟨place, hdestination, hput⟩ := written_entry hok hw
    exact ⟨place, text, hdestination, htext, fun q hq =>
      hput.named q (((prepared_makes tree file).sameFile place q).mpr hq)⟩

end WriteTask

end DtoGen

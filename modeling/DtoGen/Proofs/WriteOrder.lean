import DtoGen.Proofs.PlainWays

namespace DtoGen

namespace FileSpec

/-- What is written for the first file is not what is written for the second one, nor where that
one needs a directory. -/
def Apart (tree : FileTree) (file other : FileSpec) : Prop :=
  ∀ name, file.WritesTo tree name → ¬other.WritesTo tree name ∧ ¬other.MakesDirectoryAt tree name

/-- The paths spell neither names of one file nor places of which one is above the other. -/
def SpelledApart (tree : FileTree) (file other : FileSpec) : Prop :=
  ∀ p q, file.place? tree = some p → other.place? tree = some q →
    ¬tree.SameFile p q ∧ ¬p <+: q ∧ ¬q <+: p

instance (tree : FileTree) (file other : FileSpec) : Decidable (SpelledApart tree file other) :=
  match hp : file.place? tree, hq : other.place? tree with
  | some p, some q => decidable_of_iff (¬tree.SameFile p q ∧ ¬p <+: q ∧ ¬q <+: p)
      (by simp [SpelledApart, hp, hq])
  | none, _ => isTrue (by simp [SpelledApart, hp])
  | some _, none => isTrue (by simp [SpelledApart, hq])

variable {tree : FileTree} {file other : FileSpec}

theorem SpelledApart.symm (h : SpelledApart tree file other) : SpelledApart tree other file := by
  intro q p hq hp
  obtain ⟨hsame, hbelow, habove⟩ := h p q hp hq
  exact ⟨mt FileTree.SameFile.symm hsame, habove, hbelow⟩

theorem SpelledApart.apart (h : SpelledApart tree file other) (hfile : file.Plain tree)
    (hother : other.Plain tree) : Apart tree file other := by
  rintro name ⟨place, hdestination, hsame⟩
  have hplace := hfile.destination hdestination
  refine ⟨fun ⟨other, hwritten, hname⟩ => ?_, fun hmakes => ?_⟩
  · exact (h place other hplace (hother.destination hwritten)).1 (hsame.trans hname.symm)
  · -- where a directory is missing, nothing has another name
    obtain rfl : place = name := (FileTree.sameFile_of_absent hmakes.1).mp hsame.symm
    obtain ⟨q, hq⟩ := Option.isSome_iff_exists.mp hother.fits
    exact (h place q hplace hq).2.1 (hother.makesDirectoryAt hmakes hq)

end FileSpec

namespace WriteTask

open FileSpec FileTree

variable {formatting : Option (Formatting (StateM FileTree))}
  {content : FileSpec → Except String String}

/-- What a step does to a lone tree it does to a larger one: nothing at a place, a directory where
the file needs one, or the same under a name of what the file is written to. -/
def StepsAlike (tree : FileTree) (file : FileSpec) (now next larger largerNext : FileTree) : Prop :=
  ∀ q, (next.entry? q = now.entry? q ∧ largerNext.entry? q = larger.entry? q) ∨
    (file.MakesDirectoryAt tree q ∧ next.entry? q = some .directory ∧
      largerNext.entry? q = some .directory) ∨
    (file.WritesTo tree q ∧ largerNext.entry? q = next.entry? q)

theorem StepsAlike.still (tree : FileTree) (file : FileSpec) (now larger : FileTree) :
    StepsAlike tree file now now larger larger :=
  fun _ => .inl ⟨rfl, rfl⟩

theorem writeText_frame (tree : FileTree) (path : Path) (text : String) :
    SameFrame tree (tree.writeText path text).2 := by
  cases h : (tree.writeText path text).1 with
  | true =>
    obtain ⟨_, _, hput⟩ := writeText_written h
    exact hput.toSameFrame
  | false => rw [writeText_of_false h]; exact .refl tree

/-- A write answers alike in a larger tree that holds the same at the destination. -/
theorem writeText_alike {tree larger : FileTree} (h : Grows tree larger) {path : Path}
    (hgap : tree.reach path ≠ .missing)
    (hsame : ∀ place old, tree.writable? path = some (place, old) →
      larger.entry? place = tree.entry? place) (text : String) :
    (larger.writeText path text).1 = (tree.writeText path text).1 ∧
      ∀ q, (FileTree.entry? (tree.writeText path text).2 q = tree.entry? q ∧
          FileTree.entry? (larger.writeText path text).2 q = larger.entry? q) ∨
        ∃ place old, tree.writable? path = some (place, old) ∧ tree.SameFile place q ∧
          FileTree.entry? (larger.writeText path text).2 q
            = FileTree.entry? (tree.writeText path text).2 q := by
  have heq := h.writable?_eq hgap hsame
  unfold writeText
  cases hw : tree.writable? path with
  | none =>
    rw [writeBytes_of_none hw, writeBytes_of_none (heq.trans hw)]
    exact ⟨rfl, fun _ => .inl ⟨rfl, rfl⟩⟩
  | some found =>
    obtain ⟨place, old⟩ := found
    obtain ⟨hanswer, hput, hrefused⟩ := writeBytes_of_some hw text.toUTF8
    obtain ⟨hanswer', hput', hrefused'⟩ := writeBytes_of_some (heq.trans hw) text.toUTF8
    refine ⟨hanswer'.trans hanswer.symm, fun q => ?_⟩
    cases htakes : takesContent old text.toUTF8 with
    | false =>
      rw [hrefused htakes, hrefused' htakes]
      exact .inl ⟨rfl, rfl⟩
    | true =>
      have hput := hput htakes
      have hput' := hput' htakes
      have hnames := h.sameFile place q
      by_cases hq : tree.SameFile place q
      · refine .inr ⟨place, old, rfl, hq, ?_⟩
        rw [hput.named q hq, hput'.named q (hnames.mpr hq), afterWrite_congr h.toSameFrame]
      · exact .inl ⟨hput.elsewhere q hq, hput'.elsewhere q (mt hnames.mp hq)⟩

/-- A step beside other tasks answers as the step of the lone task, and does the same. -/
theorem Stage.step_alike (hcomputes : Formatting.Computes formatting content)
    {tree now larger : FileTree} {file : FileSpec} {progress : Progress}
    (h : Stage content tree file progress now) (hgrows : Grows now larger)
    (hclear : file.Clear tree)
    (hfree : progress = .waiting → ∀ place, file.MakesDirectoryAt tree place →
      larger.entry? place = none ∨ larger.entry? place = some .directory)
    (hsame : ∀ place, file.destination? tree = some place →
      larger.entry? place = now.entry? place) :
    (stepOn formatting ⟨file, progress⟩ larger).1 = (stepOn formatting ⟨file, progress⟩ now).1 ∧
      StepsAlike tree file now (stepOn formatting ⟨file, progress⟩ now).2 larger
        (stepOn formatting ⟨file, progress⟩ larger).2 := by
  cases h with
  | waiting =>
    rw [stepOn_waiting, stepOn_waiting]
    obtain ⟨hanswer, hgain⟩ := prepared_alike hgrows hclear (hfree rfl)
    refine ⟨by rw [hanswer], fun q => ?_⟩
    rcases hgain q with ⟨hnone, hmade, hgained⟩ | hstill
    · exact .inr (.inl ⟨⟨hnone, hmade⟩, hmade, hgained⟩)
    · exact .inl hstill
  | prepared hok =>
    rw [stepOn_prepared hcomputes, stepOn_prepared hcomputes]
    exact ⟨rfl, .still tree file _ _⟩
  | formatted text hok htext =>
    rw [stepOn_formatted, stepOn_formatted]
    obtain ⟨hanswer, hwrite⟩ := writeText_alike hgrows (hclear.path hok)
      (fun place old hw => hsame place (destination?_eq_some.mpr ⟨hok, old, hw⟩)) text
    refine ⟨by rw [writtenProgress, writtenProgress, hanswer], fun q => ?_⟩
    rcases hwrite q with hstill | ⟨place, old, hw, hsame, hequal⟩
    · exact .inl hstill
    · have hnames := (prepared_makes tree file).sameFile place q
      exact .inr (.inr ⟨⟨place, destination?_eq_some.mpr ⟨hok, old, hw⟩, hnames.mp hsame⟩, hequal⟩)
  | written _ _ _ _ =>
    rw [stepOn_finished rfl, stepOn_finished rfl]
    exact ⟨rfl, .still tree file _ _⟩
  | failed _ =>
    rw [stepOn_finished rfl, stepOn_finished rfl]
    exact ⟨rfl, .still tree file _ _⟩

theorem stepOn_frame (hcomputes : Formatting.Computes formatting content) (task : WriteTask)
    (tree : FileTree) : SameFrame tree (stepOn formatting task tree).2 := by
  obtain ⟨file, progress⟩ := task
  cases progress with
  | waiting => exact (prepared_makes tree file).toSameFrame
  | prepared => rw [stepOn_prepared hcomputes]; exact .refl tree
  | formatted text => exact writeText_frame tree file.path text
  | written => exact .refl tree
  | failed _ => exact .refl tree

end WriteTask

namespace Writing

open FileSpec FileTree WriteTask

/-- No file is in the way of another one, and no link that stands for nothing in the way of any. -/
structure Undisturbed (before : FileTree) (files : List FileSpec) : Prop where
  apart : files.Pairwise fun file other => Apart before file other ∧ Apart before other file
  clear : ∀ file ∈ files, file.Clear before

/-- Plain files with paths that spell places apart do not disturb each other. -/
theorem undisturbed_of_plain {before : FileTree} {files : List FileSpec}
    (hplain : ∀ file ∈ files, file.Plain before) (h : files.Pairwise (SpelledApart before)) :
    Undisturbed before files :=
  ⟨h.imp_of_mem fun hfile hother hapart => ⟨hapart.apart (hplain _ hfile) (hplain _ hother),
      hapart.symm.apart (hplain _ hother) (hplain _ hfile)⟩,
    fun file hfile => (hplain file hfile).clear⟩

theorem Undisturbed.apart_of_ne {before : FileTree} {files : List FileSpec}
    (h : Undisturbed before files) {i j : Nat} {file other : FileSpec}
    (hi : files[i]? = some file) (hj : files[j]? = some other) (hne : i ≠ j) :
    Apart before file other := by
  obtain ⟨hilt, rfl⟩ := List.getElem?_eq_some_iff.mp hi
  obtain ⟨hjlt, rfl⟩ := List.getElem?_eq_some_iff.mp hj
  have hpairs := List.pairwise_iff_getElem.mp h.apart
  rcases Nat.lt_or_gt_of_ne hne with hlt | hgt
  · exact (hpairs i j hilt hjlt hlt).1
  · exact (hpairs j i hjlt hilt hgt).2

/-- Every task has come as far as it comes alone in some number of steps, and the disk holds what
the lone tasks would have left by then, all of it and nothing else. -/
structure Reached (formatting : Option (Formatting (StateM FileTree))) (before : FileTree)
    (files : List FileSpec) (done : Nat → Nat) (tasks : List WriteTask) (now : FileTree) :
    Prop where
  frame : SameFrame before now
  tasks : ∀ i, tasks[i]? = files[i]?.map fun file => (alone formatting before file (done i)).1
  present : ∀ i file, files[i]? = some file → ∀ q,
    FileTree.entry? (loneTree formatting before file (done i)) q = before.entry? q ∨
      now.entry? q = FileTree.entry? (loneTree formatting before file (done i)) q
  nothingElse : ∀ q, now.entry? q = before.entry? q ∨ ∃ i file, files[i]? = some file ∧
    now.entry? q = FileTree.entry? (loneTree formatting before file (done i)) q

/-- One more step of one task. -/
def advance (done : Nat → Nat) (i : Nat) : Nat → Nat :=
  fun j => if j = i then done i + 1 else done j

theorem advance_self (done : Nat → Nat) (i : Nat) : advance done i i = done i + 1 :=
  if_pos rfl

theorem advance_of_ne (done : Nat → Nat) {i j : Nat} (h : i ≠ j) : advance done i j = done j :=
  if_neg (Ne.symm h)

namespace Reached

variable {formatting : Option (Formatting (StateM FileTree))}
  {content : FileSpec → Except String String} {before now : FileTree} {files : List FileSpec}
  {done : Nat → Nat} {tasks : List WriteTask}

theorem start (formatting : Option (Formatting (StateM FileTree))) (before : FileTree)
    (files : List FileSpec) :
    Reached formatting before files (fun _ => 0) (files.map WriteTask.start) before := by
  refine ⟨.refl before, fun i => ?_, fun _ _ _ _ => .inl rfl, fun _ => .inl rfl⟩
  rw [List.getElem?_map]
  rfl

theorem stage (hcomputes : Formatting.Computes formatting content) (before : FileTree)
    (file : FileSpec) (count : Nat) :
    Stage content before file (alone formatting before file count).1.progress
      (alone formatting before file count).2 :=
  (alone_stage hcomputes count).2

/-- The disk is larger than the one that any of the tasks would have alone. -/
theorem grows (hcomputes : Formatting.Computes formatting content)
    (h : Reached formatting before files done tasks now) {i : Nat} {file : FileSpec}
    (hi : files[i]? = some file) : Grows (loneTree formatting before file (done i)) now := by
  have hlone := (stage hcomputes before file (done i)).grows
  have hframe : SameFrame (loneTree formatting before file (done i)) now :=
    hlone.toSameFrame.symm.trans h.frame
  refine ⟨hframe, fun q => ?_⟩
  rcases h.present i file hi q with hbefore | hsame
  · have hsight : (loneTree formatting before file (done i)).sight q = before.sight q :=
      hlone.sight_eq_of hbefore
    have hclosed : (loneTree formatting before file (done i)).isClosed q = before.isClosed q :=
      hlone.isClosed_eq q
    rw [hsight, hclosed]
    rcases h.nothingElse q with heq | ⟨j, other, _, heq⟩
    · exact .inl (h.frame.sight_eq_of heq)
    · have hother := (stage hcomputes before other (done j)).grows
      have hnow : now.sight q = _ := (hother.toSameFrame.symm.trans h.frame).sight_eq_of heq
      rw [hnow]
      exact hother.seen q
  · exact .inl (hframe.sight_eq_of hsame)

/-- What another task has done alone is no obstacle where a file is written. -/
theorem entry_of_writesTo (hcomputes : Formatting.Computes formatting content)
    (hfiles : Undisturbed before files) {i j : Nat} {file other : FileSpec}
    (hi : files[i]? = some file) (hj : files[j]? = some other) (hne : i ≠ j) {q : Place}
    (hwrites : file.WritesTo before q) :
    FileTree.entry? (loneTree formatting before other (done j)) q = before.entry? q := by
  obtain ⟨hdestination, hdirectory⟩ := hfiles.apart_of_ne hi hj hne q hwrites
  rcases (stage hcomputes before other (done j)).entry q with hsame | ⟨hmakes, _⟩ | hother
  · exact hsame
  · exact absurd hmakes hdirectory
  · exact absurd hother hdestination

/-- What a file is written to is on the disk as its task would have it alone. -/
theorem entry_written (hcomputes : Formatting.Computes formatting content)
    (hfiles : Undisturbed before files) (h : Reached formatting before files done tasks now)
    {i : Nat} {file : FileSpec} (hi : files[i]? = some file) {q : Place}
    (hwrites : file.WritesTo before q) :
    now.entry? q = FileTree.entry? (loneTree formatting before file (done i)) q := by
  have hunless : now.entry? q = before.entry? q →
      now.entry? q = FileTree.entry? (loneTree formatting before file (done i)) q := by
    intro hnow
    rcases h.present i file hi q with hbefore | hsame
    · rw [hnow, hbefore]
    · exact hsame
  rcases h.nothingElse q with hnow | ⟨j, other, hj, hnow⟩
  · exact hunless hnow
  · by_cases hij : i = j
    · subst hij
      obtain rfl : file = other := Option.some.inj (hi.symm.trans hj)
      exact hnow
    · exact hunless (hnow.trans (entry_of_writesTo hcomputes hfiles hi hj hij hwrites))

/-- Where a file needs a directory, nobody has put anything else. -/
theorem entry_directory (hcomputes : Formatting.Computes formatting content)
    (hfiles : Undisturbed before files) {i j : Nat} {file other : FileSpec}
    (hi : files[i]? = some file) (hj : files[j]? = some other) (hne : i ≠ j) {q : Place}
    (hmakes : file.MakesDirectoryAt before q) :
    FileTree.entry? (loneTree formatting before other (done j)) q = before.entry? q ∨
      FileTree.entry? (loneTree formatting before other (done j)) q = some .directory := by
  rcases (stage hcomputes before other (done j)).entry q with hsame | ⟨_, hmade⟩ | hwrites
  · exact .inl hsame
  · exact .inr hmade
  · exact absurd hmakes (hfiles.apart_of_ne hj hi (Ne.symm hne) q hwrites).2

/-- The step that a task takes among the others is the one that it takes alone. -/
theorem step_alike (hcomputes : Formatting.Computes formatting content)
    (hfiles : Undisturbed before files) (h : Reached formatting before files done tasks now)
    {i : Nat} {file : FileSpec} (hi : files[i]? = some file) :
    (stepOn formatting (alone formatting before file (done i)).1 now).1
        = (alone formatting before file (done i + 1)).1 ∧
      StepsAlike before file (loneTree formatting before file (done i))
        (loneTree formatting before file (done i + 1)) now
        (stepOn formatting (alone formatting before file (done i)).1 now).2 := by
  have hgrows := h.grows hcomputes hi
  have hsame : ∀ place, file.destination? before = some place → _ :=
    fun place hplace => h.entry_written hcomputes hfiles hi ⟨place, hplace, .refl before place⟩
  have hfile : (alone formatting before file (done i)).1.file = file :=
    (alone_stage hcomputes (done i)).1
  have hstage := stage hcomputes before file (done i)
  have hfree : (alone formatting before file (done i)).1.progress = .waiting →
      ∀ place, file.MakesDirectoryAt before place →
        now.entry? place = none ∨ now.entry? place = some .directory := by
    intro hwaiting place hmakes
    rcases h.nothingElse place with hnow | ⟨j, other, hj, hnow⟩
    · exact .inl (hnow.trans hmakes.1)
    · by_cases hij : i = j
      · subst hij
        obtain rfl : file = other := Option.some.inj (hi.symm.trans hj)
        rw [hwaiting] at hstage
        have hlone := congrArg (fun lone : FileTree => lone.entry? place) hstage.tree_of_waiting
        exact .inl ((hnow.trans hlone).trans hmakes.1)
      · rcases entry_directory hcomputes hfiles hi hj hij hmakes with hsame | hmade
        · exact .inl ((hnow.trans hsame).trans hmakes.1)
        · exact .inr (hnow.trans hmade)
  unfold loneTree at hgrows hsame ⊢
  rw [alone_succ]
  rcases hreached : alone formatting before file (done i) with ⟨⟨f, progress⟩, lone⟩
  rw [hreached] at hfile hstage hgrows hsame hfree
  obtain rfl : f = file := hfile
  exact hstage.step_alike hcomputes hgrows (hfiles.clear f (List.mem_of_getElem? hi)) hfree hsame

/-- One task takes a step, and the others stay where they are. -/
theorem step (hcomputes : Formatting.Computes formatting content)
    (hfiles : Undisturbed before files) (h : Reached formatting before files done tasks now)
    {i : Nat} {file : FileSpec} (hi : files[i]? = some file) {task : WriteTask}
    (htask : tasks[i]? = some task) :
    Reached formatting before files (advance done i)
      (tasks.set i (stepOn formatting task now).1) (stepOn formatting task now).2 := by
  obtain rfl : (alone formatting before file (done i)).1 = task := by
    have htasks := h.tasks i
    rw [htask, hi] at htasks
    exact (Option.some.inj htasks).symm
  have hframe := stepOn_frame hcomputes (alone formatting before file (done i)).1 now
  obtain ⟨hanswer, halike⟩ := h.step_alike hcomputes hfiles hi
  refine ⟨h.frame.trans hframe, fun j => ?_, fun j other hj q => ?_, fun q => ?_⟩
  · by_cases hij : i = j
    · subst hij
      rw [List.getElem?_set_self (List.getElem?_eq_some_iff.mp htask).1, hi, hanswer, advance_self]
      rfl
    · rw [List.getElem?_set_ne hij, h.tasks j, advance_of_ne done hij]
  · by_cases hij : i = j
    · subst hij
      obtain rfl : file = other := Option.some.inj (hi.symm.trans hj)
      rw [advance_self]
      rcases halike q with ⟨hlone, hnow⟩ | ⟨_, hlone, hnow⟩ | ⟨_, hnow⟩
      · rw [hlone, hnow]
        exact h.present i file hi q
      · exact .inr (hnow.trans hlone.symm)
      · exact .inr hnow
    · rw [advance_of_ne done hij]
      rcases halike q with ⟨_, hnow⟩ | ⟨hmakes, _, hnow⟩ | ⟨hwrites, _⟩
      · rw [hnow]
        exact h.present j other hj q
      · rw [hnow]
        exact (entry_directory hcomputes hfiles hi hj hij hmakes).imp_right Eq.symm
      · exact .inl (entry_of_writesTo hcomputes hfiles hi hj hij hwrites)
  · have hown :
        FileTree.entry? (stepOn formatting (alone formatting before file (done i)).1 now).2 q
          = FileTree.entry? (loneTree formatting before file (done i + 1)) q →
        ∃ j other, files[j]? = some other ∧
          FileTree.entry? (stepOn formatting (alone formatting before file (done i)).1 now).2 q
            = FileTree.entry? (loneTree formatting before other (advance done i j)) q :=
      fun heq => ⟨i, file, hi, by rw [advance_self]; exact heq⟩
    rcases halike q with ⟨hlone, hnow⟩ | ⟨_, hlone, hnow⟩ | ⟨_, hnow⟩
    · rcases h.nothingElse q with hbefore | ⟨j, other, hj, heq⟩
      · exact .inl (hnow.trans hbefore)
      · by_cases hij : i = j
        · subst hij
          obtain rfl : file = other := Option.some.inj (hi.symm.trans hj)
          exact .inr (hown ((hnow.trans heq).trans hlone.symm))
        · exact .inr ⟨j, other, hj, by rw [advance_of_ne done hij]; exact hnow.trans heq⟩
    · exact .inr (hown (hnow.trans hlone.symm))
    · exact .inr (hown hnow)

end Reached

section Runs

variable {formatting : Option (Formatting (StateM FileTree))}
  {content : FileSpec → Except String String} {before : FileTree} {files : List FileSpec}

/-- The tasks and the tree after the steps of a schedule. -/
def followOn (formatting : Option (Formatting (StateM FileTree))) (schedule : List Nat)
    (tasks : List WriteTask) (tree : FileTree) : List WriteTask × FileTree :=
  follow Disk.ofFileTree formatting schedule tasks tree

/-- The answer and the tree in the end. -/
def runOn (formatting : Option (Formatting (StateM FileTree))) (schedule : List Nat)
    (files : List FileSpec) (tree : FileTree) :
    Except GenerationError (List Path) × FileTree :=
  run Disk.ofFileTree formatting schedule files tree

/-- A step of the schedule, and with it the schedule, keeps the tasks in step with the lone ones. -/
theorem Reached.follow (hcomputes : Formatting.Computes formatting content)
    (hfiles : Undisturbed before files) (schedule : List Nat) {done : Nat → Nat}
    {tasks : List WriteTask} {now : FileTree}
    (h : Reached formatting before files done tasks now) :
    ∃ done', Reached formatting before files done' (followOn formatting schedule tasks now).1
      (followOn formatting schedule tasks now).2 := by
  induction schedule generalizing done tasks now with
  | nil => exact ⟨done, h⟩
  | cons i schedule ih =>
    have hhead : followOn formatting (i :: schedule) tasks now
        = followOn formatting schedule (stepAt Disk.ofFileTree formatting i tasks now).1
          (stepAt Disk.ofFileTree formatting i tasks now).2 := rfl
    rw [hhead, stepAt_eq]
    cases htask : tasks[i]? with
    | none => exact ih h
    | some task =>
      have hfile := h.tasks i
      rw [htask] at hfile
      obtain ⟨file, hi, _⟩ := Option.map_eq_some_iff.mp hfile.symm
      exact ih (h.step hcomputes hfiles hi htask)

/-- What holds of tasks and disk at any moment. A task that is finished has come to the verdict that
it comes to alone. What a file is written to is as it was or holds its whole text, under every name
that it has, and elsewhere there may be new directories and nothing else. -/
structure Consistent (formatting : Option (Formatting (StateM FileTree)))
    (content : FileSpec → Except String String) (before : FileTree) (files : List FileSpec)
    (tasks : List WriteTask) (now : FileTree) : Prop where
  frame : SameFrame before now
  sources : tasks.map WriteTask.file = files
  verdict : ∀ task ∈ tasks, task.isFinished = true →
    task.progress = verdict formatting before task.file
  unwritten : ∀ task ∈ tasks, task.progress ≠ .written → ∀ name,
    task.file.WritesTo before name → now.entry? name = before.entry? name
  written : ∀ task ∈ tasks, task.progress = .written → ∃ place text,
    task.file.destination? before = some place ∧ content task.file = .ok text ∧
      ∀ name, before.SameFile place name →
        now.entry? name = some (before.afterWrite (before.entry? place) text.toUTF8)
  elsewhere : ∀ place, (∀ file ∈ files, ¬file.WritesTo before place) →
    now.entry? place = before.entry? place ∨
      before.entry? place = none ∧ now.entry? place = some .directory

theorem Reached.mem_tasks {done : Nat → Nat} {tasks : List WriteTask} {now : FileTree}
    (h : Reached formatting before files done tasks now) {task : WriteTask} (ht : task ∈ tasks) :
    ∃ i file, files[i]? = some file ∧ task = (alone formatting before file (done i)).1 := by
  obtain ⟨i, hi⟩ := List.mem_iff_getElem?.mp ht
  have htasks := h.tasks i
  rw [hi] at htasks
  obtain ⟨file, hfile, htask⟩ := Option.map_eq_some_iff.mp htasks.symm
  exact ⟨i, file, hfile, htask.symm⟩

theorem Reached.consistent (hcomputes : Formatting.Computes formatting content)
    (hfiles : Undisturbed before files) {done : Nat → Nat} {tasks : List WriteTask}
    {now : FileTree} (h : Reached formatting before files done tasks now) :
    Consistent formatting content before files tasks now := by
  have hfile : ∀ file count, (alone formatting before file count).1.file = file :=
    fun _ count => (alone_stage hcomputes count).1
  refine ⟨h.frame, List.ext_getElem? fun i => ?_, fun task ht hfinished => ?_,
    fun task ht hnot name hwrites => ?_, fun task ht hwritten => ?_, fun place hplace => ?_⟩
  · rw [List.getElem?_map, h.tasks i, Option.map_map]
    cases files[i]? with
    | none => rfl
    | some file => exact congrArg some (hfile file (done i))
  · obtain ⟨i, file, _, rfl⟩ := h.mem_tasks ht
    rw [hfile]
    exact (alone_verdict (.inl hfinished)).2
  · obtain ⟨i, file, hi, rfl⟩ := h.mem_tasks ht
    rw [hfile] at hwrites
    rw [h.entry_written hcomputes hfiles hi hwrites]
    exact (Reached.stage hcomputes before file (done i)).entry_unwritten hwrites hnot
  · obtain ⟨i, file, hi, rfl⟩ := h.mem_tasks ht
    have hstage := Reached.stage hcomputes before file (done i)
    rw [hwritten] at hstage
    obtain ⟨place, text, hplace, htext, hentry⟩ := hstage.entry_written
    rw [hfile]
    exact ⟨place, text, hplace, htext, fun name hname =>
      (h.entry_written hcomputes hfiles hi ⟨place, hplace, hname⟩).trans (hentry name hname)⟩
  · rcases h.nothingElse place with hnow | ⟨i, file, hi, hnow⟩
    · exact .inl hnow
    · rcases (Reached.stage hcomputes before file (done i)).entry place with
        hsame | ⟨⟨hnone, _⟩, hmade⟩ | hwrites
      · exact .inl (hnow.trans hsame)
      · exact .inr ⟨hnone, hnow.trans hmade⟩
      · exact absurd hwrites (hplace file (List.mem_of_getElem? hi))

namespace Consistent

variable {tasks : List WriteTask} {now : FileTree}

theorem paths (h : Consistent formatting content before files tasks now) :
    tasks.map (·.file.path) = files.map FileSpec.path := by
  rw [← h.sources, List.map_map]
  rfl

theorem mem_files (h : Consistent formatting content before files tasks now) {task : WriteTask}
    (ht : task ∈ tasks) : task.file ∈ files :=
  h.sources ▸ List.mem_map_of_mem ht

theorem all_written_iff (h : Consistent formatting content before files tasks now)
    (hfinished : ∀ task ∈ tasks, task.isFinished = true) :
    (∀ task ∈ tasks, task.progress = .written) ↔
      ∀ file ∈ files, WriteTask.verdict formatting before file = .written := by
  constructor
  · intro hwritten file hfile
    rw [← h.sources] at hfile
    obtain ⟨task, ht, rfl⟩ := List.mem_map.mp hfile
    rw [← h.verdict task ht (hfinished task ht)]
    exact hwritten task ht
  · intro hverdict task ht
    rw [h.verdict task ht (hfinished task ht)]
    exact hverdict task.file (h.mem_files ht)

end Consistent

/-- What the order of the steps does not show in. At every moment tasks and disk are consistent with
what each task does alone; and in the end all tasks are finished, and the answer lists every file,
or tells the error of a task that fails alone. -/
structure Orderless (formatting : Option (Formatting (StateM FileTree)))
    (content : FileSpec → Except String String) (before : FileTree) (files : List FileSpec)
    (schedule : List Nat) : Prop where
  always : Consistent formatting content before files
    (followOn formatting schedule (files.map WriteTask.start) before).1
    (followOn formatting schedule (files.map WriteTask.start) before).2
  atEnd : ∃ finished, Consistent formatting content before files finished
      (runOn formatting schedule files before).2 ∧
    ∀ task ∈ finished, task.isFinished = true
  succeeds_iff : ∀ paths, (runOn formatting schedule files before).1 = .ok paths ↔
    paths = files.map FileSpec.path ∧
      ∀ file ∈ files, WriteTask.verdict formatting before file = .written
  failed : ∀ error, (runOn formatting schedule files before).1 = .error error →
    ∃ file ∈ files, WriteTask.verdict formatting before file = .failed error

theorem Undisturbed.orderless (hcomputes : Formatting.Computes formatting content)
    (hfiles : Undisturbed before files) (schedule : List Nat) :
    Orderless formatting content before files schedule := by
  have hstart := Reached.start formatting before files
  obtain ⟨_, hreached⟩ := hstart.follow hcomputes hfiles schedule
  obtain ⟨complete, seen, hrun, hfinished, hseen⟩ :=
    run_eq_follow Disk.ofFileTree formatting schedule files before
  obtain ⟨_, hend⟩ := hstart.follow hcomputes hfiles complete
  have hconsistent := hend.consistent hcomputes hfiles
  unfold followOn at hconsistent
  have hran : runOn formatting schedule files before = _ := hrun
  refine ⟨hreached.consistent hcomputes hfiles, ⟨_, by rw [hran]; exact hconsistent, hfinished⟩,
    fun paths => ?_, fun error herror => ?_⟩
  · rw [hran, outcome_ok hfinished hseen, hconsistent.paths, hconsistent.all_written_iff hfinished]
  · rw [hran] at herror
    obtain ⟨task, ht, hfailed⟩ := outcome_error hseen herror
    have hverdict := hconsistent.verdict task ht (hfinished task ht)
    exact ⟨task.file, hconsistent.mem_files ht, hverdict.symm.trans hfailed⟩

/-- The order in which tasks take their steps does not show, as long as no file is in the way of
another one. For that it is enough that the paths are plain and spell places apart. -/
theorem consistent_in_any_order (hcomputes : Formatting.Computes formatting content) :
    (Undisturbed before files →
      ∀ schedule, Orderless formatting content before files schedule) ∧
    ((∀ file ∈ files, file.Plain before) → files.Pairwise (SpelledApart before) →
      ∀ schedule, Orderless formatting content before files schedule) :=
  ⟨fun hfiles => hfiles.orderless hcomputes, fun hplain hapart =>
    (undisturbed_of_plain hplain hapart).orderless hcomputes⟩

/-- Ends a text with a new line, and refuses one that is empty. -/
def endLine (text : String) : Except String String :=
  if text = "" then .error "there is nothing to format" else .ok (text ++ "\n")

def lineEnding : Option (Formatting (StateM FileTree)) :=
  some ⟨⟨fun _ => pure (.ok none), fun text _ _ => pure (endLine text)⟩, none⟩

/-- An empty working directory. -/
def emptyTree : FileTree :=
  ⟨[([["work"]], .directory)], ["work"], 0o022, [], true⟩

/-- Two files below a directory that both tasks may make. Only the first one can be formatted. -/
def twoFiles : List FileSpec :=
  [⟨⟨"out/a.ts"⟩, "a"⟩, ⟨⟨"out/late/b.ts"⟩, ""⟩]

theorem twoFiles_in_any_order : (∀ file ∈ twoFiles, file.Plain emptyTree) ∧
    twoFiles.Pairwise (SpelledApart emptyTree) ∧ Undisturbed emptyTree twoFiles ∧
    ∀ schedule : List Nat,
      Orderless lineEnding (fun file => endLine file.content) emptyTree twoFiles schedule ∧
        (runOn lineEnding schedule twoFiles emptyTree).1
          = .error (.format ⟨"out/late/b.ts"⟩ "there is nothing to format") := by
  have hplain : ∀ file ∈ twoFiles, file.Plain emptyTree := by decide +kernel
  have hapart : twoFiles.Pairwise (SpelledApart emptyTree) := by decide +kernel
  refine ⟨hplain, hapart, undisturbed_of_plain hplain hapart, fun schedule => ?_⟩
  have hcomputes : Formatting.Computes lineEnding fun file => endLine file.content := fun _ => rfl
  have hverdicts : twoFiles.map (WriteTask.verdict lineEnding emptyTree) = [.written,
      .failed (.format ⟨"out/late/b.ts"⟩ "there is nothing to format")] := by
    decide +kernel
  obtain ⟨hfirst, hsecond⟩ := List.cons.inj hverdicts
  have hsecond := (List.cons.inj hsecond).1
  have hall := (consistent_in_any_order hcomputes).2 hplain hapart schedule
  refine ⟨hall, ?_⟩
  cases hanswer : (runOn lineEnding schedule twoFiles emptyTree).1 with
  | ok paths =>
    have hwritten := ((hall.succeeds_iff paths).mp hanswer).2 _
      (List.mem_cons_of_mem _ List.mem_cons_self)
    rw [hsecond] at hwritten
    cases hwritten
  | error error =>
    obtain ⟨file, hfile, hfailed⟩ := hall.failed error hanswer
    rcases List.mem_cons.mp hfile with rfl | hfile
    · rw [hfirst] at hfailed
      cases hfailed
    · rw [List.mem_singleton.mp hfile, hsecond] at hfailed
      rw [Progress.failed.inj hfailed]

/-- A link behind which one of the tasks makes a directory, and a file with two names. -/
def linkedTree : FileTree :=
  ⟨[([["work"]], .directory), ([["work", "out"]], .directory),
    ([["work", "out", "b.ts"]], .link "late/b.ts"),
    ([["work", "c.ts"], ["work", "d.ts"]], .file "old".toUTF8 0o644), ([["dev"]], .directory),
    ([["dev", "null"]], .device .null)], ["work"], 0o022, [], true⟩

def linkedFiles : List FileSpec :=
  [⟨⟨"out/late/a.ts"⟩, "a"⟩, ⟨⟨"out/b.ts"⟩, "b"⟩]

def twiceNamed : List FileSpec :=
  [⟨⟨"c.ts"⟩, "c"⟩, ⟨⟨"d.ts"⟩, "d"⟩]

/-- Behind a link that stands for nothing the order shows, a file with two names holds what has been
written to it last, and a device keeps nothing. -/
theorem order_shows_behind_links :
    ((linkedFiles ++ twiceNamed).Pairwise fun file other =>
      ¬file.path.components <+: other.path.components ∧
        ¬other.path.components <+: file.path.components) ∧
    (followOn none [0, 0, 0, 1, 1, 1] (linkedFiles.map WriteTask.start) linkedTree).1.map progress
      = [.written, .written] ∧
    (followOn none [1, 1, 1, 0, 0, 0] (linkedFiles.map WriteTask.start) linkedTree).1.map progress
      = [.written, .failed (.write ⟨"out/b.ts"⟩)] ∧
    (runOn none [0, 0, 0, 1, 1, 1] twiceNamed linkedTree).2.readText? ⟨"c.ts"⟩ = some "d" ∧
    (runOn none [1, 1, 1, 0, 0, 0] twiceNamed linkedTree).2.readText? ⟨"d.ts"⟩ = some "c" ∧
    (alone none linkedTree ⟨⟨"/dev/null"⟩, "e"⟩ stepCount).1.progress = .written ∧
    (alone none linkedTree ⟨⟨"/dev/null"⟩, "e"⟩ stepCount).2.readText? ⟨"/dev/null"⟩ = some "" := by
  decide +kernel

end Runs

end Writing

end DtoGen

import DtoGen.Proofs.Preview
import DtoGen.Proofs.RepeatedWrites

namespace DtoGen

namespace Pipeline

open FileTree

variable {σ : Type} {pipeline : Pipeline (StateM σ)} {tree : σ → FileTree}
  {schedule : List Nat} {request : Request} {world now next later : σ}

/-- The synthesizer and the formatter answer by what they are asked alone. A working directory that
could be told can be told as long as nothing is lost. -/
structure AnswersByInput (pipeline : Pipeline (StateM σ)) (tree : σ → FileTree) : Prop where
  synthesize : ∀ options schema world other,
    (pipeline.synthesizer.synthesize options schema world).1
      = (pipeline.synthesizer.synthesize options schema other).1
  resolveConfig : ∀ path world other,
    (pipeline.formatter.resolveConfig path world).1
      = (pipeline.formatter.resolveConfig path other).1
  format : ∀ source path config world other,
    (pipeline.formatter.format source path config world).1
      = (pipeline.formatter.format source path config other).1
  workingDirectory : ∀ world other start, Grows (tree world) (tree other) →
    (pipeline.workingDirectory world).1 = .ok start →
    (pipeline.workingDirectory other).1 = .ok start

namespace AnswersByInput

variable {options : Options} {formatting : Option (Formatting (StateM σ))} {look : List Call}

theorem plan_eq (h : AnswersByInput pipeline tree) (request : Request) (world other : σ) :
    (pipeline.plan request world).1 = (pipeline.plan request other).1 := by
  have hsame := h.synthesize request.options request.schema world other
  rcases hfiles : pipeline.synthesizer.synthesize request.options request.schema world with
    ⟨answer, now⟩
  rcases hothers : pipeline.synthesizer.synthesize request.options request.schema other with
    ⟨found, later⟩
  rw [hfiles, hothers] at hsame
  obtain rfl : answer = found := hsame
  unfold plan Synthesizer.plan
  rw [bind_of_eq hfiles, bind_of_eq hothers]
  cases answer <;> rfl

theorem searchStart (h : AnswersByInput pipeline tree) (hgrows : Grows (tree now) (tree next))
    {start : Path} (hstart : (pipeline.searchStart options now).1 = .ok start) :
    (pipeline.searchStart options next).1 = .ok start := by
  unfold Pipeline.searchStart at hstart ⊢
  cases hnamed : options.prettierConfig with
  | some path =>
    rw [hnamed] at hstart
    exact hstart
  | none =>
    rw [hnamed] at hstart
    exact h.workingDirectory now next start hgrows hstart

/-- The formatter is found with the configuration that it was found with. -/
theorem resolveFormatting (h : AnswersByInput pipeline tree)
    (hlook : Resolution pipeline options now (.ok formatting) look later)
    (hgrows : Grows (tree now) (tree next)) :
    (pipeline.resolveFormatting options next).1 = .ok formatting := by
  cases hlook with
  | unasked hoff =>
    simp only [Pipeline.resolveFormatting, hoff]
    rfl
  | @found start config reached _ hon hstart hanswer =>
    have hagain := h.searchStart hgrows (congrArg Prod.fst hstart)
    rcases hsearch : pipeline.searchStart options next with ⟨answer, asked⟩
    rw [hsearch] at hagain
    obtain rfl : answer = .ok start := hagain
    have hsame := h.resolveConfig start asked reached
    rcases hresolve : pipeline.formatter.resolveConfig start asked with ⟨found, last⟩
    rw [hresolve, hanswer] at hsame
    obtain rfl : found = .ok config := hsame
    simp only [Pipeline.resolveFormatting, hon, Bool.not_true, Bool.false_eq_true, if_false]
    rw [bind_of_eq hsearch]
    dsimp only
    rw [bind_of_eq hresolve]
    rfl

theorem isSteady (h : AnswersByInput pipeline tree)
    (hlook : Resolution pipeline options now (.ok formatting) look later) :
    Formatting.IsSteady formatting := by
  intro file world other
  cases hlook with
  | unasked hoff => rfl
  | found hon hstart hanswer => exact h.format _ _ _ world other

end AnswersByInput

theorem run_of_stages {plan : Plan} {formatting : Option (Formatting (StateM σ))} {last : σ}
    {answer : Except GenerationError (List Path)}
    (hplan : pipeline.plan request world = (.ok plan, now))
    (hresolve : pipeline.resolveFormatting request.options now = (.ok formatting, later))
    (hrun : Writing.run pipeline.disk formatting schedule plan.files later = (answer, last)) :
    pipeline.run schedule request world = (answer.map (report plan formatting), last) := by
  unfold run
  rw [bind_of_eq hplan]
  dsimp only
  rw [bind_of_eq hresolve]
  unfold write
  dsimp only
  rw [bind_of_eq hrun]
  cases answer <;> rfl

/-- In a tree that nothing has been lost from, a run comes to the plan and the formatter that it
came to before. -/
theorem stages_again (htree : HoldsTree pipeline tree) (hanswers : AnswersByInput pipeline tree)
    {plan : Plan} {formatting : Option (Formatting (StateM σ))} {look : List Call}
    (hplan : pipeline.plan request world = (.ok plan, now))
    (hlook : Resolution pipeline request.options now (.ok formatting) look later) {after : σ}
    (hgrows : Grows (tree world) (tree after)) :
    ∃ next reached, pipeline.plan request after = (.ok plan, next) ∧
      pipeline.resolveFormatting request.options next = (.ok formatting, reached) ∧
      tree reached = tree after := by
  have hnow := plan_spared htree.spares.synthesize request world
  have hnext := plan_spared htree.spares.synthesize request after
  have hsame := hanswers.plan_eq request after world
  rcases hreplan : pipeline.plan request after with ⟨planned, next⟩
  rw [hplan] at hnow hsame
  rw [hreplan] at hnext hsame
  obtain rfl : planned = .ok plan := hsame
  have hfound := hanswers.resolveFormatting hlook (hnow.symm ▸ hnext.symm ▸ hgrows)
  obtain ⟨_, hrelook, _⟩ := resolution pipeline request.options [] next
  rcases hresolve : pipeline.resolveFormatting request.options next with ⟨answer, reached⟩
  rw [hresolve] at hfound hrelook
  obtain rfl : answer = .ok formatting := hfound
  exact ⟨next, reached, rfl, hresolve, htree.tree_eq hreplan hrelook⟩

/-- What a second run does behind a run that went well, in whatever order the tasks of both take
their steps. It comes to the same report if every file that has been made may be written over, and
otherwise stops at a file. Nothing changes but files that several paths of the plan lead to. -/
structure Regenerates (plan : Plan) (report : GenerationReport) (before after last : FileTree)
    (answer : Except GenerationError GenerationReport) : Prop where
  succeeds_iff : answer = .ok report ↔ Writing.Rewritable plan.files before after
  failed : ∀ error, answer = .error error → ∃ file ∈ plan.files, error = .write file.path
  redone : Writing.Redone plan.files before after last

theorem run_regenerates (htree : HoldsTree pipeline tree) (hanswers : AnswersByInput pipeline tree)
    {report : GenerationReport} (h : (pipeline.run schedule request world).1 = .ok report)
    (again : List Nat) :
    ∃ plan, (pipeline.plan request world).1 = .ok plan ∧
      Regenerates plan report (tree world) (tree (pipeline.run schedule request world).2)
        (tree (pipeline.run again request (pipeline.run schedule request world).2).2)
        (pipeline.run again request (pipeline.run schedule request world).2).1 := by
  obtain ⟨plan, now, formatting, look, later, written, hplan, hlook, hrun, rfl⟩ := run_ok h
  generalize (pipeline.run schedule request world).2 = after at *
  have hok : (Writing.run pipeline.disk formatting schedule plan.files later).1 = .ok written :=
    congrArg Prod.fst hrun
  have hspares := htree.formatting hlook
  have hgrows : Grows (tree world) (tree after) := by
    obtain ⟨_, hkept, _⟩ := Writing.run_kept htree.disk hspares hok
    rw [hrun, htree.tree_eq hplan hlook] at hkept
    exact hkept.grows
  obtain ⟨next, reached, hreplan, hresolve, hreached⟩ :=
    stages_again htree hanswers hplan hlook hgrows
  have hsteady := hanswers.isSteady hlook
  obtain ⟨hagain, hfailed, hredone⟩ := Writing.run_again htree.disk hspares hsteady hok again
    (hreached.trans (congrArg (fun done => tree done.2) hrun).symm)
  rw [hrun, htree.tree_eq hplan hlook] at hagain hredone
  rcases hlast : Writing.run pipeline.disk formatting again plan.files reached with ⟨answer, last⟩
  rw [hlast] at hagain hfailed hredone
  rw [run_of_stages hreplan hresolve hlast, hplan]
  refine ⟨plan, rfl, ?_, fun error herror => ?_, hredone⟩
  · rw [← hagain]
    cases answer with
    | error error => simp [Except.map]
    | ok paths =>
      obtain ⟨_, _, hpaths, _⟩ := Writing.run_ok (congrArg Prod.fst hlast)
      obtain ⟨_, _, hwritten, _⟩ := Writing.run_ok hok
      obtain rfl : paths = written := hpaths.trans hwritten.symm
      exact ⟨fun _ => rfl, fun _ => rfl⟩
  · cases answer with
    | error other =>
      obtain rfl := Except.error.inj herror
      exact hfailed other rfl
    | ok paths => cases herror

theorem capitals_answersByInput : AnswersByInput capitals id :=
  ⟨fun _ _ _ _ => rfl, fun _ _ _ => rfl, fun _ _ _ _ _ => rfl, fun _ _ _ _ hstart => hstart⟩

/-- The files of `capitals`, before their letters are capitals. -/
def smallFiles : List FileSpec :=
  [⟨⟨"out/a.ts"⟩, "a"⟩, ⟨⟨"out/b.ts"⟩, "b"⟩]

theorem capitals_regenerated :
    let first := capitals.run [1, 0] capitalsRequest workTree
    let second := capitals.run [0, 1, 1] capitalsRequest first.2
    HoldsTree capitals id ∧ AnswersByInput capitals id ∧
    ∃ report, first.1 = .ok report ∧ second.1 = .ok report ∧
      Regenerates ⟨smallFiles, []⟩ report workTree first.2 second.2 second.1 ∧
      second.2 = first.2 := by
  intro first second
  have hplan : (capitals.plan capitalsRequest workTree).1 = .ok ⟨smallFiles, []⟩ := by
    decide +kernel
  have hapart : (smallFiles.map fun file => first.2.fileOf? file.path).Nodup := by
    decide +kernel
  have hok : first.1.toBool = true := by
    decide +kernel
  have hopen : workTree.reopens = true := by
    decide
  refine ⟨capitals_holdsTree, capitals_answersByInput, ?_⟩
  cases hfirst : first.1 with
  | error error =>
    rw [hfirst] at hok
    cases hok
  | ok report =>
    obtain ⟨plan, hsame, hagain⟩ :=
      run_regenerates capitals_holdsTree capitals_answersByInput hfirst [0, 1, 1]
    obtain rfl : ⟨smallFiles, []⟩ = plan := Except.ok.inj (hplan.symm.trans hsame)
    exact ⟨report, rfl, hagain.succeeds_iff.mpr (.inl hopen), hagain,
      hagain.redone.unchanged hapart⟩

/-- A link that stands for the file beside it. -/
def crossingTree : FileTree :=
  ⟨[([["work"]], .directory), ([["work", "out"]], .directory),
    ([["work", "out", "b.ts"]], .link "a.ts")], ["work"], 0o022, [], true⟩

/-- A file with two names. -/
def twinTree : FileTree :=
  ⟨[([["work"]], .directory), ([["work", "out"]], .directory),
    ([["work", "out", "a.ts"], ["work", "out", "b.ts"]], .file .empty 0o644)],
    ["work"], 0o022, [], true⟩

/-- A user who may not write over the files that are made. -/
def lockingTree : FileTree :=
  ⟨[([["work"]], .directory), ([["work", "out"]], .directory)], ["work"], 0o222,
    [(["work", "out"], true)], false⟩

/-- Where two paths lead to one file, by a link or by two names that it has, the order of the tasks
shows there, and may be another one the second time. What nobody may write over is not written
twice. -/
theorem capitals_not_regenerated :
    let first tree := capitals.run [1, 1, 1] capitalsRequest tree
    let second tree := capitals.run [0, 0, 0] capitalsRequest (first tree).2
    (HoldsTree capitals id ∧ AnswersByInput capitals id) ∧
    (smallFiles.Pairwise fun file other => ¬file.path.components <+: other.path.components ∧
      ¬other.path.components <+: file.path.components) ∧
    (∀ tree ∈ [crossingTree, twinTree],
      (capitals.plan capitalsRequest tree).1 = .ok ⟨smallFiles, []⟩ ∧
      (first tree).1.toBool = true ∧ (first tree).2.readText? ⟨"out/a.ts"⟩ = some "A" ∧
      (second tree).1.toBool = true ∧ (second tree).2.readText? ⟨"out/a.ts"⟩ = some "B") ∧
    (capitals.plan capitalsRequest lockingTree).1 = .ok ⟨smallFiles, []⟩ ∧
    (first lockingTree).1.toBool = true ∧ (second lockingTree).1.toBool = false := by
  refine ⟨⟨capitals_holdsTree, capitals_answersByInput⟩, ?_⟩
  decide +kernel

end Pipeline

end DtoGen

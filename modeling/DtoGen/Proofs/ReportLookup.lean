import DtoGen.Proofs.Preview

namespace DtoGen

namespace GenerationReport

section

variable {paths : Array Path} {path : Path} {low high : Nat}

/-- What a search between two indices of an ascending list has ruled out: everything in front of
them is below the path, and everything behind is above it. -/
structure Narrowed (paths : Array Path) (path : Path) (low high : Nat) : Prop where
  ascending : paths.toList.Pairwise fun p q => (p.compareTo q).isLE = true
  inside : high ≤ paths.size
  below : ∀ index < low, (paths.getD index default).compareTo path = .lt
  above : ∀ index < paths.size, high ≤ index → (paths.getD index default).compareTo path = .gt

/-- A search of the whole list has ruled out nothing. -/
theorem narrowed_whole (hsorted : paths.toList.Pairwise fun p q => (p.compareTo q).isLE = true)
    (path : Path) : Narrowed paths path 0 paths.size :=
  ⟨hsorted, Nat.le_refl _, fun _ h => absurd h (Nat.not_lt_zero _),
    fun _ h hbehind => absurd h (Nat.not_lt.mpr hbehind)⟩

namespace Narrowed

theorem isLE_of_le (h : Narrowed paths path low high) {index other : Nat} (hle : index ≤ other)
    (hother : other < paths.size) :
    ((paths.getD index default).compareTo (paths.getD other default)).isLE = true := by
  rcases Nat.lt_or_eq_of_le hle with hlt | rfl
  · have hindex := Nat.lt_trans hlt hother
    have hpair := List.pairwise_iff_getElem.mp h.ascending index other hindex hother hlt
    simpa [hindex, hother] using hpair
  · exact Std.ReflCmp.isLE_rfl

/-- The search goes on behind a path that is too small. -/
theorem behind (h : Narrowed paths path low high) {middle : Nat} (hmiddle : middle < high)
    (hlt : (paths.getD middle default).compareTo path = .lt) :
    Narrowed paths path (middle + 1) high := by
  refine ⟨h.ascending, h.inside, fun index hindex => ?_, h.above⟩
  have hle := h.isLE_of_le (Nat.le_of_lt_succ hindex) (Nat.lt_of_lt_of_le hmiddle h.inside)
  exact Std.TransCmp.lt_of_isLE_of_lt hle hlt

/-- The search goes on in front of a path that is too great. -/
theorem inFront (h : Narrowed paths path low high) {middle : Nat} (hmiddle : middle < high)
    (hgt : (paths.getD middle default).compareTo path = .gt) : Narrowed paths path low middle := by
  have hinside := Nat.le_trans (Nat.le_of_lt hmiddle) h.inside
  refine ⟨h.ascending, hinside, h.below, fun index hindex hbehind => ?_⟩
  have hge := Std.OrientedCmp.isGE_iff_isLE.mpr (h.isLE_of_le hbehind hindex)
  exact Std.TransCmp.gt_of_isGE_of_gt hge hgt

/-- Once nothing is left between the indices, every path of the list is ruled out. -/
theorem ne_eq (h : Narrowed paths path low high) (hempty : ¬low < high) {found : Path}
    (hfound : found ∈ paths) : found.compareTo path ≠ .eq := by
  obtain ⟨index, hindex, hget⟩ := Array.mem_iff_getElem.mp hfound
  obtain rfl : paths.getD index default = found := by simp [hindex, hget]
  rcases Nat.lt_or_ge index low with hbefore | hbehind
  · rw [h.below index hbefore]
    exact Ordering.noConfusion
  · rw [h.above index hindex (Nat.le_trans (Nat.not_lt.mp hempty) hbehind)]
    exact Ordering.noConfusion

end Narrowed

/-- A search finds the path exactly if the list has it, wherever the search has come to. -/
theorem search_iff (h : Narrowed paths path low high) :
    search paths path low high = true ↔ ∃ found ∈ paths, found.compareTo path = .eq := by
  -- Along the search's own steps: whichever half it leaves is ruled out rightly.
  fun_induction search paths path low high with
  | case1 low high hlt middle heq =>
    have hmiddle : middle < high := by omega
    have hinside := Nat.lt_of_lt_of_le hmiddle h.inside
    exact iff_of_true rfl ⟨paths.getD middle default, by simp [hinside], heq⟩
  | case2 low high hlt middle hless ih =>
    have hmiddle : middle < high := by omega
    exact ih (h.behind hmiddle hless)
  | case3 low high hlt middle hgreater ih =>
    have hmiddle : middle < high := by omega
    exact ih (h.inFront hmiddle hgreater)
  | case4 low high hempty =>
    refine iff_of_false Bool.false_ne_true ?_
    rintro ⟨found, hfound, heq⟩
    exact h.ne_eq hempty hfound heq

end

/-- An ascending report knows a path exactly if it lists a spelling of it. -/
theorem contains_iff {report : GenerationReport}
    (hsorted : report.written.Pairwise fun p q => (p.compareTo q).isLE = true) (path : Path) :
    report.contains path = true ↔ ∃ found ∈ report.written, found.components = path.components := by
  have hwhole : Narrowed report.written.toArray path 0 report.written.length :=
    narrowed_whole hsorted path
  unfold contains
  rw [search_iff hwhole]
  simp only [List.mem_toArray, Path.compareTo_eq_iff]

end GenerationReport

namespace Pipeline

variable {σ : Type}

theorem Reports.contains_iff {files : List FileSpec} {report : GenerationReport}
    (h : Reports files report) (path : Path) :
    report.contains path = true ↔ ∃ file ∈ files, file.path.components = path.components := by
  rw [GenerationReport.contains_iff h.inOrder]
  simp only [h.paths.mem_iff, List.mem_map, exists_exists_and_eq_and]

/-- The report of a run that goes well, in whatever order its tasks have taken their steps, knows a
path exactly if a planned file has a path with the same components. -/
theorem run_contains_iff (pipeline : Pipeline (StateM σ)) (schedule : List Nat)
    (request : Request) (world : σ) {report : GenerationReport}
    (h : (pipeline.run schedule request world).1 = .ok report) :
    ∃ plan, (pipeline.plan request world).1 = .ok plan ∧ ∀ path,
      report.contains path = true ↔
        ∃ file ∈ plan.files, file.path.components = path.components := by
  obtain ⟨plan, now, formatting, look, later, written, hplan, _, hrun, rfl⟩ := run_ok h
  obtain ⟨_, _, hpaths, _⟩ := Writing.run_ok (congrArg Prod.fst hrun)
  exact ⟨plan, congrArg Prod.fst hplan, (reports_of_run formatting hpaths).contains_iff⟩

/-- Writes files whose order is not that of their letters: a hyphen and a dot come before a slash. -/
def hyphens : Pipeline (StateM FileTree) :=
  { capitals with
    synthesizer := .fixed [⟨⟨"a-b.ts"⟩, "c"⟩, ⟨⟨"a.ts"⟩, "a"⟩, ⟨⟨"a/b.ts"⟩, "b"⟩] }

/-- Asks for barrels too. -/
def barrelRequest : Request :=
  { capitalsRequest with options := { capitalsRequest.options with reExport := true } }

theorem hyphens_contained :
    let plan : Plan :=
      ⟨[⟨⟨"out/a-b.ts"⟩, "c"⟩, ⟨⟨"out/a.ts"⟩, "a"⟩, ⟨⟨"out/a/b.ts"⟩, "b"⟩],
        [⟨⟨"out/index.ts"⟩, "export * from './a-b';\nexport * from './a';"⟩,
          ⟨⟨"out/a/index.ts"⟩, "export * from './b';"⟩]⟩
    (hyphens.plan barrelRequest workTree).1 = .ok plan ∧
      ∃ report, (hyphens.run [2, 0, 4, 2] barrelRequest workTree).1 = .ok report ∧
        (∀ path, report.contains path = true ↔
          ∃ file ∈ plan.files, file.path.components = path.components) ∧
        report.contains ⟨"out/./a//index.ts"⟩ = true ∧ report.contains ⟨"out/a"⟩ = false := by
  intro plan
  have hplan : (hyphens.plan barrelRequest workTree).1 = .ok plan := by
    decide +kernel
  have hok : (hyphens.run [2, 0, 4, 2] barrelRequest workTree).1.toBool = true := by
    decide +kernel
  refine ⟨hplan, ?_⟩
  cases hrun : (hyphens.run [2, 0, 4, 2] barrelRequest workTree).1 with
  | error error =>
    rw [hrun] at hok
    cases hok
  | ok report =>
    obtain ⟨planned, hplanned, hcontains⟩ :=
      run_contains_iff hyphens [2, 0, 4, 2] barrelRequest workTree hrun
    obtain rfl := Except.ok.inj (hplan.symm.trans hplanned)
    have hknown : ∃ file ∈ plan.files,
        file.path.components = (⟨"out/./a//index.ts"⟩ : Path).components := by
      decide +kernel
    have hunknown : ¬∃ file ∈ plan.files,
        file.path.components = (⟨"out/a"⟩ : Path).components := by
      decide +kernel
    exact ⟨report, rfl, hcontains, (hcontains _).mpr hknown,
      Bool.eq_false_iff.mpr fun h => hunknown ((hcontains _).mp h)⟩

end Pipeline

end DtoGen

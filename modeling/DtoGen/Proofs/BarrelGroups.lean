import DtoGen.Barrel
import DtoGen.Proofs.PathJoin

namespace DtoGen

/-- Where at most one element fits, that one is changed, or the fresh one comes behind all. -/
theorem upsert_eq {α : Type} {fits : α → Bool} {change : α → α} {fresh : α} {xs : List α}
    (hone : xs.Pairwise fun x y => ¬(fits x = true ∧ fits y = true)) :
    upsert fits change fresh xs = if xs.any fits then xs.map fun x => if fits x then change x else x
      else xs ++ [fresh] := by
  induction xs with
  | nil => rfl
  | cons x xs ih =>
    obtain ⟨hx, hxs⟩ := List.pairwise_cons.mp hone
    rw [upsert, List.any_cons, List.map_cons]
    cases hfits : fits x with
    | true =>
      have hrest : xs.map (fun y => if fits y then change y else y) = xs := by
        apply (List.map_congr_left fun y hy => ?_).trans (List.map_id xs)
        have hnot : ¬fits y = true := fun h => hx y hy ⟨hfits, h⟩
        simp [hnot]
      simp [hrest]
    | false =>
      rw [ih hxs]
      cases xs.any fits <;> simp

namespace Path

theorem samePlace_iff {p q : Path} : p.samePlace q = true ↔ p.components = q.components :=
  beq_iff_eq

/-- Every place once, in the spelling that comes first. -/
def firstSpellings : List Path → List Path
  | [] => []
  | p :: ps => p :: (firstSpellings ps).filter fun q => !p.samePlace q

theorem firstSpellings_concat (ps : List Path) (q : Path) :
    firstSpellings (ps ++ [q]) = if ps.any (·.samePlace q) then firstSpellings ps
      else firstSpellings ps ++ [q] := by
  induction ps with
  | nil => rfl
  | cons p ps ih =>
    rw [List.cons_append, firstSpellings, firstSpellings, ih, List.any_cons]
    cases hp : p.samePlace q with
    | true => cases ps.any (·.samePlace q) <;> simp [hp]
    | false => cases ps.any (·.samePlace q) <;> simp [hp]

theorem firstSpellings_subset (ps : List Path) : firstSpellings ps ⊆ ps := by
  induction ps with
  | nil => exact List.Subset.refl []
  | cons p ps ih =>
    intro q hq
    rcases List.mem_cons.mp hq with rfl | hq
    · exact List.mem_cons_self
    · exact List.mem_cons_of_mem _ (ih (List.mem_filter.mp hq).1)

theorem firstSpellings_apart (ps : List Path) :
    (firstSpellings ps).Pairwise fun p q => p.components ≠ q.components := by
  induction ps with
  | nil => exact .nil
  | cons p ps ih =>
    refine .cons (fun q hq => ?_) (ih.filter _)
    have hnot : ¬p.samePlace q = true := by simpa using (List.mem_filter.mp hq).2
    exact fun h => hnot (samePlace_iff.mpr h)

/-- No place is lost. -/
theorem exists_firstSpelling {ps : List Path} {p : Path} (h : p ∈ ps) :
    ∃ q ∈ firstSpellings ps, q.components = p.components := by
  induction ps with
  | nil => cases h
  | cons first ps ih =>
    by_cases hfirst : first.components = p.components
    · exact ⟨first, List.mem_cons_self, hfirst⟩
    · have hrest : p ∈ ps := by
        rcases List.mem_cons.mp h with rfl | h
        · exact absurd rfl hfirst
        · exact h
      obtain ⟨q, hq, hsame⟩ := ih hrest
      have hother : ¬first.samePlace q = true := fun h =>
        hfirst ((samePlace_iff.mp h).trans hsame)
      exact ⟨q, List.mem_cons_of_mem _ (List.mem_filter.mpr ⟨hq, by simpa using hother⟩), hsame⟩

theorem any_firstSpellings (ps : List Path) (q : Path) :
    (firstSpellings ps).any (·.samePlace q) = ps.any (·.samePlace q) := by
  rw [Bool.eq_iff_iff, List.any_eq_true, List.any_eq_true]
  constructor
  · rintro ⟨p, hp, hsame⟩
    exact ⟨p, firstSpellings_subset ps hp, hsame⟩
  · rintro ⟨p, hp, hsame⟩
    obtain ⟨first, hfirst, hplace⟩ := exists_firstSpelling hp
    exact ⟨first, hfirst, samePlace_iff.mpr (hplace.trans (samePlace_iff.mp hsame))⟩

end Path

namespace Barrels

open DtoGen.Path

/-- The directories of the files. -/
def directories (files : List FileSpec) : List Path :=
  firstSpellings (files.map FileSpec.directory)

/-- What the files of a directory add to its barrel, one line each. -/
def linesOf (files : List FileSpec) (directory : Path) : List String :=
  (files.filter fun file => directory.samePlace file.directory).map fun file =>
    exportLine file.moduleName

/-- The barrel that a directory should have. -/
def barrelOf (extension : String) (files : List FileSpec) (directory : Path) : FileSpec :=
  ⟨directory / ⟨"index." ++ extension⟩, "\n".intercalate (linesOf files directory)⟩

theorem linesOf_concat (files : List FileSpec) (file : FileSpec) (directory : Path) :
    linesOf (files ++ [file]) directory = linesOf files directory ++
      if directory.samePlace file.directory then [exportLine file.moduleName] else [] := by
  unfold linesOf
  rw [List.filter_append, List.map_append]
  cases h : directory.samePlace file.directory <;> simp [h]

theorem linesOf_ne_nil {files : List FileSpec} {directory : Path}
    (h : directory ∈ directories files) : linesOf files directory ≠ [] := by
  obtain ⟨file, hfile, rfl⟩ := List.mem_map.mp (firstSpellings_subset _ h)
  have hown : file ∈ files.filter fun other => file.directory.samePlace other.directory :=
    List.mem_filter.mpr ⟨hfile, samePlace_iff.mpr rfl⟩
  exact List.ne_nil_of_mem (List.mem_map_of_mem hown)

/-- A directory that no file had before has no lines but the new one. -/
theorem linesOf_fresh {files : List FileSpec} {file : FileSpec}
    (h : (files.map FileSpec.directory).any (·.samePlace file.directory) = false) :
    linesOf files file.directory = [] := by
  have hnone : ∀ other ∈ files, ¬file.directory.samePlace other.directory = true := by
    intro other hother hsame
    have hnot := List.any_eq_false.mp h _ (List.mem_map_of_mem hother)
    exact hnot (samePlace_iff.mpr (samePlace_iff.mp hsame).symm)
  unfold linesOf
  rw [List.filter_eq_nil_iff.mpr hnone]
  rfl

theorem barrelOf_concat_own {extension : String} {files : List FileSpec} {file : FileSpec}
    {directory : Path} (hlines : linesOf files directory ≠ [])
    (h : directory.samePlace file.directory = true) :
    barrelOf extension (files ++ [file]) directory
      = ⟨(barrelOf extension files directory).path,
        (barrelOf extension files directory).content ++ "\n" ++ exportLine file.moduleName⟩ := by
  unfold barrelOf
  rw [linesOf_concat, if_pos h, String.intercalate_append_of_ne_nil hlines (by simp),
    String.intercalate_singleton]

theorem barrelOf_concat_other {extension : String} {files : List FileSpec} {file : FileSpec}
    {directory : Path} (h : directory.samePlace file.directory = false) :
    barrelOf extension (files ++ [file]) directory = barrelOf extension files directory := by
  unfold barrelOf
  rw [linesOf_concat, h]
  simp

theorem barrelOf_concat_fresh {extension : String} {files : List FileSpec} {file : FileSpec}
    (h : (files.map FileSpec.directory).any (·.samePlace file.directory) = false) :
    barrelOf extension (files ++ [file]) file.directory
      = ⟨file.directory / ⟨"index." ++ extension⟩, exportLine file.moduleName⟩ := by
  unfold barrelOf
  rw [linesOf_concat, linesOf_fresh h, if_pos (samePlace_iff.mpr rfl), List.nil_append,
    String.intercalate_singleton]

/-- The barrels of the files are in order: one for each directory, with the file's own lines. -/
def Fits (extension : String) (files : List FileSpec) (barrels : Barrels) : Prop :=
  barrels.fileName = "index." ++ extension ∧
    barrels.entries = (directories files).map fun d => (d, barrelOf extension files d)

/-- A file that is added joins the group of its directory, or opens the last one. -/
theorem Fits.add {extension : String} {files : List FileSpec} {barrels : Barrels}
    (h : Fits extension files barrels) (file : FileSpec) :
    Fits extension (files ++ [file]) (barrels.add file) := by
  obtain ⟨hname, hentries⟩ := h
  refine ⟨hname, ?_⟩
  have hone : barrels.entries.Pairwise fun x y =>
      ¬(x.1.samePlace file.directory = true ∧ y.1.samePlace file.directory = true) := by
    rw [hentries, List.pairwise_map]
    refine (firstSpellings_apart _).imp fun hne hboth => hne ?_
    exact (samePlace_iff.mp hboth.1).trans (samePlace_iff.mp hboth.2).symm
  have hknown : barrels.entries.any (·.1.samePlace file.directory)
      = (files.map FileSpec.directory).any (·.samePlace file.directory) := by
    rw [hentries, List.any_map, ← any_firstSpellings]
    rfl
  have hdirectories : directories (files ++ [file])
      = if (files.map FileSpec.directory).any (·.samePlace file.directory) then directories files
        else directories files ++ [file.directory] := by
    rw [directories, List.map_append, List.map_singleton, firstSpellings_concat]
    rfl
  unfold Barrels.add
  simp only
  rw [upsert_eq hone, hknown, hdirectories]
  cases hany : (files.map FileSpec.directory).any (·.samePlace file.directory) with
  | true =>
    simp only [if_true]
    rw [hentries, List.map_map]
    refine List.map_congr_left fun d hd => ?_
    cases hsame : d.samePlace file.directory with
    | true => simp [hsame, barrelOf_concat_own (linesOf_ne_nil hd) hsame]
    | false => simp [hsame, barrelOf_concat_other hsame]
  | false =>
    simp only [Bool.false_eq_true, if_false]
    rw [List.map_append, List.map_singleton, barrelOf_concat_fresh hany, hentries, hname]
    congr 1
    refine List.map_congr_left fun d hd => ?_
    have hother : ¬d.samePlace file.directory = true :=
      List.any_eq_false.mp hany d (firstSpellings_subset _ hd)
    rw [barrelOf_concat_other (Bool.eq_false_iff.mpr hother)]

theorem Fits.foldl {extension : String} {seen : List FileSpec} {barrels : Barrels}
    (h : Fits extension seen barrels) (files : List FileSpec) :
    Fits extension (seen ++ files) (files.foldl Barrels.add barrels) := by
  induction files generalizing seen barrels with
  | nil =>
    rw [List.append_nil]
    exact h
  | cons file files ih =>
    have hnext := ih (h.add file)
    rw [List.append_assoc, List.singleton_append] at hnext
    exact hnext

theorem fits_ofFiles (extension : String) (files : List FileSpec) :
    Fits extension files (ofFiles extension files) := by
  have hnone : Fits extension [] (empty extension) := ⟨rfl, rfl⟩
  exact hnone.foldl files

theorem exportLine_ends (moduleName : String) :
    (exportLine moduleName).toList.head? = some 'e' ∧
      (exportLine moduleName).toList.getLast? = some ';' := by
  unfold exportLine
  have hfront : "export * from './".toList = 'e' :: "xport * from './".toList := rfl
  have hbehind : "';".toList = ['\'', ';'] := rfl
  rw [String.toList_append, String.toList_append, hfront, hbehind]
  exact ⟨rfl, by rw [List.getLast?_append, List.getLast?_cons_cons, List.getLast?_singleton,
    Option.some_or]⟩

/-- Lines that start and end with other letters make a text that does so too. -/
theorem intercalate_ends {lines : List String} (hne : lines ≠ [])
    (h : ∀ line ∈ lines, line.toList.head? = some 'e' ∧ line.toList.getLast? = some ';') :
    ("\n".intercalate lines).toList.head? = some 'e' ∧
      ("\n".intercalate lines).toList.getLast? = some ';' := by
  induction lines with
  | nil => exact absurd rfl hne
  | cons line lines ih =>
    obtain ⟨hhead, hlast⟩ := h line List.mem_cons_self
    by_cases hnil : lines = []
    · subst hnil
      rw [String.intercalate_singleton]
      exact ⟨hhead, hlast⟩
    · obtain ⟨_, hrest⟩ := ih hnil fun other ho => h other (List.mem_cons_of_mem _ ho)
      rw [String.intercalate_cons_of_ne_nil hnil, String.toList_append, String.toList_append]
      constructor
      · rw [List.append_assoc, List.head?_append, hhead, Option.some_or]
      · rw [List.getLast?_append, hrest, Option.some_or]

theorem fileName_lead (extension : String) :
    lead ("index." ++ extension).toList = [] := by
  have hindex : "index.".toList = 'i' :: "ndex.".toList := rfl
  rw [String.toList_append, hindex, List.cons_append]
  exact lead_cons (by decide) (by decide) _

/-- Barrels of different directories have different places. -/
theorem barrelOf_apart {extension : String} {files : List FileSpec} {d e : Path}
    (h : d.components ≠ e.components) : (barrelOf extension files d).path.components
      ≠ (barrelOf extension files e).path.components := by
  intro hsame
  change (d / (⟨"index." ++ extension⟩ : Path)).components
    = (e / (⟨"index." ++ extension⟩ : Path)).components at hsame
  rw [components_join_names d (fileName_lead extension),
    components_join_names e (fileName_lead extension)] at hsame
  exact h (List.append_cancel_right hsame)

/-- The barrels are the groups of the files by directory. -/
structure Grouped (extension : String) (files : List FileSpec) (barrels : Barrels) : Prop where
  /-- One barrel for each directory, in the order and in the spelling in which they come first. -/
  directories : barrels.entries.map Prod.fst = directories files
  path : ∀ entry ∈ barrels.entries, entry.2.path = entry.1 / ⟨"index." ++ extension⟩
  content : ∀ entry ∈ barrels.entries,
    entry.2.content = "\n".intercalate (linesOf files entry.1)
  trimmed : ∀ barrel ∈ barrels.files, barrel.content ≠ "" ∧
    barrel.content.toList.head? ≠ some '\n' ∧ barrel.content.toList.getLast? ≠ some '\n'
  apart : barrels.files.Pairwise fun a b => a.path.components ≠ b.path.components
  covers : ∀ file ∈ files, ∃ entry ∈ barrels.entries,
    entry.1.components = file.directory.components
  found : ∀ directory, barrels.get? directory
    = ((Barrels.directories files).find? (·.samePlace directory)).map (barrelOf extension files)

theorem Fits.get? {extension : String} {files : List FileSpec} {barrels : Barrels}
    (h : Fits extension files barrels) (directory : Path) : barrels.get? directory
      = ((directories files).find? (·.samePlace directory)).map (barrelOf extension files) := by
  unfold Barrels.get?
  rw [h.2, List.find?_map, Option.map_map]
  rfl

theorem Fits.files {extension : String} {files : List FileSpec} {barrels : Barrels}
    (h : Fits extension files barrels) :
    barrels.files = (directories files).map (barrelOf extension files) := by
  unfold Barrels.files
  rw [h.2, List.map_map]
  rfl

theorem Fits.grouped {extension : String} {files : List FileSpec} {barrels : Barrels}
    (h : Fits extension files barrels) : Grouped extension files barrels where
  directories := by
    rw [h.2, List.map_map]
    exact List.map_id _
  path := by
    rw [h.2]
    intro entry hentry
    obtain ⟨d, _, rfl⟩ := List.mem_map.mp hentry
    rfl
  content := by
    rw [h.2]
    intro entry hentry
    obtain ⟨d, _, rfl⟩ := List.mem_map.mp hentry
    rfl
  trimmed := by
    rw [h.files]
    intro barrel hbarrel
    obtain ⟨d, hd, rfl⟩ := List.mem_map.mp hbarrel
    have hlines : ∀ line ∈ linesOf files d,
        line.toList.head? = some 'e' ∧ line.toList.getLast? = some ';' := by
      intro line hline
      obtain ⟨file, _, rfl⟩ := List.mem_map.mp hline
      exact exportLine_ends file.moduleName
    obtain ⟨hhead, hlast⟩ := intercalate_ends (linesOf_ne_nil hd) hlines
    change ("\n".intercalate (linesOf files d)) ≠ "" ∧
      ("\n".intercalate (linesOf files d)).toList.head? ≠ some '\n' ∧
      ("\n".intercalate (linesOf files d)).toList.getLast? ≠ some '\n'
    rw [hhead, hlast]
    refine ⟨fun hempty => ?_, by decide, by decide⟩
    rw [hempty] at hhead
    cases hhead
  apart := by
    rw [h.files, List.pairwise_map]
    exact (firstSpellings_apart _).imp barrelOf_apart
  covers := by
    intro file hfile
    obtain ⟨d, hd, hsame⟩ := exists_firstSpelling (List.mem_map_of_mem hfile)
    rw [h.2]
    exact ⟨_, List.mem_map_of_mem hd, hsame⟩
  found := h.get?

/-- At any moment the barrels are the groups of the files that have been added. -/
theorem grouped_after_every_add (extension : String) (files : List FileSpec) :
    (ofFiles extension files).files = (directories files).map (barrelOf extension files) ∧
      ∀ count, Grouped extension (files.take count)
        ((files.take count).foldl Barrels.add (empty extension)) :=
  ⟨(fits_ofFiles extension files).files, fun count => (fits_ofFiles _ (files.take count)).grouped⟩

/-- Spellings of one directory share its barrel, which is found under each of them. -/
example : (ofFiles "ts" [⟨⟨"a//b/y.ts"⟩, ""⟩, ⟨⟨"c.ts"⟩, ""⟩, ⟨⟨"a/b/./x.d.ts"⟩, ""⟩]).files
    = [ ⟨⟨"a//b/index.ts"⟩, "export * from './y';\nexport * from './x.d';"⟩,
        ⟨⟨"index.ts"⟩, "export * from './c';"⟩ ] := by
  decide +kernel

end Barrels

end DtoGen

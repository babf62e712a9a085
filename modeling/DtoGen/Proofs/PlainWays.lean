import DtoGen.Proofs.PathComponents
import DtoGen.Proofs.LoneTask

namespace DtoGen

namespace FileTree

/-- The place that components spell, as long as every name fits. -/
def spelled : Place → List Component → Option Place
  | place, [] => some place
  | place, component :: rest => (next place component).bind fun reached => spelled reached rest

/-- No step leads up or to a link. -/
def PlainWay (tree : FileTree) : Place → List Component → Prop
  | _, [] => True
  | place, component :: rest => component ≠ .up ∧ ∀ reached, next place component = some reached →
    (∀ target, tree.sight reached ≠ .link target) ∧ tree.PlainWay reached rest

instance (tree : FileTree) : ∀ place components, Decidable (tree.PlainWay place components)
  | _, [] => isTrue trivial
  | place, component :: rest =>
    match h : next place component with
    | none => decidable_of_iff (component ≠ .up) (by simp [PlainWay, h])
    | some reached =>
      have := instDecidablePlainWay tree reached rest
      decidable_of_iff (component ≠ .up ∧ (tree.sight reached).isLink = false ∧
        tree.PlainWay reached rest) (by simp [PlainWay, h, Sight.isLink_eq_false])

variable {tree made : FileTree} {place : Place} {components rest : List Component}

/-- What a tree gains is no link. -/
theorem PlainWay.of_grows {larger : FileTree} (hgrows : Grows tree larger)
    (h : tree.PlainWay place components) : larger.PlainWay place components := by
  induction components generalizing place with
  | nil => trivial
  | cons component rest ih =>
    refine ⟨h.1, fun reached hnext => ⟨fun target hlink => ?_, ih (h.2 reached hnext).2⟩⟩
    have hold := (h.2 reached hnext).1
    rcases hgrows.seen reached with heq | ⟨_, _, hnew⟩
    · exact hold target (heq ▸ hlink)
    · exact hnew target hlink

theorem PlainWay.of_made (hmade : MakesDirectories tree made) (h : tree.PlainWay place components) :
    made.PlainWay place components :=
  h.of_grows hmade.grows

theorem PlainWay.left (h : tree.PlainWay place (components ++ rest)) :
    tree.PlainWay place components := by
  induction components generalizing place with
  | nil => trivial
  | cons component components ih =>
    exact ⟨h.1, fun reached hnext => ⟨(h.2 reached hnext).1, ih (h.2 reached hnext).2⟩⟩

theorem PlainWay.no_up (h : tree.PlainWay place components) {p : Place}
    (hp : spelled place components = some p) : ∀ component ∈ components, component ≠ .up := by
  induction components generalizing place with
  | nil => simp
  | cons component rest ih =>
    obtain ⟨reached, hnext, hrest⟩ := Option.bind_eq_some_iff.mp hp
    intro other hother
    rcases List.mem_cons.mp hother with rfl | hother
    · exact h.1
    · exact ih (h.2 reached hnext).2 hrest other hother

theorem spelled_append (place : Place) (first second : List Component) :
    spelled place (first ++ second) = (spelled place first).bind fun d => spelled d second := by
  induction first generalizing place with
  | nil => rfl
  | cons component first ih =>
    rw [List.cons_append, spelled, spelled]
    cases next place component with
    | none => rfl
    | some reached => exact ih reached

/-- Where no link is, a directory stands for itself. -/
theorem directoryAt?_plain (h : ∀ target, tree.sight place ≠ .link target) {d : Place}
    (hd : tree.directoryAt? place = some d) : d = place ∧ tree.sight place = .directory := by
  rw [directoryAt?_eq] at hd
  cases hs : tree.sight place with
  | directory =>
    rw [hs] at hd
    exact ⟨(Option.some.inj hd).symm, rfl⟩
  | link target => exact absurd hs (h target)
  | nothing => simp [hs] at hd
  | plain isOpen => simp [hs] at hd

theorem PlainWay.clearWay (h : tree.PlainWay place components) :
    tree.clearWay place components = true := by
  induction components generalizing tree place with
  | nil => rfl
  | cons component rest ih =>
    unfold FileTree.clearWay
    cases hnext : next place component with
    | none => rfl
    | some reached =>
      obtain ⟨hlink, hrest⟩ := h.2 reached hnext
      dsimp only
      cases hd : tree.directoryAt? reached with
      | some d =>
        obtain ⟨rfl, _⟩ := directoryAt?_plain hlink hd
        exact ih hrest
      | none =>
        dsimp only
        split
        · unfold dangles
          cases hs : tree.sight reached with
          | link target => exact absurd hs (hlink target)
          | _ => rfl
        · rename_i hfree
          exact ih (hrest.of_made (set_of_free hfree).2)

/-- Where names and links are plain, a walk ends where the path is spelled to. -/
theorem PlainWay.lead_eq (h : tree.PlainWay place components) {bound : Nat} {p : Place}
    (hlead : tree.lead bound place components = .place p) :
    spelled place components = some p := by
  induction bound generalizing place components with
  | zero =>
    cases components with
    | nil => exact congrArg some (Lead.place.inj hlead)
    | cons => cases hlead
  | succ bound ih =>
    cases components with
    | nil => exact congrArg some (Lead.place.inj hlead)
    | cons component rest =>
      unfold lead at hlead
      rw [spelled]
      cases hnext : next place component with
      | none => simp [hnext] at hlead
      | some reached =>
        obtain ⟨hlink, hrest⟩ := h.2 reached hnext
        simp only [hnext] at hlead
        cases hs : tree.sight reached with
        | directory =>
          simp only [hs] at hlead
          exact ih hrest hlead
        | link target => exact absurd hs (hlink target)
        | plain isOpen =>
          simp only [hs] at hlead
          cases rest with
          | nil => exact congrArg some (Lead.place.inj hlead)
          | cons => cases hlead
        | nothing =>
          simp only [hs] at hlead
          cases rest with
          | nil => exact congrArg some (Lead.place.inj hlead)
          | cons => cases hlead

/-- The directories that are made lie on the way. -/
theorem makeDirectories_on_way (h : tree.PlainWay place components) {q : Place}
    (hnone : tree.entry? q = none)
    (hmade : FileTree.entry? (tree.makeDirectories place components).2 q = some .directory) :
    ∃ before after, components = before ++ after ∧ before ≠ [] ∧ spelled place before = some q := by
  induction components generalizing tree place with
  | nil =>
    rw [makeDirectories, hnone] at hmade
    cases hmade
  | cons component rest ih =>
    rw [makeDirectories_cons] at hmade
    cases hnext : next place component with
    | none =>
      simp only [hnext, hnone] at hmade
      cases hmade
    | some reached =>
      obtain ⟨hlink, hrest⟩ := h.2 reached hnext
      have hlonger : (∃ before after, rest = before ++ after ∧ before ≠ [] ∧
            spelled reached before = some q) →
          ∃ before after, component :: rest = before ++ after ∧ before ≠ [] ∧
            spelled place before = some q := by
        rintro ⟨before, after, rfl, _, hspelled⟩
        refine ⟨component :: before, after, rfl, by simp, ?_⟩
        rw [spelled, hnext]
        exact hspelled
      simp only [hnext] at hmade
      cases hd : tree.directoryAt? reached with
      | some d =>
        obtain ⟨rfl, _⟩ := directoryAt?_plain hlink hd
        simp only [hd] at hmade
        exact hlonger (ih hrest hnone hmade)
      | none =>
        simp only [hd] at hmade
        split at hmade
        · rw [hnone] at hmade
          cases hmade
        · rename_i hfree
          obtain ⟨habsent, hset⟩ := set_of_free hfree
          by_cases hq : q = reached
          · refine ⟨[component], rest, rfl, by simp, ?_⟩
            rw [spelled, hnext, hq]
            rfl
          · have hother := mt (sameFile_of_absent habsent).mp hq
            have hnone := ((Puts.of_absent habsent).elsewhere q hother).trans hnone
            exact hlonger (ih (hrest.of_made hset) hnone hmade)

/-- A walk goes through a directory. -/
theorem lead_through {tree : FileTree} {component : Component} {reached : Place}
    (hnext : next place component = some reached) (hs : tree.sight reached = .directory)
    (bound : Nat) : tree.lead bound place (component :: rest) = .blocked ∨
      ∃ less, tree.lead bound place (component :: rest) = tree.lead less reached rest := by
  cases bound with
  | zero => exact .inl rfl
  | succ less =>
    refine .inr ⟨less, ?_⟩
    rw [lead]
    simp only [hnext, hs]

/-- Behind the directories that have been made, a walk does not run into a gap. -/
theorem PlainWay.lead_ne_missing {last : Component}
    (h : tree.PlainWay place (components ++ [last]))
    (hall : (tree.makeDirectories place components).1 = true) (bound : Nat) :
    (tree.makeDirectories place components).2.lead bound place (components ++ [last])
      ≠ .missing := by
  induction components generalizing tree place bound with
  | nil =>
    rw [makeDirectories, List.nil_append]
    cases bound with
    | zero => simp [lead]
    | succ bound =>
      rw [lead]
      cases hnext : next place last with
      | none => simp
      | some reached =>
        have hlink := (h.2 reached hnext).1
        dsimp only
        cases hs : tree.sight reached with
        | link target => exact absurd hs (hlink target)
        | directory => cases bound <;> simp [lead]
        | plain isOpen => simp
        | nothing => simp
  | cons component rest ih =>
    rw [makeDirectories_cons] at hall ⊢
    rw [List.cons_append]
    cases hnext : next place component with
    | none => simp [hnext] at hall
    | some reached =>
      obtain ⟨hlink, hrest⟩ := h.2 reached hnext
      simp only [hnext] at hall ⊢
      have hgoes : ∀ source : FileTree, source.PlainWay reached (rest ++ [last]) →
          source.entry? reached = some .directory →
          (source.makeDirectories reached rest).1 = true →
          (source.makeDirectories reached rest).2.lead bound place (component :: (rest ++ [last]))
            ≠ .missing := by
        intro source hplain hdirectory hall
        have hmade := makeDirectories_makes source reached rest
        have hs := sight_eq_directory.mpr (hmade.entry_of_some hdirectory)
        rcases lead_through hnext hs bound with hblocked | ⟨less, hless⟩
        · rw [hblocked]
          simp
        · rw [hless]
          exact ih hplain hall less
      cases hd : tree.directoryAt? reached with
      | some d =>
        obtain ⟨rfl, hs⟩ := directoryAt?_plain hlink hd
        simp only [hd] at hall ⊢
        exact hgoes tree hrest (sight_eq_directory.mp hs) hall
      | none =>
        simp only [hd] at hall ⊢
        split at hall
        · cases hall
        · rename_i hfree
          rw [if_neg hfree]
          obtain ⟨hnone, hset⟩ := set_of_free hfree
          exact hgoes _ (hrest.of_made hset) (Puts.of_absent hnone).here hall

end FileTree

namespace FileSpec

open FileTree

/-- Where a path says that its file is. -/
def place? (tree : FileTree) (file : FileSpec) : Option Place :=
  spelled (tree.start file.path) file.path.components

/-- The file is reached from an existing directory by names that fit, and without links. -/
structure Plain (tree : FileTree) (file : FileSpec) : Prop where
  start : tree.sight (tree.start file.path) = .directory
  way : tree.PlainWay (tree.start file.path) file.path.components
  fits : (file.place? tree).isSome = true

instance (tree : FileTree) (file : FileSpec) : Decidable (file.Plain tree) :=
  decidable_of_iff (tree.sight (tree.start file.path) = .directory ∧
      tree.PlainWay (tree.start file.path) file.path.components ∧
      (file.place? tree).isSome = true)
    ⟨fun ⟨hstart, hway, hfits⟩ => ⟨hstart, hway, hfits⟩, fun h => ⟨h.start, h.way, h.fits⟩⟩

variable {tree : FileTree} {file : FileSpec}

/-- The directories of a file are made from where its path starts, along all but its last
component. -/
theorem directoryToMake?_eq_some (tree : FileTree) {directory : Path}
    (h : file.directoryToMake? = some directory) :
    directory.text ≠ "" ∧ directory.components = file.path.components.dropLast ∧
      tree.start directory = tree.start file.path := by
  unfold directoryToMake? at h
  obtain ⟨hparent, hne⟩ := Option.filter_eq_some_iff.mp h
  have hne : directory.text ≠ "" := by simpa using hne
  refine ⟨hne, ?_, ?_⟩
  · rw [← Path.components_parentOrEmpty, Path.parentOrEmpty, hparent, Option.getD_some]
  · have hsame : directory.isAbsolute = file.path.isAbsolute := by
      rw [Bool.eq_iff_iff, Path.isAbsolute_iff, Path.isAbsolute_iff, Path.lead_parent hparent hne]
    rw [FileTree.start, FileTree.start, hsame]

theorem directoryToMake?_eq_none (h : file.directoryToMake? = none) :
    file.path.components.dropLast = [] := by
  rw [← Path.components_parentOrEmpty]
  unfold directoryToMake? at h
  unfold Path.parentOrEmpty
  cases hp : file.path.parent? with
  | none => rfl
  | some directory =>
    rw [hp, Option.filter_some] at h
    obtain ⟨text⟩ := directory
    by_cases hempty : text = ""
    · subst hempty
      rfl
    · simp [hempty] at h

theorem prepared_tree (tree : FileTree) (file : FileSpec) :
    (file.prepared tree).2 = tree ∨ (file.prepared tree).2
      = (tree.makeDirectories (tree.start file.path) file.path.components.dropLast).2 := by
  cases hd : file.directoryToMake? with
  | none => exact .inl (congrArg Prod.snd (prepared_of_none hd tree))
  | some directory =>
    obtain ⟨hne, hcomponents, hstart⟩ := directoryToMake?_eq_some tree hd
    rw [prepared_of_some hd]
    unfold createDirectories
    rw [if_neg hne, hcomponents, hstart]
    split
    · exact .inr rfl
    · exact .inl rfl

/-- The directories that the first step makes are those above the last component. -/
theorem prepared_eq (tree : FileTree) (file : FileSpec) (h : (file.prepared tree).1 = .prepared) :
    tree.makeDirectories (tree.start file.path) file.path.components.dropLast
      = (true, (file.prepared tree).2) := by
  cases hd : file.directoryToMake? with
  | none =>
    rw [directoryToMake?_eq_none hd, prepared_of_none hd]
    rfl
  | some directory =>
    obtain ⟨hne, hcomponents, hstart⟩ := directoryToMake?_eq_some tree hd
    rw [prepared_of_some hd] at h ⊢
    unfold createDirectories at h ⊢
    rw [if_neg hne] at h ⊢
    cases husable : isUsable directory with
    | false => simp [husable] at h
    | true =>
      simp only [husable, if_true, hcomponents, hstart] at h ⊢
      split at h
      · rename_i hall
        exact Prod.ext hall rfl
      · cases h

theorem Plain.clear (h : file.Plain tree) : file.Clear tree := by
  have hway := h.way
  refine ⟨fun directory hd => ?_, fun hok => ?_⟩
  · obtain ⟨_, hcomponents, hstart⟩ := directoryToMake?_eq_some tree hd
    rw [hcomponents, hstart]
    by_cases hnil : file.path.components = []
    · rw [hnil]
      rfl
    · rw [← List.dropLast_concat_getLast hnil] at hway
      exact hway.left.clearWay
  · have hmakes := prepared_makes tree file
    have hmade := prepared_eq tree file hok
    unfold reach
    rw [hmakes.grows.start_eq, hmakes.grows.sight_eq (by simp [h.start]), h.start]
    split
    · dsimp only
      by_cases hnil : file.path.components = []
      · rw [hnil]
        cases longestWalk <;> simp [lead]
      · rw [← List.dropLast_concat_getLast hnil] at hway
        have hgap := hway.lead_ne_missing (congrArg Prod.fst hmade) longestWalk
        rwa [congrArg Prod.snd hmade, List.dropLast_concat_getLast hnil] at hgap
    · simp

/-- The path of a plain file goes on to lead where it says. -/
theorem Plain.place?_eq {larger : FileTree} (h : file.Plain tree) (hgrows : Grows tree larger)
    {place : Place} (hreach : larger.reach file.path = .place place) :
    file.place? tree = some place := by
  unfold reach at hreach
  rw [hgrows.start_eq, hgrows.sight_eq (by simp [h.start]), h.start] at hreach
  split at hreach
  · exact (h.way.of_grows hgrows).lead_eq hreach
  · cases hreach

/-- A plain file is written where its path says. -/
theorem Plain.destination (h : file.Plain tree) {place : Place}
    (hplace : file.destination? tree = some place) : file.place? tree = some place := by
  obtain ⟨_, old, hw⟩ := destination?_eq_some.mp hplace
  exact h.place?_eq (prepared_makes tree file).grows (writable?_eq_some.mp hw).1

theorem spelled_prefix {place p : Place} {components : List Component}
    (hnames : ∀ component ∈ components, ∃ name, component = .name name)
    (h : spelled place components = some p) : place <+: p := by
  induction components generalizing place with
  | nil => exact Option.some.inj h ▸ List.prefix_refl place
  | cons component rest ih =>
    obtain ⟨name, rfl⟩ := hnames _ List.mem_cons_self
    rw [spelled, next] at h
    split at h
    · exact (List.prefix_append place [name]).trans
        (ih (fun c hc => hnames c (List.mem_cons_of_mem _ hc)) h)
    · cases h

/-- A plain file needs directories above its place only. -/
theorem Plain.makesDirectoryAt (h : file.Plain tree) {q place : Place}
    (hmakes : file.MakesDirectoryAt tree q) (hplace : file.place? tree = some place) :
    q <+: place := by
  obtain ⟨hnone, hmade⟩ := hmakes
  have hway := h.way
  rcases prepared_tree tree file with hsame | hdirectories
  · rw [hsame, hnone] at hmade
    cases hmade
  rw [hdirectories] at hmade
  by_cases hnil : file.path.components = []
  · rw [hnil, List.dropLast_nil, makeDirectories, hnone] at hmade
    cases hmade
  have hall := List.dropLast_concat_getLast hnil
  rw [← hall] at hway
  obtain ⟨before, after, hsplit, hbefore, hq⟩ := makeDirectories_on_way hway.left hnone hmade
  rw [hsplit, List.append_assoc] at hall
  have hspelled : spelled q (after ++ [file.path.components.getLast hnil]) = some place := by
    rw [place?, ← hall, spelled_append, hq] at hplace
    exact hplace
  refine spelled_prefix (fun component hc => ?_) hspelled
  have htail : component ∈ file.path.components.tail := by
    rw [← hall, List.tail_append_of_ne_nil hbefore]
    exact List.mem_append_right _ hc
  rcases Path.mem_tail_components htail with hup | hname
  · exact absurd hup (h.way.no_up hplace component (List.mem_of_mem_tail htail))
  · exact hname

end FileSpec

end DtoGen

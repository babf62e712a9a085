import DtoGen.Machine.FileTree

namespace DtoGen

/-- What a walk sees at a place. -/
inductive Sight
  | nothing
  | directory
  | link (target : String)
  /-- Something that may be written over, or may not. -/
  | plain (isOpen : Bool)
deriving DecidableEq

namespace Sight

def isLink : Sight → Bool
  | link _ => true
  | nothing | directory | plain _ => false

theorem isLink_eq_false {sight : Sight} :
    sight.isLink = false ↔ ∀ target, sight ≠ link target := by
  cases sight <;> simp [isLink]

end Sight

/-- How a walk through links ends. -/
inductive Lead
  /-- At a place, whether or not something is there. -/
  | place (place : Place)
  /-- Something on the way is missing. -/
  | missing
  /-- Something on the way is no directory, or the way is too long. -/
  | blocked

namespace Lead

def place? : Lead → Option Place
  | place p => some p
  | missing | blocked => none

end Lead

namespace FileTree

/-- Two names of one file, or one name twice. -/
def SameFile (tree : FileTree) (p q : Place) : Prop :=
  tree.identity p = tree.identity q

instance (tree : FileTree) (p q : Place) : Decidable (tree.SameFile p q) :=
  inferInstanceAs (Decidable (tree.identity p = tree.identity q))

section Identity

variable {tree : FileTree} {place p q : Place}

theorem SameFile.refl (tree : FileTree) (p : Place) : tree.SameFile p p := rfl

theorem SameFile.symm (h : tree.SameFile p q) : tree.SameFile q p := Eq.symm h

theorem SameFile.trans {r : Place} (h : tree.SameFile p q) (h' : tree.SameFile q r) :
    tree.SameFile p r := Eq.trans h h'

theorem identity_of_none (h : tree.number? p = none) : tree.identity p = .absent p := by
  rw [identity, h]

theorem identity_of_some {number : Nat} (h : tree.number? p = some number) :
    tree.identity p = .stored number := by
  rw [identity, h]

/-- What is not there has no other name. -/
theorem sameFile_of_none (h : tree.number? p = none) : tree.SameFile p q ↔ q = p := by
  unfold SameFile
  rw [identity_of_none h]
  cases hq : tree.number? q with
  | none =>
    rw [identity_of_none hq, FileIdentity.absent.injEq]
    exact eq_comm
  | some number =>
    rw [identity_of_some hq]
    constructor
    · intro heq
      cases heq
    · rintro rfl
      rw [h] at hq
      cases hq

theorem number?_root (tree : FileTree) : tree.number? [] = none :=
  if_pos rfl

theorem number?_eq_items (tree : FileTree) (hroot : place ≠ []) :
    tree.number? place = (tree.items.map Prod.fst).findIdx? fun names => names.contains place := by
  rw [number?, if_neg hroot, List.findIdx?_map]
  rfl

theorem exists_item {number : Nat} (h : tree.number? place = some number) :
    ∃ item, tree.items[number]? = some item := by
  unfold number? at h
  split at h
  · cases h
  · obtain ⟨hlt, _⟩ := List.findIdx?_eq_some_iff_getElem.mp h
    exact ⟨_, List.getElem?_eq_getElem hlt⟩

theorem entry?_root (tree : FileTree) : tree.entry? [] = some .directory :=
  if_pos rfl

theorem entry?_of_number? {number : Nat} {names : List Place} {entry : Entry}
    (h : tree.number? place = some number) (hitem : tree.items[number]? = some (names, entry)) :
    tree.entry? place = some entry := by
  have hroot : place ≠ [] := by
    rintro rfl
    rw [number?_root] at h
    cases h
  unfold entry?
  rw [if_neg hroot, h, Option.bind_some, hitem]
  rfl

theorem number?_of_absent (h : tree.entry? place = none) : tree.number? place = none := by
  cases hnumber : tree.number? place with
  | none => rfl
  | some number =>
    obtain ⟨⟨names, entry⟩, hitem⟩ := exists_item hnumber
    rw [entry?_of_number? hnumber hitem] at h
    cases h

/-- One file is the same under all its names. -/
theorem SameFile.entry?_eq (h : tree.SameFile p q) : tree.entry? p = tree.entry? q := by
  cases hp : tree.number? p with
  | none => rw [(sameFile_of_none hp).mp h]
  | some number =>
    obtain ⟨⟨names, entry⟩, hitem⟩ := exists_item hp
    have hq : tree.number? q = some number := by
      cases hq : tree.number? q with
      | none =>
        obtain rfl := (sameFile_of_none hq).mp h.symm
        exact hq.symm.trans hp
      | some other =>
        unfold SameFile at h
        rw [identity_of_some hp, identity_of_some hq, FileIdentity.stored.injEq] at h
        rw [h]
    rw [entry?_of_number? hp hitem, entry?_of_number? hq hitem]

theorem sameFile_of_absent (h : tree.entry? p = none) : tree.SameFile p q ↔ q = p :=
  sameFile_of_none (number?_of_absent h)

/-- The names of what is there stay. What is new has the number behind all others. -/
theorem number?_set (tree : FileTree) (hroot : place ≠ []) (entry : Entry) (q : Place) :
    FileTree.number? (tree.set place entry) q
      = if tree.number? place = none ∧ q = place then some tree.items.length
        else tree.number? q := by
  by_cases hq : q = []
  · subst hq
    rw [number?_root, number?_root, if_neg fun h => hroot h.2.symm]
  rw [number?_eq_items _ hq, number?_eq_items _ hq]
  cases hnumber : tree.number? place with
  | some number =>
    have hnames : (tree.set place entry).items.map Prod.fst = tree.items.map Prod.fst := by
      refine List.ext_getElem? fun i => ?_
      simp only [set, hnumber, List.getElem?_map, List.getElem?_modify]
      cases tree.items[i]? with
      | none => rfl
      | some item => by_cases hi : number = i <;> simp [hi]
    rw [hnames, if_neg (by simp)]
  | none =>
    rw [number?_eq_items _ hroot, List.findIdx?_eq_none_iff] at hnumber
    have hnew : tree.number? place = none := by
      rwa [number?_eq_items _ hroot, List.findIdx?_eq_none_iff]
    simp only [set, hnew, List.map_append, List.map_cons, List.map_nil, List.findIdx?_append,
      List.findIdx?_singleton, true_and]
    by_cases hplace : q = place
    · subst hplace
      rw [if_pos rfl, List.findIdx?_eq_none_iff.mpr hnumber]
      simp
    · rw [if_neg hplace]
      simp [hplace]

/-- Setting an entry gives no file another name. -/
theorem sameFile_set (tree : FileTree) (hroot : place ≠ []) (entry : Entry) (p q : Place) :
    SameFile (tree.set place entry) p q ↔ tree.SameFile p q := by
  cases hnumber : tree.number? place with
  | some number =>
    have hsame : ∀ r, identity (tree.set place entry) r = tree.identity r := fun r => by
      rw [identity, number?_set tree hroot, if_neg (by simp [hnumber])]
      rfl
    rw [SameFile, hsame, hsame]
    rfl
  | none =>
    have hother : ∀ r, r ≠ place → identity (tree.set place entry) r = tree.identity r :=
      fun r hr => by
        rw [identity, number?_set tree hroot, if_neg fun h => hr h.2]
        rfl
    have hhere : identity (tree.set place entry) place = .stored tree.items.length := by
      rw [identity, number?_set tree hroot, if_pos ⟨hnumber, rfl⟩]
    -- the new number is that of no other name
    have hfresh : ∀ r, r ≠ place →
        ¬SameFile (tree.set place entry) place r ∧ ¬tree.SameFile place r := by
      intro r hr
      refine ⟨fun hsame => ?_, fun hsame => hr ((sameFile_of_none hnumber).mp hsame)⟩
      unfold SameFile at hsame
      rw [hhere, hother r hr, identity] at hsame
      split at hsame
      · rename_i number hnumber
        obtain ⟨item, hitem⟩ := exists_item hnumber
        obtain ⟨hlt, _⟩ := List.getElem?_eq_some_iff.mp hitem
        have := FileIdentity.stored.inj hsame
        omega
      · cases hsame
    by_cases hp : p = place
    · subst hp
      by_cases hq : q = p
      · subst hq
        exact ⟨fun _ => .refl _ _, fun _ => .refl _ _⟩
      · exact ⟨fun h => absurd h (hfresh q hq).1, fun h => absurd h (hfresh q hq).2⟩
    · by_cases hq : q = place
      · subst hq
        exact ⟨fun h => absurd h.symm (hfresh p hp).1, fun h => absurd h.symm (hfresh p hp).2⟩
      · rw [SameFile, hother p hp, hother q hq]
        rfl

/-- Setting an entry changes what is under the names of one file. The root stays a directory. -/
theorem entry?_set (tree : FileTree) (hroot : place ≠ []) (entry : Entry) (q : Place) :
    FileTree.entry? (tree.set place entry) q
      = if tree.SameFile place q then some entry else tree.entry? q := by
  by_cases hq : q = []
  · subst hq
    have hother : ¬tree.SameFile place [] := fun h =>
      hroot ((sameFile_of_none (number?_root tree)).mp h.symm)
    rw [entry?_root, entry?_root, if_neg hother]
  cases hnumber : tree.number? place with
  | some number =>
    obtain ⟨⟨names, old⟩, hitem⟩ := exists_item hnumber
    have hstays : FileTree.number? (tree.set place entry) q = tree.number? q := by
      rw [number?_set tree hroot, if_neg (by simp [hnumber])]
    have hitems : (tree.set place entry).items
        = tree.items.modify number fun item => (item.1, entry) := by
      simp only [set, hnumber]
    unfold entry?
    rw [if_neg hq, if_neg hq, hstays, hitems]
    cases hother : tree.number? q with
    | none =>
      have hne : ¬tree.SameFile place q := fun h => by
        rw [(sameFile_of_none hother).mp h.symm, hother] at hnumber
        cases hnumber
      rw [if_neg hne]
      rfl
    | some other =>
      have hsame : tree.SameFile place q ↔ number = other := by
        rw [SameFile, identity_of_some hnumber, identity_of_some hother, FileIdentity.stored.injEq]
      simp only [Option.bind_some, List.getElem?_modify, hsame]
      by_cases heq : number = other
      · subst heq
        simp [hitem]
      · simp [heq]
  | none =>
    unfold entry?
    rw [if_neg hq, if_neg hq, number?_set tree hroot]
    have hitems : (tree.set place entry).items = tree.items ++ [([place], entry)] := by
      simp only [set, hnumber]
    simp only [hitems, hnumber, true_and, sameFile_of_none hnumber]
    by_cases hplace : q = place
    · subst hplace
      simp
    · rw [if_neg hplace, if_neg hplace]
      cases hother : tree.number? q with
      | none => rfl
      | some other =>
        obtain ⟨item, hitem⟩ := exists_item hother
        obtain ⟨hlt, _⟩ := List.getElem?_eq_some_iff.mp hitem
        simp only [Option.bind_some, List.getElem?_append_left hlt]

end Identity

/-- What neither writing nor making directories changes. -/
structure SameFrame (tree other : FileTree) : Prop where
  workingDirectory : other.workingDirectory = tree.workingDirectory
  mask : other.mask = tree.mask
  admitting : other.admitting = tree.admitting
  isPrivileged : other.isPrivileged = tree.isPrivileged
  sameFile : ∀ p q, other.SameFile p q ↔ tree.SameFile p q

namespace SameFrame

variable {tree other : FileTree}

theorem refl (tree : FileTree) : SameFrame tree tree :=
  ⟨rfl, rfl, rfl, rfl, fun _ _ => .rfl⟩

theorem trans {last : FileTree} (h : SameFrame tree other) (h' : SameFrame other last) :
    SameFrame tree last :=
  ⟨h'.workingDirectory.trans h.workingDirectory, h'.mask.trans h.mask,
    h'.admitting.trans h.admitting, h'.isPrivileged.trans h.isPrivileged,
    fun p q => (h'.sameFile p q).trans (h.sameFile p q)⟩

theorem symm (h : SameFrame tree other) : SameFrame other tree :=
  ⟨h.workingDirectory.symm, h.mask.symm, h.admitting.symm, h.isPrivileged.symm,
    fun p q => (h.sameFile p q).symm⟩

theorem set {place : Place} (hroot : place ≠ []) (entry : Entry) :
    SameFrame tree (tree.set place entry) := by
  have hsame := sameFile_set tree hroot entry
  unfold FileTree.set at hsame ⊢
  split at hsame <;> exact ⟨rfl, rfl, rfl, rfl, hsame⟩

theorem isClosed_eq (h : SameFrame tree other) (place : Place) :
    other.isClosed place = tree.isClosed place := by
  have hopens : other.opensNew = tree.opensNew := by
    rw [opensNew, opensNew, newMode, newMode, h.mask, h.isPrivileged]
  rw [isClosed, isClosed, h.admitting, hopens]

theorem admits_eq (h : SameFrame tree other) (entry : Entry) :
    other.admits entry = tree.admits entry := by
  cases entry <;> simp only [admits, h.isPrivileged]

end SameFrame

theorem ne_root_of_not_directory {tree : FileTree} {place : Place}
    (h : tree.entry? place ≠ some .directory) : place ≠ [] := by
  rintro rfl
  exact h rfl

def sightOf (tree : FileTree) : Option Entry → Sight
  | none => .nothing
  | some .directory => .directory
  | some (.link target) => .link target
  | some entry => .plain (tree.admits entry)

def sight (tree : FileTree) (place : Place) : Sight :=
  tree.sightOf (tree.entry? place)

theorem sight_eq_nothing {tree : FileTree} {place : Place} :
    tree.sight place = .nothing ↔ tree.entry? place = none := by
  unfold sight sightOf
  split <;> simp_all

theorem sight_eq_directory {tree : FileTree} {place : Place} :
    tree.sight place = .directory ↔ tree.entry? place = some .directory := by
  unfold sight sightOf
  split <;> simp_all

theorem isDirectory_iff {tree : FileTree} {place : Place} :
    tree.isDirectory place = true ↔ tree.sight place = .directory := by
  unfold isDirectory sight sightOf
  split <;> simp_all [Entry.isDirectory]

theorem SameFrame.sightOf_eq {tree other : FileTree} (h : SameFrame tree other)
    (entry : Option Entry) : other.sightOf entry = tree.sightOf entry := by
  unfold sightOf
  split <;> simp only [h.admits_eq]

theorem SameFrame.sight_eq_of {tree other : FileTree} (h : SameFrame tree other) {place : Place}
    (hentry : other.entry? place = tree.entry? place) : other.sight place = tree.sight place := by
  rw [sight, sight, hentry, h.sightOf_eq]

/-- The place that the target of a link starts from. -/
def linkStart (directory : Place) (target : String) : Place :=
  if (⟨target⟩ : Path).isAbsolute then [] else directory

theorem sight_linkStart {tree : FileTree} {place : Place} (h : tree.sight place = .directory)
    (target : String) : tree.sight (linkStart place target) = .directory := by
  unfold linkStart
  split
  · rfl
  · exact h

/-- A walk that follows every link, and tells a gap from an obstacle. -/
def lead (tree : FileTree) : Nat → Place → List Component → Lead
  | _, place, [] => .place place
  | 0, _, _ => .blocked
  | bound + 1, place, component :: rest =>
    match next place component with
    | none => .blocked
    | some reached =>
      match tree.sight reached with
      | .directory => lead tree bound reached rest
      | .link target =>
        lead tree bound (linkStart place target) ((⟨target⟩ : Path).components ++ rest)
      | .plain _ => if rest.isEmpty then .place reached else .blocked
      | .nothing => if rest.isEmpty then .place reached else .missing

theorem walk_eq_lead (tree : FileTree) (bound : Nat) (place : Place)
    (components : List Component) :
    tree.walk true bound place components = (tree.lead bound place components).place? := by
  induction bound generalizing place components with
  | zero => cases components <;> rfl
  | succ bound ih =>
    cases components with
    | nil => rfl
    | cons component rest =>
      unfold walk lead
      cases next place component with
      | none => rfl
      | some reached =>
        simp only [Option.bind_eq_bind, Option.bind_some, sight]
        cases tree.entry? reached with
        | none => cases rest <;> rfl
        | some entry =>
          cases entry with
          | directory => exact ih reached rest
          | link target =>
            simp only [Bool.not_true, Bool.and_false, Bool.false_eq_true, if_false, sightOf]
            exact ih _ _
          | file _ _ => cases rest <;> rfl
          | device _ => cases rest <;> rfl
          | program _ => cases rest <;> rfl

/-- Nothing is lost on the way from one tree to another, and what is new is no link. -/
structure Grows (tree larger : FileTree) : Prop extends SameFrame tree larger where
  seen : ∀ place, larger.sight place = tree.sight place ∨
    tree.sight place = .nothing ∧ tree.isClosed place = false ∧
      ∀ target, larger.sight place ≠ .link target

namespace Grows

variable {tree larger : FileTree}

theorem refl (tree : FileTree) : Grows tree tree :=
  ⟨.refl tree, fun _ => .inl rfl⟩

theorem trans {between : FileTree} (h : Grows tree between) (h' : Grows between larger) :
    Grows tree larger := by
  refine ⟨h.toSameFrame.trans h'.toSameFrame, fun place => ?_⟩
  rcases h'.seen place with heq' | ⟨hnothing, hopen, hlink⟩
  · rw [heq']
    exact h.seen place
  · rw [h.isClosed_eq] at hopen
    rcases h.seen place with heq | ⟨hbefore, _, _⟩
    · exact .inr ⟨heq.symm.trans hnothing, hopen, hlink⟩
    · exact .inr ⟨hbefore, hopen, hlink⟩

theorem sight_eq (h : Grows tree larger) {place : Place} (hne : tree.sight place ≠ .nothing) :
    larger.sight place = tree.sight place :=
  (h.seen place).resolve_right fun hnew => hne hnew.1

/-- A walk ends as it did, unless it ran into a gap. -/
theorem lead_eq (h : Grows tree larger) {bound : Nat} {place : Place}
    {components : List Component} (hgap : tree.lead bound place components ≠ .missing) :
    larger.lead bound place components = tree.lead bound place components := by
  induction bound generalizing place components with
  | zero => cases components <;> rfl
  | succ bound ih =>
    cases components with
    | nil => rfl
    | cons component rest =>
      unfold lead at hgap ⊢
      cases hnext : next place component with
      | none => rfl
      | some reached =>
        simp only [hnext] at hgap ⊢
        cases hs : tree.sight reached with
        | nothing =>
          cases rest with
          | nil =>
            have hnolink : ∀ target, larger.sight reached ≠ .link target := by
              rcases h.seen reached with heq | hnew
              · simp [heq, hs]
              · exact hnew.2.2
            cases hl : larger.sight reached with
            | directory => cases bound <;> rfl
            | link target => exact absurd hl (hnolink target)
            | plain isOpen => rfl
            | nothing => rfl
          | cons next rest => simp [hs] at hgap
        | directory =>
          rw [h.sight_eq (by simp [hs]), hs]
          simp only [hs] at hgap
          exact ih hgap
        | link target =>
          rw [h.sight_eq (by simp [hs]), hs]
          simp only [hs] at hgap
          exact ih hgap
        | plain isOpen =>
          rw [h.sight_eq (by simp [hs]), hs]

end Grows

/-- Whether there is a link at a place that stands for nothing. -/
def dangles (tree : FileTree) (place : Place) : Bool :=
  match tree.sight place with
  | .link target =>
    match tree.lead longestWalk (linkStart place.dropLast target) (⟨target⟩ : Path).components with
    | .place reached => tree.sight reached = .nothing
    | .missing => true
    | .blocked => false
  | _ => false

theorem directoryAt?_eq (tree : FileTree) (place : Place) :
    tree.directoryAt? place = match tree.sight place with
      | .directory => some place
      | .link target =>
        (tree.lead longestWalk (linkStart place.dropLast target)
          (⟨target⟩ : Path).components).place?.filter tree.isDirectory
      | _ => none := by
  unfold directoryAt? sight
  cases tree.entry? place with
  | none => rfl
  | some entry =>
    cases entry with
    | link target =>
      simp only [walk_eq_lead]
      rfl
    | _ => rfl

theorem not_dangles_of_directoryAt? {tree : FileTree} {place d : Place}
    (h : tree.directoryAt? place = some d) : tree.dangles place = false := by
  rw [directoryAt?_eq] at h
  unfold dangles
  cases hs : tree.sight place with
  | link target =>
    simp only [hs, Option.filter_eq_some_iff, isDirectory_iff] at h
    obtain ⟨hplace, hdirectory⟩ := h
    cases hl : tree.lead longestWalk (linkStart place.dropLast target)
        (⟨target⟩ : Path).components with
    | place reached =>
      rw [hl] at hplace
      obtain rfl : reached = d := Option.some.inj hplace
      simp [hl, hdirectory]
    | missing => simp [hl, Lead.place?] at hplace
    | blocked => simp [hl]
  | _ => rfl

namespace Grows

variable {tree larger : FileTree}

/-- What stands for a directory goes on to stand for it, and what does not never will. -/
theorem directoryAt?_eq (h : Grows tree larger) {place : Place}
    (hthere : tree.sight place ≠ .nothing) (hsound : tree.dangles place = false) :
    larger.directoryAt? place = tree.directoryAt? place := by
  rw [FileTree.directoryAt?_eq, FileTree.directoryAt?_eq, h.sight_eq hthere]
  cases hs : tree.sight place with
  | link target =>
    simp only [dangles, hs] at hsound
    dsimp only
    cases hl : tree.lead longestWalk (linkStart place.dropLast target)
        (⟨target⟩ : Path).components with
    | missing => simp [hl] at hsound
    | blocked => rw [h.lead_eq (by simp [hl]), hl]; rfl
    | place reached =>
      rw [h.lead_eq (by simp [hl]), hl]
      have hreached : tree.sight reached ≠ .nothing := by simpa [hl] using hsound
      have hsame : larger.isDirectory reached = tree.isDirectory reached := by
        rw [Bool.eq_iff_iff, isDirectory_iff, isDirectory_iff, h.sight_eq hreached]
      simp only [Lead.place?, Option.filter, hsame]
  | _ => rfl

end Grows

/-- Directories have been put where nothing was, and nothing else has happened. -/
structure MakesDirectories (tree made : FileTree) : Prop extends SameFrame tree made where
  entry : ∀ q, made.entry? q = tree.entry? q ∨
    tree.entry? q = none ∧ tree.isClosed q = false ∧ made.entry? q = some .directory

namespace MakesDirectories

variable {tree made : FileTree}

theorem refl (tree : FileTree) : MakesDirectories tree tree :=
  ⟨.refl tree, fun _ => .inl rfl⟩

theorem trans {between : FileTree} (h : MakesDirectories tree between)
    (h' : MakesDirectories between made) : MakesDirectories tree made := by
  refine ⟨h.toSameFrame.trans h'.toSameFrame, fun q => ?_⟩
  rcases h.entry q with heq | ⟨hnone, hopen, hmade⟩
  · rw [← heq, ← h.isClosed_eq]
    exact h'.entry q
  · rcases h'.entry q with heq' | ⟨hnone', _, _⟩
    · exact .inr ⟨hnone, hopen, heq'.trans hmade⟩
    · rw [hmade] at hnone'
      cases hnone'

theorem set {place : Place} (hnone : tree.entry? place = none)
    (hopen : tree.isClosed place = false) :
    MakesDirectories tree (tree.set place .directory) := by
  have hnot : tree.entry? place ≠ some .directory := by simp [hnone]
  have hroot := ne_root_of_not_directory hnot
  refine ⟨.set hroot .directory, fun q => ?_⟩
  rw [entry?_set _ hroot]
  simp only [sameFile_of_absent hnone]
  by_cases hq : q = place
  · subst hq
    exact .inr ⟨hnone, hopen, if_pos rfl⟩
  · exact .inl (if_neg hq)

theorem grows (h : MakesDirectories tree made) : Grows tree made := by
  refine ⟨h.toSameFrame, fun place => ?_⟩
  rcases h.entry place with heq | ⟨hnone, hopen, hmade⟩
  · exact .inl (h.sight_eq_of heq)
  · exact .inr ⟨sight_eq_nothing.mpr hnone, hopen, by simp [sight, sightOf, hmade]⟩

theorem entry_of_some (h : MakesDirectories tree made) {q : Place} {entry : Entry}
    (hq : tree.entry? q = some entry) : made.entry? q = some entry := by
  rcases h.entry q with heq | ⟨hnone, _, _⟩
  · exact heq.trans hq
  · rw [hq] at hnone
    cases hnone

end MakesDirectories

theorem directoryAt?_of_nothing {tree : FileTree} {place : Place}
    (h : tree.entry? place = none) : tree.directoryAt? place = none := by
  simp [directoryAt?, h]

/-- What one component comes to: a directory to go on from, a new directory, or an end. -/
theorem makeDirectories_cons (tree : FileTree) (place : Place) (component : Component)
    (rest : List Component) :
    tree.makeDirectories place (component :: rest) = match next place component with
      | none => (false, tree)
      | some reached =>
        match tree.directoryAt? reached with
        | some d => tree.makeDirectories d rest
        | none =>
          if tree.sight reached ≠ .nothing ∨ tree.isClosed reached = true then (false, tree)
          else (tree.set reached .directory).makeDirectories reached rest := by
  rw [makeDirectories]
  cases next place component with
  | none => rfl
  | some reached =>
    dsimp only
    cases hd : tree.directoryAt? reached with
    | some d => rfl
    | none =>
      cases he : tree.entry? reached with
      | none =>
        have hs : tree.sight reached = .nothing := sight_eq_nothing.mpr he
        simp [hs]
      | some entry =>
        have hs : tree.sight reached ≠ .nothing := by simp [sight_eq_nothing, he]
        simp [hs]

/-- What is done at a place where a directory can be made. -/
theorem set_of_free {tree : FileTree} {place : Place}
    (h : ¬(tree.sight place ≠ .nothing ∨ tree.isClosed place = true)) :
    tree.entry? place = none ∧ MakesDirectories tree (tree.set place .directory) := by
  simp only [ne_eq, not_or, Decidable.not_not, Bool.not_eq_true] at h
  have hnone := sight_eq_nothing.mp h.1
  exact ⟨hnone, .set hnone h.2⟩

theorem makeDirectories_makes (tree : FileTree) (place : Place) (components : List Component) :
    MakesDirectories tree (tree.makeDirectories place components).2 := by
  induction components generalizing tree place with
  | nil => exact .refl tree
  | cons component rest ih =>
    rw [makeDirectories_cons]
    split
    · exact .refl tree
    split
    · exact ih _ _
    split
    · exact .refl tree
    · rename_i hfree
      exact (set_of_free hfree).2.trans (ih _ _)

/-- No link that stands for nothing is met where directories are made. -/
def clearWay (tree : FileTree) (place : Place) : List Component → Bool
  | [] => true
  | component :: rest =>
    match next place component with
    | none => true
    | some reached =>
      match tree.directoryAt? reached with
      | some d => tree.clearWay d rest
      | none =>
        if tree.sight reached ≠ .nothing ∨ tree.isClosed reached = true then
          !tree.dangles reached
        else (tree.set reached .directory).clearWay reached rest

/-- Two trees gain the same directories, some of which the second one may have had. -/
def GainAlike (tree made larger largerMade : FileTree) : Prop :=
  ∀ q, (tree.entry? q = none ∧ made.entry? q = some .directory ∧
      largerMade.entry? q = some .directory) ∨
    made.entry? q = tree.entry? q ∧ largerMade.entry? q = larger.entry? q

/-- A tree that holds an entry under the names of one file, and is otherwise as it was. -/
structure Puts (tree : FileTree) (place : Place) (entry : Entry) (result : FileTree) : Prop
    extends SameFrame tree result where
  named : ∀ q, tree.SameFile place q → result.entry? q = some entry
  elsewhere : ∀ q, ¬tree.SameFile place q → result.entry? q = tree.entry? q

namespace Puts

variable {tree larger result : FileTree} {place : Place} {entry : Entry}

theorem here (h : Puts tree place entry result) : result.entry? place = some entry :=
  h.named place (.refl tree place)

theorem of_entry (h : tree.entry? place = some entry) : Puts tree place entry tree :=
  ⟨.refl tree, fun _ hq => hq.entry?_eq.symm.trans h, fun _ _ => rfl⟩

theorem of_set (h : tree.entry? place ≠ some .directory) (entry : Entry) :
    Puts tree place entry (tree.set place entry) := by
  have hroot := ne_root_of_not_directory h
  have hset := entry?_set tree hroot entry
  exact ⟨.set hroot entry, fun q hq => (hset q).trans (if_pos hq),
    fun q hq => (hset q).trans (if_neg hq)⟩

theorem of_absent (h : tree.entry? place = none) :
    Puts tree place .directory (tree.set place .directory) :=
  .of_set (by simp [h]) .directory

/-- A larger tree that gets what a tree gets stays the larger one. -/
theorem grows {small : FileTree} (hresult : Puts larger place entry result)
    (hsmall : Puts tree place entry small) (h : Grows tree larger) : Grows small result := by
  have hframe : SameFrame small result :=
    hsmall.toSameFrame.symm.trans (h.toSameFrame.trans hresult.toSameFrame)
  refine ⟨hframe, fun q => ?_⟩
  by_cases hq : tree.SameFile place q
  · refine .inl (hframe.sight_eq_of ?_)
    rw [hresult.named q ((h.sameFile place q).mpr hq), hsmall.named q hq]
  · have hlarge := hresult.elsewhere q (mt (h.sameFile place q).mp hq)
    rw [hresult.sight_eq_of hlarge, hsmall.sight_eq_of (hsmall.elsewhere q hq), hsmall.isClosed_eq]
    exact h.seen q

/-- Where directories are still to be made, a larger tree that gets one of them has no obstacle. -/
theorem free {small made : FileTree} (hresult : Puts larger place .directory result)
    (hsmall : Puts tree place .directory small) (hsame : SameFrame tree larger)
    (hfree : ∀ q, tree.entry? q = none → made.entry? q = some .directory →
      larger.entry? q = none ∨ larger.entry? q = some .directory) :
    ∀ q, small.entry? q = none → made.entry? q = some .directory →
      result.entry? q = none ∨ result.entry? q = some .directory := by
  intro q habsent hgained
  by_cases hq : tree.SameFile place q
  · exact .inr (hresult.named q ((hsame.sameFile place q).mpr hq))
  · rw [hsmall.elsewhere q hq] at habsent
    rw [hresult.elsewhere q (mt (hsame.sameFile place q).mp hq)]
    exact hfree q habsent hgained

end Puts

/-- A directory that the larger tree has or gets, while the smaller one gets it. -/
theorem GainAlike.of_puts {tree larger result made largerMade small : FileTree} {place : Place}
    (hresult : Puts larger place .directory result) (hsmall : Puts tree place .directory small)
    (hsame : SameFrame tree larger) (hnone : tree.entry? place = none)
    (hmade : MakesDirectories small made) (h : GainAlike small made result largerMade) :
    GainAlike tree made larger largerMade := by
  intro q
  by_cases hq : q = place
  · subst hq
    refine .inl ⟨hnone, hmade.entry_of_some hsmall.here, ?_⟩
    rcases h q with ⟨habsent, _, _⟩ | ⟨_, hsame⟩
    · rw [hsmall.here] at habsent
      cases habsent
    · exact hsame.trans hresult.here
  · have hother : ¬tree.SameFile place q := mt (sameFile_of_absent hnone).mp hq
    have hgain := h q
    rwa [hsmall.elsewhere q hother,
      hresult.elsewhere q (mt (hsame.sameFile place q).mp hother)] at hgain

/-- Where a directory is missing or there, making directories goes on from a tree that has it. -/
theorem makeDirectories_of_free {tree : FileTree} {place : Place} (rest : List Component)
    (h : tree.entry? place = none ∨ tree.entry? place = some .directory) :
    ∃ result, Puts tree place .directory result ∧
      (match tree.directoryAt? place with
        | some d => tree.makeDirectories d rest
        | none =>
          if ¬tree.sight place = .nothing then (false, tree)
          else (tree.set place .directory).makeDirectories place rest)
        = result.makeDirectories place rest := by
  rcases h with habsent | hdirectory
  · refine ⟨_, .of_absent habsent, ?_⟩
    simp [directoryAt?_of_nothing habsent, sight_eq_nothing.mpr habsent]
  · refine ⟨_, .of_entry hdirectory, ?_⟩
    simp [directoryAt?, hdirectory]

/-- Making directories answers alike in a larger tree, and gains what it gained. Nobody may have put
anything but a directory where a directory is to be made. -/
theorem makeDirectories_alike {tree larger : FileTree} (h : Grows tree larger) {place : Place}
    {components : List Component} (hclear : tree.clearWay place components = true)
    (hfree : ∀ q, tree.entry? q = none →
      FileTree.entry? (tree.makeDirectories place components).2 q = some .directory →
      larger.entry? q = none ∨ larger.entry? q = some .directory) :
    (larger.makeDirectories place components).1 = (tree.makeDirectories place components).1 ∧
      GainAlike tree (tree.makeDirectories place components).2 larger
        (larger.makeDirectories place components).2 := by
  induction components generalizing tree larger place with
  | nil => exact ⟨rfl, fun _ => .inr ⟨rfl, rfl⟩⟩
  | cons component rest ih =>
    rw [clearWay] at hclear
    rw [makeDirectories_cons] at hfree
    rw [makeDirectories_cons, makeDirectories_cons tree]
    cases hnext : next place component with
    | none => exact ⟨rfl, fun _ => .inr ⟨rfl, rfl⟩⟩
    | some reached =>
      simp only [hnext] at hclear hfree ⊢
      by_cases hthere : tree.sight reached = .nothing
      · have hnone := sight_eq_nothing.mp hthere
        simp only [directoryAt?_of_nothing hnone, hthere, ne_eq, not_true, false_or]
          at hclear hfree ⊢
        cases hclosed : tree.isClosed reached with
        | true =>
          have hlarger : larger.sight reached = .nothing := by
            rcases h.seen reached with heq | ⟨_, hopen, _⟩
            · exact heq.trans hthere
            · rw [hclosed] at hopen
              cases hopen
          simp only [directoryAt?_of_nothing (sight_eq_nothing.mp hlarger), h.isClosed_eq, hclosed,
            or_true, if_true]
          exact ⟨trivial, fun _ => .inr ⟨rfl, rfl⟩⟩
        | false =>
          simp only [h.isClosed_eq, hclosed, Bool.false_eq_true, if_false, or_false]
            at hclear hfree ⊢
          have hsmall := Puts.of_absent hnone
          have hmade := makeDirectories_makes (tree.set reached .directory) reached rest
          obtain ⟨result, hresult, hrun⟩ := makeDirectories_of_free rest
            (hfree reached hnone (hmade.entry_of_some hsmall.here))
          rw [hrun]
          obtain ⟨hanswer, hgain⟩ :=
            ih (hresult.grows hsmall h) hclear (hresult.free hsmall h.toSameFrame hfree)
          exact ⟨hanswer, .of_puts hresult hsmall h.toSameFrame hnone hmade hgain⟩
      · cases hd : tree.directoryAt? reached with
        | some d =>
          have hsame := h.directoryAt?_eq hthere (not_dangles_of_directoryAt? hd)
          simp only [hd, hsame] at hclear hfree ⊢
          exact ih h hclear hfree
        | none =>
          simp only [hd, hthere, ne_eq, not_false_eq_true, true_or, if_true, Bool.not_eq_true']
            at hclear hfree ⊢
          have hsame := h.directoryAt?_eq hthere hclear
          simp only [hsame, hd, h.sight_eq hthere, hthere, not_false_eq_true, true_or, if_true]
          exact ⟨trivial, fun _ => .inr ⟨rfl, rfl⟩⟩

/-- Where a path leads from its start, which has to be a directory itself. -/
def reach (tree : FileTree) (path : Path) : Lead :=
  if isUsable path then
    match tree.sight (tree.start path) with
    | .directory => tree.lead longestWalk (tree.start path) path.components
    | .nothing => .missing
    | _ => .blocked
  else .blocked

theorem locate?_eq (tree : FileTree) (path : Path) :
    tree.locate? path = (tree.reach path).place? := by
  unfold locate? locateFrom? reach
  cases isUsable path with
  | false => rfl
  | true =>
    have hdirectory : tree.isDirectory (tree.start path) = true ↔ _ := isDirectory_iff
    cases hs : tree.sight (tree.start path) with
    | directory => simp [hdirectory.mpr hs, walk_eq_lead]
    | _ =>
      have hnot : tree.isDirectory (tree.start path) = false := by
        simpa [hs] using mt hdirectory.mp
      simp [hnot, Lead.place?]

theorem Grows.start_eq {tree larger : FileTree} (h : Grows tree larger) (path : Path) :
    larger.start path = tree.start path := by
  rw [start, start, h.workingDirectory]

theorem Grows.reach_eq {tree larger : FileTree} (h : Grows tree larger) {path : Path}
    (hgap : tree.reach path ≠ .missing) : larger.reach path = tree.reach path := by
  unfold reach at hgap ⊢
  rw [h.start_eq]
  split
  · rename_i husable
    rw [if_pos husable] at hgap
    cases hs : tree.sight (tree.start path) with
    | nothing => simp [hs] at hgap
    | directory =>
      rw [h.sight_eq (by simp [hs]), hs]
      simp only [hs] at hgap
      exact h.lead_eq hgap
    | link target => rw [h.sight_eq (by simp [hs]), hs]
    | plain => rw [h.sight_eq (by simp [hs]), hs]
  · rfl

/-- A walk that starts at a directory does not end at a link. -/
theorem lead_not_link {tree : FileTree} {bound : Nat} {place p : Place}
    {components : List Component} (hstart : tree.sight place = .directory)
    (h : tree.lead bound place components = .place p) (target : String) :
    tree.sight p ≠ .link target := by
  induction bound generalizing place components with
  | zero =>
    cases components with
    | nil =>
      obtain rfl : place = p := by simpa [lead] using h
      simp [hstart]
    | cons => cases h
  | succ bound ih =>
    cases components with
    | nil =>
      obtain rfl : place = p := by simpa [lead] using h
      simp [hstart]
    | cons component rest =>
      unfold lead at h
      cases hnext : next place component with
      | none => simp [hnext] at h
      | some reached =>
        simp only [hnext] at h
        cases hs : tree.sight reached with
        | directory =>
          simp only [hs] at h
          exact ih hs h
        | link other =>
          simp only [hs] at h
          exact ih (sight_linkStart hstart other) h
        | plain isOpen =>
          simp only [hs] at h
          split at h
          · obtain rfl := Lead.place.inj h
            simp [hs]
          · cases h
        | nothing =>
          simp only [hs] at h
          split at h
          · obtain rfl := Lead.place.inj h
            simp [hs]
          · cases h

theorem reach_not_link {tree : FileTree} {path : Path} {p : Place}
    (h : tree.reach path = .place p) (target : String) : tree.sight p ≠ .link target := by
  unfold reach at h
  split at h
  · split at h
    · rename_i hs
      exact lead_not_link hs h target
    · cases h
    · cases h
  · cases h

/-- Whether a write goes through where `old` is. -/
def takesContent (old : Option Entry) (content : ByteArray) : Bool :=
  match old with
  | some (.device .full) => content.isEmpty
  | some (.device .terminal) => false
  | _ => true

/-- What a write that goes through leaves where `old` was. A device keeps nothing. -/
def afterWrite (tree : FileTree) (old : Option Entry) (content : ByteArray) : Entry :=
  match old with
  | some (.file _ mode) => .file content mode
  | some (.device device) => .device device
  | some (.program _) => .file content Entry.executableMode
  | _ => .file content (tree.newMode 0o666)

theorem mayWrite_eq (tree : FileTree) (place : Place) :
    tree.mayWrite place = match tree.sight place with
      | .plain isOpen => isOpen
      | .nothing => !tree.isClosed place
      | _ => true := by
  unfold mayWrite sight sightOf
  split
  · rename_i entry hentry
    cases entry <;> simp [hentry, admits]
  · rename_i hnone
    rw [hnone]

theorem writable?_eq_some {tree : FileTree} {path : Path} {place : Place} {old : Option Entry} :
    tree.writable? path = some (place, old) ↔ tree.reach path = .place place ∧
      meansDirectory path = false ∧ tree.sight place ≠ .directory ∧
      tree.mayWrite place = true ∧ old = tree.entry? place := by
  unfold writable?
  rw [locate?_eq]
  cases tree.reach path with
  | missing => simp [Lead.place?]
  | blocked => simp [Lead.place?]
  | place p =>
    simp only [Lead.place?, Option.bind_eq_bind, Option.bind_some, Lead.place.injEq]
    by_cases hp : p = place
    · subst hp
      have hdirectory : tree.isDirectory p = true ↔ _ := isDirectory_iff
      cases hd : tree.isDirectory p with
      | true => simp [hdirectory.mp hd]
      | false =>
        have hsight : tree.sight p ≠ .directory := by simpa [hd] using mt hdirectory.mpr
        cases meansDirectory path <;> cases tree.mayWrite p <;> simp [hsight, eq_comm]
    · simp [hp]

theorem writeBytes_of_none {tree : FileTree} {path : Path} (h : tree.writable? path = none)
    (content : ByteArray) : tree.writeBytes path content = (false, tree) := by
  rw [writeBytes, h]

/-- A write goes through or not depending on what was there, and changes that place only. -/
theorem writeBytes_of_some {tree : FileTree} {path : Path} {place : Place} {old : Option Entry}
    (h : tree.writable? path = some (place, old)) (content : ByteArray) :
    (tree.writeBytes path content).1 = takesContent old content ∧
      (takesContent old content = true → Puts tree place (tree.afterWrite old content)
        (tree.writeBytes path content).2) ∧
      (takesContent old content = false → (tree.writeBytes path content).2 = tree) := by
  obtain ⟨_, _, hplace, _, rfl⟩ := writable?_eq_some.mp h
  have hnot : tree.entry? place ≠ some .directory := mt sight_eq_directory.mpr hplace
  have hput := Puts.of_set hnot
  rw [writeBytes, h]
  cases he : tree.entry? place with
  | none => exact ⟨rfl, fun _ => hput _, fun h => by cases h⟩
  | some entry =>
    cases entry with
    | device device =>
      cases device with
      | null => exact ⟨rfl, fun _ => .of_entry he, fun _ => rfl⟩
      | zero => exact ⟨rfl, fun _ => .of_entry he, fun _ => rfl⟩
      | full => exact ⟨rfl, fun _ => .of_entry he, fun _ => rfl⟩
      | terminal => exact ⟨rfl, fun _ => .of_entry he, fun _ => rfl⟩
    | _ => exact ⟨rfl, fun _ => hput _, fun h => by cases h⟩

/-- What may be written over under one name may be under every other one. -/
theorem SameFile.mayWrite_eq {tree : FileTree} {p q : Place} (h : tree.SameFile p q) :
    tree.mayWrite q = tree.mayWrite p := by
  cases hp : tree.entry? p with
  | none => rw [(sameFile_of_absent hp).mp h]
  | some entry => rw [mayWrite, mayWrite, ← h.entry?_eq, hp]

/-- What a larger tree lets be written where both hold the same. -/
theorem SameFrame.mayWrite_eq_of {tree other : FileTree} (h : SameFrame tree other) {place : Place}
    (hsight : other.sight place = tree.sight place) :
    other.mayWrite place = tree.mayWrite place := by
  rw [mayWrite_eq, mayWrite_eq, hsight, h.isClosed_eq]

/-- A larger tree lets nothing be written that the smaller one does not. -/
theorem Grows.mayWrite_of {tree larger : FileTree} (h : Grows tree larger) {place : Place}
    (hlarger : larger.mayWrite place = true) : tree.mayWrite place = true := by
  rcases h.seen place with heq | ⟨hnothing, hopen, _⟩
  · rwa [← h.mayWrite_eq_of heq]
  · rw [mayWrite_eq, hnothing]
    simp [hopen]

/-- A larger tree can be written to where the smaller one can, if it holds the same there. -/
theorem Grows.writable?_eq {tree larger : FileTree} (h : Grows tree larger) {path : Path}
    (hgap : tree.reach path ≠ .missing)
    (hsame : ∀ place old, tree.writable? path = some (place, old) →
      larger.entry? place = tree.entry? place) :
    larger.writable? path = tree.writable? path := by
  cases hw : tree.writable? path with
  | some found =>
    obtain ⟨place, old⟩ := found
    have hentry := hsame place old hw
    have hsight := h.sight_eq_of hentry
    obtain ⟨hreach, hmeans, hplace, hmay, rfl⟩ := writable?_eq_some.mp hw
    refine writable?_eq_some.mpr ⟨(h.reach_eq hgap).trans hreach, hmeans, ?_,
      (h.mayWrite_eq_of hsight).trans hmay, hentry.symm⟩
    rwa [hsight]
  | none =>
    rw [Option.eq_none_iff_forall_ne_some]
    rintro ⟨place, old⟩ hlarger
    obtain ⟨hreach, hmeans, hplace, hmay, rfl⟩ := writable?_eq_some.mp hlarger
    have hback : tree.writable? path = some (place, tree.entry? place) := by
      refine writable?_eq_some.mpr ⟨(h.reach_eq hgap).symm.trans hreach, hmeans, fun hd => ?_,
        h.mayWrite_of hmay, rfl⟩
      exact hplace ((h.sight_eq (by simp [hd])).trans hd)
    rw [hw] at hback
    cases hback

/-- A write leaves something that may be written over where such a thing was. -/
theorem sightOf_afterWrite (tree : FileTree) {old : Option Entry}
    (h : tree.sightOf old = .plain true) (content : ByteArray) :
    tree.sightOf (some (tree.afterWrite old content)) = .plain true := by
  cases old with
  | none => cases h
  | some entry =>
    cases entry with
    | directory => cases h
    | link target => cases h
    | file old mode => exact h
    | device device => exact h
    | program program =>
      have hprivileged : tree.isPrivileged = true := by simpa [sightOf, admits] using h
      simp [sightOf, afterWrite, admits, hprivileged]

theorem sightOf_afterWrite_ne_link (tree : FileTree) (old : Option Entry) (content : ByteArray)
    (target : String) : tree.sightOf (some (tree.afterWrite old content)) ≠ .link target := by
  unfold afterWrite
  split <;> simp [sightOf]

/-- A write makes a tree grow: no directory and no link is written over. -/
theorem Puts.grows_of_write {tree result : FileTree} {path : Path} {place : Place}
    {old : Option Entry} (hw : tree.writable? path = some (place, old)) (content : ByteArray)
    (h : Puts tree place (tree.afterWrite old content) result) : Grows tree result := by
  obtain ⟨hreach, _, hplace, hmay, rfl⟩ := writable?_eq_some.mp hw
  refine ⟨h.toSameFrame, fun q => ?_⟩
  by_cases hq : tree.SameFile place q
  · have hbefore : tree.sight q = tree.sight place := congrArg tree.sightOf hq.entry?_eq.symm
    have hafter : result.sight q
        = tree.sightOf (some (tree.afterWrite (tree.entry? place) content)) :=
      (congrArg result.sightOf (h.named q hq)).trans (h.toSameFrame.sightOf_eq _)
    rw [hbefore, hafter]
    have hlink := sightOf_afterWrite_ne_link tree (tree.entry? place) content
    rw [mayWrite_eq] at hmay
    cases hs : tree.sight place with
    | nothing =>
      obtain rfl := (sameFile_of_absent (sight_eq_nothing.mp hs)).mp hq
      exact .inr ⟨rfl, by simpa [hs] using hmay, hlink⟩
    | directory => exact absurd hs hplace
    | link target => exact absurd hs (reach_not_link hreach target)
    | plain isOpen =>
      obtain rfl : isOpen = true := by simpa [hs] using hmay
      exact .inl (sightOf_afterWrite tree hs content)
  · exact .inl (h.sight_eq_of (h.elsewhere q hq))

end FileTree

end DtoGen

import DtoGen.Proofs.FileTreeGrowth
import DtoGen.Proofs.PathJoin

namespace DtoGen

/-- No path at all stands for the working directory. -/
def Path.orHere (path : Path) : Path :=
  if path.text = "" then ⟨"."⟩ else path

namespace FileTree

section Ways

variable {tree : FileTree} {place reached middle goal : Place} {component : Component}
  {components front rest : List Component} {bound n m : Nat}

/-- A way along components in a number of steps. Only the last one may come to something that is no
directory. -/
inductive LeadsTo (tree : FileTree) : Nat → Place → List Component → Place → Prop
  | arrived (place : Place) : LeadsTo tree 0 place [] place
  | into {n : Nat} {place reached goal : Place} {component : Component} {rest : List Component} :
    next place component = some reached → tree.sight reached = .directory →
      LeadsTo tree n reached rest goal → LeadsTo tree (n + 1) place (component :: rest) goal
  | along {n : Nat} {place reached goal : Place} {component : Component} {rest : List Component}
    {target : String} : next place component = some reached →
      tree.sight reached = .link target →
      LeadsTo tree n (linkStart place target) ((⟨target⟩ : Path).components ++ rest) goal →
      LeadsTo tree (n + 1) place (component :: rest) goal
  | ends {place reached : Place} {component : Component} : next place component = some reached →
      (∃ isOpen, tree.sight reached = .plain isOpen) ∨ tree.sight reached = .nothing →
      LeadsTo tree 1 place [component] reached

/-- A walk that comes to an end has gone such a way. -/
theorem leadsTo_of_lead (h : tree.lead bound place components = .place goal) :
    ∃ n ≤ bound, tree.LeadsTo n place components goal := by
  induction bound generalizing place components with
  | zero =>
    cases components with
    | nil =>
      obtain rfl := Lead.place.inj h
      exact ⟨0, Nat.le_refl 0, .arrived place⟩
    | cons => cases h
  | succ bound ih =>
    cases components with
    | nil =>
      obtain rfl := Lead.place.inj h
      exact ⟨0, Nat.zero_le _, .arrived place⟩
    | cons component rest =>
      unfold lead at h
      cases hnext : next place component with
      | none => simp [hnext] at h
      | some reached =>
        simp only [hnext] at h
        cases hs : tree.sight reached with
        | directory =>
          simp only [hs] at h
          obtain ⟨n, hn, hway⟩ := ih h
          exact ⟨n + 1, Nat.succ_le_succ hn, .into hnext hs hway⟩
        | link target =>
          simp only [hs] at h
          obtain ⟨n, hn, hway⟩ := ih h
          exact ⟨n + 1, Nat.succ_le_succ hn, .along hnext hs hway⟩
        | plain isOpen =>
          simp only [hs] at h
          split at h
          · rename_i hrest
            obtain rfl := List.isEmpty_iff.mp hrest
            obtain rfl := Lead.place.inj h
            exact ⟨1, Nat.le_add_left 1 bound, .ends hnext (.inl ⟨isOpen, hs⟩)⟩
          · cases h
        | nothing =>
          simp only [hs] at h
          split at h
          · rename_i hrest
            obtain rfl := List.isEmpty_iff.mp hrest
            obtain rfl := Lead.place.inj h
            exact ⟨1, Nat.le_add_left 1 bound, .ends hnext (.inr hs)⟩
          · cases h

/-- A walk that may go on for long enough comes to the end of the way. -/
theorem LeadsTo.lead_eq (h : tree.LeadsTo n place components goal) (hbound : n ≤ bound) :
    tree.lead bound place components = .place goal := by
  induction h generalizing bound with
  | arrived place => cases bound <;> rfl
  | into hnext hs _ ih =>
    obtain ⟨more, rfl⟩ := Nat.exists_eq_add_of_le' hbound
    simp only [lead, hnext, hs]
    exact ih (Nat.le_add_left _ _)
  | along hnext hs _ ih =>
    obtain ⟨more, rfl⟩ := Nat.exists_eq_add_of_le' hbound
    simp only [lead, hnext, hs]
    exact ih (Nat.le_add_left _ _)
  | ends hnext hs =>
    obtain ⟨more, rfl⟩ := Nat.exists_eq_add_of_le' hbound
    rcases hs with ⟨isOpen, hs⟩ | hs <;> simp [lead, hnext, hs]

theorem walk_eq_some_iff : tree.walk true bound place components = some goal ↔
    ∃ n ≤ bound, tree.LeadsTo n place components goal := by
  rw [walk_eq_lead]
  constructor
  · intro h
    cases hl : tree.lead bound place components with
    | place reached =>
      rw [hl] at h
      obtain rfl : reached = goal := Option.some.inj h
      exact leadsTo_of_lead hl
    | missing => simp [hl, Lead.place?] at h
    | blocked => simp [hl, Lead.place?] at h
  · rintro ⟨n, hn, h⟩
    rw [h.lead_eq hn]
    rfl

/-- There is one way at most. -/
theorem LeadsTo.unique {other : Place} (h : tree.LeadsTo n place components goal)
    (h' : tree.LeadsTo m place components other) : goal = other := by
  have hsame := h.lead_eq (Nat.le_max_left n m)
  rw [h'.lead_eq (Nat.le_max_right n m)] at hsame
  exact (Lead.place.inj hsame).symm

theorem LeadsTo.append (h : tree.LeadsTo n place front middle)
    (hmiddle : tree.sight middle = .directory) (h' : tree.LeadsTo m middle rest goal) :
    ∃ k, tree.LeadsTo k place (front ++ rest) goal := by
  induction h with
  | arrived place => exact ⟨m, h'⟩
  | into hnext hs _ ih =>
    obtain ⟨k, hway⟩ := ih hmiddle h'
    exact ⟨k + 1, .into hnext hs hway⟩
  | along hnext hs _ ih =>
    obtain ⟨k, hway⟩ := ih hmiddle h'
    rw [List.append_assoc] at hway
    exact ⟨k + 1, .along hnext hs hway⟩
  | ends hnext hs => rcases hs with ⟨isOpen, hs⟩ | hs <;> simp [hs] at hmiddle

/-- A way that goes on has come to a directory before. -/
theorem LeadsTo.split (hplace : tree.sight place = .directory)
    (h : tree.LeadsTo n place (front ++ rest) goal) (hrest : rest ≠ []) :
    ∃ middle k m, tree.sight middle = .directory ∧ k ≤ n ∧ tree.LeadsTo k place front middle ∧
      tree.LeadsTo m middle rest goal := by
  generalize hall : front ++ rest = components at h
  induction h generalizing front with
  | arrived place => exact absurd (List.append_eq_nil_iff.mp hall).2 hrest
  | @into n place reached goal component more hnext hs hway ih =>
    cases front with
    | nil =>
      obtain rfl : rest = _ := hall
      exact ⟨place, 0, _, hplace, Nat.zero_le _, .arrived place, .into hnext hs hway⟩
    | cons first front =>
      obtain ⟨rfl, rfl⟩ := List.cons.inj hall
      obtain ⟨middle, k, m, hmiddle, hk, hfront, hbehind⟩ := ih hs rfl
      exact ⟨middle, k + 1, m, hmiddle, Nat.succ_le_succ hk, .into hnext hs hfront, hbehind⟩
  | @along n place reached goal component more target hnext hs hway ih =>
    cases front with
    | nil =>
      obtain rfl : rest = _ := hall
      exact ⟨place, 0, _, hplace, Nat.zero_le _, .arrived place, .along hnext hs hway⟩
    | cons first front =>
      obtain ⟨rfl, rfl⟩ := List.cons.inj hall
      obtain ⟨middle, k, m, hmiddle, hk, hfront, hbehind⟩ :=
        ih (sight_linkStart hplace target) (List.append_assoc _ _ _)
      exact ⟨middle, k + 1, m, hmiddle, Nat.succ_le_succ hk, .along hnext hs hfront, hbehind⟩
  | @ends place reached component hnext hs =>
    cases front with
    | nil =>
      obtain rfl : rest = _ := hall
      exact ⟨place, 0, _, hplace, Nat.zero_le _, .arrived place, .ends hnext hs⟩
    | cons first front =>
      obtain ⟨_, hnil⟩ := List.cons.inj hall
      exact absurd (List.append_eq_nil_iff.mp hnil).2 hrest

/-- Behind a way to a directory, the rest of a way is one from there. -/
theorem exists_leadsTo_append (hplace : tree.sight place = .directory)
    (hfront : tree.LeadsTo n place front middle) (hmiddle : tree.sight middle = .directory) :
    (∃ k, tree.LeadsTo k place (front ++ rest) goal) ↔ ∃ k, tree.LeadsTo k middle rest goal := by
  constructor
  · rintro ⟨k, h⟩
    by_cases hrest : rest = []
    · subst hrest
      rw [List.append_nil] at h
      exact ⟨0, hfront.unique h ▸ .arrived middle⟩
    · obtain ⟨other, _, m, _, _, hother, hbehind⟩ := h.split hplace hrest
      exact ⟨m, hfront.unique hother ▸ hbehind⟩
  · rintro ⟨k, h⟩
    exact hfront.append hmiddle h

/-- A step to where one is leaves the way as it is. -/
theorem exists_leadsTo_here (hplace : tree.sight place = .directory) :
    (∃ k, tree.LeadsTo k place (.here :: rest) goal) ↔ ∃ k, tree.LeadsTo k place rest goal :=
  exists_leadsTo_append hplace (.into rfl hplace (.arrived place)) hplace

end Ways

/-- The place that a look-up comes to, if neither the text nor the way can be too long for it. -/
structure Denotes (tree : FileTree) (path : Path) (place : Place) : Prop where
  notEmpty : path.text ≠ ""
  noNull : '\x00' ∉ path.text.toList
  isDirectory : tree.isDirectory (tree.start path) = true
  leads : ∃ bound, tree.walk true bound (tree.start path) path.components = some place

theorem exists_walk_iff {tree : FileTree} {place goal : Place} {components : List Component} :
    (∃ bound, tree.walk true bound place components = some goal) ↔
      ∃ n, tree.LeadsTo n place components goal := by
  simp only [walk_eq_some_iff]
  constructor
  · rintro ⟨_, n, _, h⟩
    exact ⟨n, h⟩
  · rintro ⟨n, h⟩
    exact ⟨n, n, Nat.le_refl n, h⟩

theorem isUsable_iff {path : Path} : isUsable path = true ↔
    path.text ≠ "" ∧ path.text.utf8ByteSize ≤ longestPath ∧ '\x00' ∉ path.text.toList := by
  simp [isUsable, and_assoc]

theorem locate?_eq_some_iff {tree : FileTree} {path : Path} {place : Place} :
    tree.locate? path = some place ↔ isUsable path = true ∧
      tree.isDirectory (tree.start path) = true ∧
      tree.walk true longestWalk (tree.start path) path.components = some place := by
  unfold locate? locateFrom?
  cases isUsable path <;> cases tree.isDirectory (tree.start path) <;> simp

/-- What is looked up is denoted. -/
theorem denotes_of_locate? {tree : FileTree} {path : Path} {place : Place}
    (h : tree.locate? path = some place) : tree.Denotes path place := by
  obtain ⟨husable, hstart, hwalk⟩ := locate?_eq_some_iff.mp h
  obtain ⟨hne, _, hnull⟩ := isUsable_iff.mp husable
  exact ⟨hne, hnull, hstart, longestWalk, hwalk⟩

theorem enter?_eq_some_iff {tree inner : FileTree} {directory : Path} :
    tree.enter? (some directory) = some inner ↔ ∃ place, tree.locate? directory = some place ∧
      tree.isDirectory place = true ∧ { tree with workingDirectory := place } = inner := by
  simp only [enter?, Option.bind_eq_bind, Option.bind_eq_some_iff, Option.ite_none_right_eq_some,
    Option.some.injEq]

/-- Ways do not depend on the directory that paths start from. -/
theorem walk_moved (tree : FileTree) (directory : Place) (bound : Nat) (place : Place)
    (components : List Component) :
    { tree with workingDirectory := directory }.walk true bound place components
      = tree.walk true bound place components := by
  induction bound generalizing place components with
  | zero => cases components <;> rfl
  | succ bound ih =>
    cases components with
    | nil => rfl
    | cons component rest =>
      simp only [walk, ih]
      rfl

theorem denotes_iff {tree : FileTree} {path : Path} {place : Place} :
    tree.Denotes path place ↔ path.text ≠ "" ∧ '\x00' ∉ path.text.toList ∧
      tree.sight (tree.start path) = .directory ∧
      ∃ n, tree.LeadsTo n (tree.start path) path.components place := by
  rw [← isDirectory_iff, ← exists_walk_iff]
  constructor
  · rintro ⟨hne, hnull, hstart, hleads⟩
    exact ⟨hne, hnull, hstart, hleads⟩
  · rintro ⟨hne, hnull, hstart, hleads⟩
    exact ⟨hne, hnull, hstart, hleads⟩

section Joined

variable {tree inner : FileTree} {directory path : Path} {place : Place}

theorem exists_leadsTo_moved (tree : FileTree) (directory : Place) {components : List Component}
    {goal : Place} :
    (∃ n, LeadsTo { tree with workingDirectory := directory } n place components goal) ↔
      ∃ n, tree.LeadsTo n place components goal := by
  simp only [← exists_walk_iff, walk_moved]

/-- From a directory, a relative path goes the way of its steps. A dot in front counts for
nothing. -/
theorem exists_leadsTo_steps (hplace : tree.sight place = .directory)
    (h : path.isAbsolute = false) {goal : Place} :
    (∃ n, tree.LeadsTo n place path.components goal) ↔
      ∃ n, tree.LeadsTo n place (Path.steps (Path.pieces path.text.toList)) goal := by
  rw [Path.components_eq]
  rcases Path.lead_of_relative h with hlead | hlead
  · rw [hlead, List.nil_append]
  · rw [hlead, List.singleton_append]
    exact exists_leadsTo_here hplace

theorem noNull_join (hdirectory : directory.text ≠ "") (hnull : '\x00' ∉ directory.text.toList)
    (h : path.isAbsolute = false) :
    '\x00' ∉ (directory / path).text.toList ↔ '\x00' ∉ path.text.toList := by
  rw [Path.join_text path hdirectory h]
  split <;> simp [hnull]

/-- What a path denotes in a directory, it denotes behind the directory's path. An absolute one
denotes the same everywhere. -/
theorem denotes_join (h : tree.enter? (some directory) = some inner) (hpath : path.text ≠ "") :
    tree.Denotes (directory / path) place ↔ inner.Denotes path place := by
  obtain ⟨middle, hlocated, hmiddle, rfl⟩ := enter?_eq_some_iff.mp h
  obtain ⟨hne, hnull, hstart, hway⟩ := denotes_iff.mp (denotes_of_locate? hlocated)
  rw [denotes_iff, denotes_iff]
  cases habsolute : path.isAbsolute with
  | true =>
    rw [Path.join_absolute directory habsolute, start, start, if_pos habsolute, if_pos habsolute,
      exists_leadsTo_moved tree middle]
    rfl
  | false =>
    have hfrom : tree.start (directory / path) = tree.start directory := by
      rw [start, start, Path.isAbsolute_join hne habsolute]
    have hinner : FileTree.start { tree with workingDirectory := middle } path = middle := by
      rw [start, habsolute]
      rfl
    have hnotEmpty : (directory / path).text ≠ "" := by
      rw [Path.join_text path hne habsolute]
      simp [hne]
    have hplace := isDirectory_iff.mp hmiddle
    obtain ⟨k, hfront⟩ := hway
    rw [hfrom, hinner, noNull_join hne hnull habsolute, Path.components_join path hne habsolute,
      exists_leadsTo_append hstart hfront hplace, exists_leadsTo_moved tree middle,
      exists_leadsTo_steps hplace habsolute]
    constructor
    · rintro ⟨_, hclean, _, hleads⟩
      exact ⟨hpath, hclean, hplace, hleads⟩
    · rintro ⟨_, hclean, _, hleads⟩
      exact ⟨hnotEmpty, hclean, hstart, hleads⟩

theorem meansDirectory_join (directory path : Path) :
    meansDirectory (directory / path) = meansDirectory path := by
  obtain ⟨piece, hlast⟩ : ∃ piece, (Path.pieces path.text.toList).getLast? = some piece :=
    ⟨_, List.getLast?_eq_some_getLast (Path.pieces_ne_nil _)⟩
  have hjoined := (Path.last_piece_join directory path).trans hlast
  simp only [meansDirectory, hlast, hjoined]
  cases hfiller : Path.isFiller piece with
  | true => simp only [Bool.or_true]
  | false =>
    rw [Path.fileName?, Path.fileName?, Path.components_getLast? hlast hfiller,
      Path.components_getLast? hjoined hfiller]

/-- What is at the place that a path denotes, if it may be spelled so. -/
def Holds (tree : FileTree) (path : Path) (entry : Entry) : Prop :=
  ∃ place, tree.Denotes path place ∧ tree.entry? place = some entry ∧
    visible? path entry = some entry

theorem visible?_eq_some {entry seen : Entry} (h : visible? path entry = some seen) :
    seen = entry := by
  unfold visible? at h
  split at h
  · exact (Option.some.inj h).symm
  · cases h

/-- The same file from either directory. -/
theorem holds_join (h : tree.enter? (some directory) = some inner) (hpath : path.text ≠ "")
    (entry : Entry) : tree.Holds (directory / path) entry ↔ inner.Holds path entry := by
  have hentries : inner.entry? = tree.entry? := by
    obtain ⟨_, _, _, rfl⟩ := enter?_eq_some_iff.mp h
    rfl
  simp only [Holds, denotes_join h hpath, hentries, visible?, meansDirectory_join]

end Joined

section Parents

variable {tree : FileTree} {path parent : Path} {entry : Entry}

theorem isUsable_parent (h : path.parent? = some parent) (hne : parent.text ≠ "")
    (husable : isUsable path = true) : isUsable parent = true := by
  obtain ⟨_, hshort, hnull⟩ := isUsable_iff.mp husable
  obtain ⟨behind, htext⟩ := Path.parent?_prefix h
  have hsize : path.text.utf8ByteSize = parent.text.utf8ByteSize
      + (String.ofList behind).utf8ByteSize := by
    rw [← String.utf8ByteSize_append]
    congr 1
    rw [← String.toList_inj, String.toList_append, String.toList_ofList, htext]
  refine isUsable_iff.mpr ⟨hne, by omega, fun hin => hnull ?_⟩
  rw [← htext]
  exact List.mem_append_left behind hin

theorem start_parent (h : path.parent? = some parent) (hne : parent.text ≠ "") :
    tree.start parent = tree.start path := by
  have hsame : parent.isAbsolute = path.isAbsolute := by
    rw [Bool.eq_iff_iff, Path.isAbsolute_iff, Path.isAbsolute_iff, Path.lead_parent h hne]
  rw [start, start, hsame]

/-- The working directory has a path of its own. -/
theorem locate?_here (h : tree.isDirectory tree.workingDirectory = true) :
    tree.locate? ⟨"."⟩ = some tree.workingDirectory := by
  have hthere := isDirectory_iff.mp h
  refine locate?_eq_some_iff.mpr ⟨by decide, h, walk_eq_some_iff.mpr ⟨1, by decide, ?_⟩⟩
  exact .into rfl hthere (.arrived _)

theorem find?_directory {place : Place} (hlocated : tree.locate? path = some place)
    (h : tree.sight place = .directory) : tree.find? path = some .directory := by
  rw [find?, hlocated, Option.bind_eq_bind, Option.bind_some, sight_eq_directory.mp h]
  rfl

/-- A spelling that does not say that it means a directory has a name at its end. -/
theorem exists_fileName (hentry : entry.isDirectory = false)
    (h : visible? path entry = some entry) : ∃ name, path.fileName? = some name := by
  have hname : path.fileName?.isNone = false := by
    cases hnone : path.fileName?.isNone with
    | false => rfl
    | true => simp [visible?, meansDirectory, hentry, hnone] at h
  exact Option.isSome_iff_exists.mp (Option.isNone_eq_false_iff.mp hname)

/-- What a file is found in is found at the parent of its path, which a bare name does not
spell. -/
theorem find?_parent (h : tree.find? path = some entry) (hentry : entry.isDirectory = false) :
    ∃ parent, path.parent? = some parent ∧
      tree.find? parent.orHere = some .directory := by
  obtain ⟨place, hlocated, hfound⟩ := Option.bind_eq_some_iff.mp h
  obtain ⟨there, _, hvisible⟩ := Option.bind_eq_some_iff.mp hfound
  obtain rfl := visible?_eq_some hvisible
  obtain ⟨husable, hstart, hwalk⟩ := locate?_eq_some_iff.mp hlocated
  obtain ⟨name, hname⟩ := exists_fileName hentry hvisible
  obtain ⟨parent, hparent, hcomponents⟩ := Path.exists_parent hname
  refine ⟨parent, hparent, ?_⟩
  unfold Path.orHere
  split
  · rename_i hempty
    have hbare : path.components = [.name name] := by
      obtain ⟨text⟩ := parent
      obtain rfl : text = "" := hempty
      exact hcomponents
    have hrelative : path.isAbsolute = false := by
      cases habsolute : path.isAbsolute with
      | false => rfl
      | true =>
        rw [Path.components_eq, Path.isAbsolute_iff.mp habsolute] at hbare
        cases (List.cons.inj hbare).1
    rw [start, if_neg (by simp [hrelative])] at hstart
    exact find?_directory (locate?_here hstart) (isDirectory_iff.mp hstart)
  · rename_i hne
    obtain ⟨n, hn, hway⟩ := walk_eq_some_iff.mp hwalk
    rw [hcomponents] at hway
    obtain ⟨middle, k, _, hmiddle, hk, hfront, _⟩ :=
      hway.split (isDirectory_iff.mp hstart) (List.cons_ne_nil _ _)
    have hreached : tree.locate? parent = some middle := by
      rw [locate?_eq_some_iff, start_parent hparent hne]
      exact ⟨isUsable_parent hparent hne husable, hstart,
        walk_eq_some_iff.mpr ⟨k, Nat.le_trans hk hn, hfront⟩⟩
    exact find?_directory hreached hmiddle

end Parents

end FileTree

end DtoGen

import DtoGen.Proofs.ImportResolution
import Mathlib.Data.List.Induction

namespace DtoGen

/-- One segment of a way. A step up takes back a name; there is none from the root. -/
def walkSegment? (place : List Component) (segment : List Char) : Option (List Component) :=
  if segment = ['.', '.'] then
    match place.getLast? with
    | some (.name _) => some place.dropLast
    | _ => none
  else some (followSegment place segment)

/-- Where a way leads from a place, if it never leaves the root. -/
def walk? (place : List Component) (way : List (List Char)) : Option (List Component) :=
  way.foldlM walkSegment? place

def upCount (way : List (List Char)) : Nat :=
  way.count ['.', '.']

/-- Whether a step leads into a directory or to a module. -/
def stepsDown (segment : List Char) : Bool :=
  segment != ['.'] && segment != ['.', '.']

def downCount (way : List (List Char)) : Nat :=
  way.countP stepsDown

/-- The part that two places share, as far as they go together. -/
structure SharedPart (shared start goal : List Component) : Prop where
  startsWay : shared <+: start
  startsGoal : shared <+: goal
  longest : ∀ other, other <+: start → other <+: goal → other.length ≤ shared.length

/-- A way that leads to a module of a directory and takes no detour. -/
structure ShortestWay (start goal : List Component) (name : String) (way : List (List Char)) :
    Prop where
  arrives : walk? start way = some (goal ++ [.name name])
  /-- The way does not leave what the two directories share either. -/
  turns : ∃ shared before behind, start = shared ++ before ∧ goal = shared ++ behind ∧
    SharedPart shared start goal ∧ walk? before way = some (behind ++ [.name name]) ∧
    upCount way = start.length - shared.length
  /-- A way to a module leads through its directory. -/
  shortest : ∀ other, walk? start other = some goal →
    upCount way ≤ upCount (other ++ [name.toList]) ∧
      downCount way ≤ downCount (other ++ [name.toList])

/-- A specifier that leads from the one directory to the module in the other, and how it starts. -/
structure PointsTo (specifier : String) (source target : Path) (name : String) : Prop where
  way : ShortestWay source.components target.components name (Path.pieces specifier.toList)
  inside : source.components <+: target.components → "./".toList <+: specifier.toList
  aside : ¬ source.components <+: target.components → "../".toList <+: specifier.toList

namespace Path

/-- Names and nothing else: no root, no leading dot and no `..`. -/
def OnlyNames (p : Path) : Prop :=
  ∀ component ∈ p.components, ∃ name, component = .name name

theorem onlyNames_of_eq {p : Path} (names : List String)
    (h : p.components = names.map Component.name) : p.OnlyNames := by
  intro component hmem
  rw [h] at hmem
  obtain ⟨name, _, rfl⟩ := List.mem_map.mp hmem
  exact ⟨name, rfl⟩

theorem isName_of_mem_components {p : Path} {s : String} (h : .name s ∈ p.components) :
    IsName s := by
  rw [components_eq, List.mem_append] at h
  rcases h with h | h
  · unfold lead at h
    split at h <;> simp at h
  obtain ⟨piece, hpiece, hs⟩ := List.mem_map.mp h
  obtain ⟨hpiece, hcounts⟩ := List.mem_filter.mp hpiece
  unfold pieceComponent at hs
  split at hs
  · cases hs
  rename_i hup
  obtain rfl := Component.name.inj hs
  have hfiller : isFiller piece = false := by simpa using hcounts
  refine ⟨?_, ?_, ?_, ?_⟩
  · rw [String.toList_ofList]
    exact slash_not_mem_piece hpiece
  all_goals
    intro he
    have hlist := congrArg String.toList he
    rw [String.toList_ofList] at hlist
    subst hlist
  · cases hfiller
  · cases hfiller
  · exact hup rfl

theorem OnlyNames.exists_names {p : Path} (h : p.OnlyNames) :
    ∃ names : List String, p.components = names.map Component.name ∧ ∀ s ∈ names, IsName s := by
  have hnames : ∀ components : List Component, (∀ c ∈ components, ∃ s, c = .name s) →
      ∃ names : List String, components = names.map Component.name := by
    intro components hall
    induction components with
    | nil => exact ⟨[], rfl⟩
    | cons c components ih =>
      obtain ⟨s, rfl⟩ := hall c List.mem_cons_self
      obtain ⟨names, rfl⟩ := ih fun c hc => hall c (List.mem_cons_of_mem _ hc)
      exact ⟨s :: names, rfl⟩
  obtain ⟨names, hcomponents⟩ := hnames p.components h
  refine ⟨names, hcomponents, fun s hs => isName_of_mem_components (p := p) ?_⟩
  rw [hcomponents]
  exact List.mem_map_of_mem hs

theorem IsName.ne_here {s : String} (h : IsName s) : s.toList ≠ ['.'] :=
  fun hs => h.notHere (String.toList_inj.mp hs)

theorem IsName.ne_up {s : String} (h : IsName s) : s.toList ≠ ['.', '.'] :=
  fun hs => h.notUp (String.toList_inj.mp hs)

end Path

theorem walkSegment?_up (place : List Component) (s : String) :
    walkSegment? (place ++ [.name s]) ['.', '.'] = some place := by
  simp [walkSegment?]

theorem walkSegment?_name (place : List Component) {s : String} (h : Path.IsName s) :
    walkSegment? place s.toList = some (place ++ [.name s]) := by
  rw [walkSegment?, if_neg h.ne_up, followSegment, if_neg h.ne_here, if_neg h.ne_up,
    String.ofList_toList]

/-- What a step can be. -/
theorem walkSegment?_cases {place next : List Component} {segment : List Char}
    (h : walkSegment? place segment = some next) :
    (segment = ['.'] ∧ next = place) ∨
    (segment = ['.', '.'] ∧ ∃ s, place = next ++ [.name s]) ∨
    (segment ≠ ['.'] ∧ segment ≠ ['.', '.'] ∧ ∃ s, next = place ++ [.name s]) := by
  unfold walkSegment? at h
  split at h
  · rename_i hup
    split at h
    · rename_i s hlast
      obtain ⟨front, rfl⟩ := List.getLast?_eq_some_iff.mp hlast
      obtain rfl := Option.some.inj h
      exact .inr (.inl ⟨hup, s, by rw [List.dropLast_concat]⟩)
    · cases h
  · rename_i hup
    obtain rfl := Option.some.inj h
    by_cases hhere : segment = ['.']
    · exact .inl ⟨hhere, if_pos hhere⟩
    · refine .inr (.inr ⟨hhere, hup, String.ofList segment, ?_⟩)
      rw [followSegment, if_neg hhere, if_neg hup]

theorem stepsDown_of_ne {segment : List Char} (hhere : segment ≠ ['.'])
    (hup : segment ≠ ['.', '.']) : stepsDown segment = true := by
  rw [stepsDown, bne_iff_ne.mpr hhere, bne_iff_ne.mpr hup, Bool.and_self]

theorem Path.IsName.stepsDown {s : String} (h : IsName s) : stepsDown s.toList = true :=
  stepsDown_of_ne h.ne_here h.ne_up

theorem walk?_cons (place : List Component) (segment : List Char) (way : List (List Char)) :
    walk? place (segment :: way) = (walkSegment? place segment).bind (walk? · way) := rfl

theorem walk?_append (place : List Component) (way rest : List (List Char)) :
    walk? place (way ++ rest) = (walk? place way).bind (walk? · rest) :=
  List.foldlM_append

/-- A leading `.` leads nowhere else. -/
theorem walk?_here (place : List Component) (way : List (List Char)) :
    walk? place (['.'] :: way) = walk? place way := by
  have hstep : walkSegment? place ['.'] = some place := by simp [walkSegment?, followSegment]
  rw [walk?_cons, hstep, Option.bind_some]

theorem walk?_ups (place : List Component) (names : List String) :
    walk? (place ++ names.map Component.name) (List.replicate names.length ['.', '.'])
      = some place := by
  induction names using List.reverseRecOn with
  | nil => simp [walk?]
  | append_singleton names s ih =>
    rw [List.length_append, List.length_singleton, List.replicate_succ, walk?_cons,
      List.map_append, List.map_singleton, ← List.append_assoc, walkSegment?_up]
    exact ih

theorem walk?_names (place : List Component) {names : List String}
    (h : ∀ s ∈ names, Path.IsName s) :
    walk? place (names.map String.toList) = some (place ++ names.map Component.name) := by
  induction names generalizing place with
  | nil => simp [walk?]
  | cons s names ih =>
    have hstep := walkSegment?_name place (h s List.mem_cons_self)
    rw [List.map_cons, walk?_cons, hstep, Option.bind_some,
      ih _ fun s hs => h s (List.mem_cons_of_mem _ hs), List.append_assoc]
    rfl

theorem commonLength_self (place : List Component) : commonLength place place = place.length := by
  induction place with
  | nil => rfl
  | cons c place ih => rw [commonLength, if_pos rfl, ih, List.length_cons]

/-- One component more changes what is shared by one component at most. -/
theorem commonLength_concat (place goal : List Component) (c : Component) :
    commonLength place goal ≤ commonLength (place ++ [c]) goal ∧
      commonLength (place ++ [c]) goal ≤ commonLength place goal + 1 := by
  induction place generalizing goal with
  | nil =>
    cases goal with
    | nil => simp [commonLength]
    | cons d goal =>
      rw [List.nil_append, commonLength]
      split <;> simp [commonLength]
  | cons a place ih =>
    cases goal with
    | nil => simp [commonLength]
    | cons d goal =>
      have hgoal := ih goal
      rw [List.cons_append, commonLength, commonLength]
      split <;> omega

theorem le_commonLength {other start goal : List Component} (hstart : other <+: start)
    (hgoal : other <+: goal) : other.length ≤ commonLength start goal := by
  obtain ⟨before, rfl⟩ := hstart
  obtain ⟨behind, rfl⟩ := hgoal
  induction other with
  | nil => exact Nat.zero_le _
  | cons c other ih =>
    rw [List.cons_append, List.cons_append, commonLength, if_pos rfl]
    exact Nat.succ_le_succ ih

theorem commonLength_le (start goal : List Component) :
    commonLength start goal ≤ start.length := by
  obtain ⟨shared, before, behind, rfl, _, hlen⟩ := commonLength_split start goal
  rw [hlen, List.length_append]
  exact Nat.le_add_right _ _

theorem prefix_iff_commonLength {start goal : List Component} :
    start <+: goal ↔ start.length = commonLength start goal := by
  constructor
  · intro h
    exact Nat.le_antisymm (le_commonLength (List.prefix_refl start) h) (commonLength_le start goal)
  · intro h
    obtain ⟨shared, before, behind, hstart, hgoal, hlen⟩ := commonLength_split start goal
    rw [hlen, hstart, List.length_append] at h
    obtain rfl : before = [] := List.length_eq_zero_iff.mp (by omega)
    rw [hstart, hgoal, List.append_nil]
    exact List.prefix_append _ _

/-- Two paths of names share a part, and what is left of them are names. -/
theorem exists_turn {source target : Path} (hsource : source.OnlyNames)
    (htarget : target.OnlyNames) : ∃ (shared : List Component) (before behind : List String),
      source.components = shared ++ before.map Component.name ∧
      target.components = shared ++ behind.map Component.name ∧
      commonLength source.components target.components = shared.length ∧
      ∀ s ∈ behind, Path.IsName s := by
  obtain ⟨shared, before, behind, hstart, hgoal, hlen⟩ :=
    commonLength_split source.components target.components
  obtain ⟨names, hnames, _⟩ := hsource.exists_names
  obtain ⟨goalNames, hgoalNames, hisName⟩ := htarget.exists_names
  have hbefore : before = (names.drop shared.length).map Component.name := by
    rw [List.map_drop, ← hnames, hstart, List.drop_left]
  have hbehind : behind = (goalNames.drop shared.length).map Component.name := by
    rw [List.map_drop, ← hgoalNames, hgoal, List.drop_left]
  exact ⟨shared, _, _, hbefore ▸ hstart, hbehind ▸ hgoal, hlen,
    fun s hs => hisName s (List.mem_of_mem_drop hs)⟩

/-- Whatever the way, it has a step up for each component of its start that is not shared with the
goal, and a step down for each component of the goal. -/
theorem le_steps_of_walk? {place goal : List Component} {way : List (List Char)}
    (h : walk? place way = some goal) :
    place.length ≤ commonLength place goal + upCount way ∧
      goal.length ≤ commonLength place goal + downCount way := by
  induction way generalizing place with
  | nil =>
    obtain rfl := Option.some.inj h
    rw [commonLength_self]
    exact ⟨Nat.le_add_right _ _, Nat.le_add_right _ _⟩
  | cons segment way ih =>
    rw [walk?_cons] at h
    obtain ⟨next, hstep, hrest⟩ := Option.bind_eq_some_iff.mp h
    have hnext := ih hrest
    unfold upCount downCount at hnext ⊢
    rw [List.count_cons, List.countP_cons]
    rcases walkSegment?_cases hstep with ⟨rfl, rfl⟩ | ⟨rfl, s, rfl⟩ | ⟨hhere, hup, s, rfl⟩
    · simpa [stepsDown] using hnext
    · have hshared := commonLength_concat next goal (.name s)
      simp only [List.length_append, List.length_singleton, BEq.rfl, if_true]
      omega
    · have hshared := commonLength_concat place goal (.name s)
      simp only [List.length_append, List.length_singleton] at hnext
      rw [if_pos (stepsDown_of_ne hhere hup)]
      omega

/-- As many steps up as there are names in front, and down again by names. Where there is nothing to
climb, a dot stands first. -/
def turnWay (before behind : List String) : List (List Char) :=
  (if before = [] then [['.']] else [])
    ++ (List.replicate before.length ['.', '.'] ++ behind.map String.toList)

section

variable {behind : List String} (before : List String) (h : ∀ s ∈ behind, Path.IsName s)

include h

theorem walk?_turnWay (place : List Component) :
    walk? (place ++ before.map Component.name) (turnWay before behind)
      = some (place ++ behind.map Component.name) := by
  have hturn : walk? (place ++ before.map Component.name)
      (List.replicate before.length ['.', '.'] ++ behind.map String.toList)
      = some (place ++ behind.map Component.name) := by
    rw [walk?_append, walk?_ups, Option.bind_some, walk?_names place h]
  unfold turnWay
  split
  · rw [List.singleton_append, walk?_here, hturn]
  · rw [List.nil_append, hturn]

theorem upCount_turnWay : upCount (turnWay before behind) = before.length := by
  have hnames : (behind.map String.toList).count ['.', '.'] = 0 := by
    rw [List.count_eq_zero]
    intro hmem
    obtain ⟨s, hs, hup⟩ := List.mem_map.mp hmem
    exact (h s hs).ne_up hup
  have hdot : (if before = [] then [['.']] else []).count ['.', '.'] = 0 := by split <;> rfl
  rw [upCount, turnWay, List.count_append, List.count_append, hdot, hnames,
    List.count_replicate_self, Nat.zero_add, Nat.add_zero]

theorem downCount_turnWay : downCount (turnWay before behind) = behind.length := by
  have hdown : ∀ segment ∈ behind.map String.toList, stepsDown segment = true := by
    intro segment hmem
    obtain ⟨s, hs, rfl⟩ := List.mem_map.mp hmem
    exact (h s hs).stepsDown
  have hdot : (if before = [] then [['.']] else []).countP stepsDown = 0 := by split <;> rfl
  have hups : (List.replicate before.length ['.', '.']).countP stepsDown = 0 := by
    rw [List.countP_replicate]
    rfl
  rw [downCount, turnWay, List.countP_append, List.countP_append, hdot, hups,
    List.countP_eq_length.mpr hdown, List.length_map, Nat.zero_add, Nat.zero_add]

end

/-- The segments of a specifier turn at what the two directories share. -/
theorem pieces_importSpecifier {source target : Path} {shared : List Component}
    {before behind : List String} {name : String}
    (hsource : source.components = shared ++ before.map Component.name)
    (htarget : target.components = shared ++ behind.map Component.name)
    (hlen : commonLength source.components target.components = shared.length)
    (h : ∀ s ∈ behind ++ [name], Path.IsName s) :
    Path.pieces (importSpecifier source target name).toList
      = turnWay before (behind ++ [name]) := by
  have htext : (behind.map Component.name).map Component.text = behind := by
    rw [List.map_map]
    exact List.map_id _
  have hslash : ∀ s ∈ List.replicate before.length ".." ++ (behind ++ [name]),
      '/' ∉ s.toList := by
    intro s hs
    rcases List.mem_append.mp hs with hs | hs
    · rw [(List.mem_replicate.mp hs).2]
      decide
    · exact (h s hs).noSlash
  have hturn : Path.pieces ("/".intercalate
      (List.replicate before.length ".." ++ (behind ++ [name]))).toList
      = List.replicate before.length ['.', '.'] ++ (behind ++ [name]).map String.toList := by
    rw [pieces_intercalate (by simp) hslash, List.map_append, List.map_replicate]
    rfl
  have hclimb : source.components.length = shared.length ↔ before = [] := by
    rw [hsource, List.length_append, List.length_map, Nat.add_eq_left, List.length_eq_zero_iff]
  have hcount : source.components.length - shared.length = before.length := by
    rw [hsource, List.length_append, List.length_map, Nat.add_sub_cancel_left]
  simp only [importSpecifier, hlen, hclimb, hcount]
  rw [htarget, List.drop_left, htext, List.append_assoc, turnWay, ← hturn]
  split
  · rw [String.toList_append]
    exact Path.pieces_append_slash ['.'] _
  · rfl

/-- A specifier starts with a step up as soon as there is something to climb. -/
theorem importSpecifier_start (source target : Path) (name : String) :
    (source.components <+: target.components →
      "./".toList <+: (importSpecifier source target name).toList) ∧
    (¬ source.components <+: target.components →
      "../".toList <+: (importSpecifier source target name).toList) := by
  rw [prefix_iff_commonLength]
  unfold importSpecifier
  dsimp only
  refine ⟨fun hinside => ?_, fun haside => ?_⟩
  · rw [if_pos hinside, String.toList_append]
    exact List.prefix_append _ _
  · have hle := commonLength_le source.components target.components
    obtain ⟨k, hk⟩ : ∃ k, source.components.length
        - commonLength source.components target.components = k + 1 :=
      Nat.exists_eq_succ_of_ne_zero (by omega)
    rw [if_neg haside, hk, List.replicate_succ, List.cons_append, List.cons_append,
      String.toList_intercalate, List.map_cons, List.intercalate_cons_of_ne_nil (by simp)]
    exact List.prefix_append _ _

/-- Between directories spelled in any way, a specifier is a shortest correct one. -/
theorem importSpecifier_shortest {source target : Path} {name : String}
    (hsource : source.OnlyNames) (htarget : target.OnlyNames) (hname : Path.IsName name) :
    PointsTo (importSpecifier source target name) source target name := by
  obtain ⟨hinside, haside⟩ := importSpecifier_start source target name
  refine ⟨?_, hinside, haside⟩
  obtain ⟨shared, before, behind, hstart, hgoal, hlen, hbehind⟩ := exists_turn hsource htarget
  have hnames : ∀ s ∈ behind ++ [name], Path.IsName s := by
    intro s hs
    rcases List.mem_append.mp hs with hs | hs
    · exact hbehind s hs
    · exact List.mem_singleton.mp hs ▸ hname
  have hplace : (behind ++ [name]).map Component.name
      = behind.map Component.name ++ [.name name] := by
    rw [List.map_append, List.map_singleton]
  have hlength : source.components.length = shared.length + before.length := by
    rw [hstart, List.length_append, List.length_map]
  have hups := upCount_turnWay before hnames
  have hdowns := downCount_turnWay before hnames
  rw [pieces_importSpecifier hstart hgoal hlen hnames]
  refine ⟨?arrives, ?turns, ?shortest⟩
  case arrives =>
    have hwalk := walk?_turnWay before hnames shared
    rwa [hplace, ← List.append_assoc, ← hstart, ← hgoal] at hwalk
  case turns =>
    have hwalk := walk?_turnWay before hnames []
    rw [hplace] at hwalk
    refine ⟨shared, _, _, hstart, hgoal, ⟨⟨_, hstart.symm⟩, ⟨_, hgoal.symm⟩, ?_⟩, hwalk, ?_⟩
    · intro other hs hg
      exact hlen ▸ le_commonLength hs hg
    · rw [hups, hlength, Nat.add_sub_cancel_left]
  case shortest =>
    intro other hother
    obtain ⟨hup, hdown⟩ := le_steps_of_walk? hother
    have hgoalLength : target.components.length = shared.length + behind.length := by
      rw [hgoal, List.length_append, List.length_map]
    have hmore : upCount other ≤ upCount (other ++ [name.toList]) := by
      rw [upCount, upCount, List.count_append]
      exact Nat.le_add_right _ _
    have hlast : downCount (other ++ [name.toList]) = downCount other + 1 := by
      rw [downCount, List.countP_append, List.countP_singleton, if_pos hname.stepsDown]
      rfl
    rw [hups, hdowns, hlast, List.length_append, List.length_singleton]
    omega

/-- From a directory spelled with fillers up to the model's own, and down to its entity. -/
theorem dtos_point_to_entity :
    (⟨"user//dto/./input"⟩ : Path).OnlyNames ∧ (⟨"user/./entities"⟩ : Path).OnlyNames ∧
      Path.IsName "user.entity" ∧
      PointsTo "../../entities/user.entity" ⟨"user//dto/./input"⟩ ⟨"user/./entities"⟩
        "user.entity" := by
  have hsource : (⟨"user//dto/./input"⟩ : Path).OnlyNames :=
    Path.onlyNames_of_eq ["user", "dto", "input"] (by decide +kernel)
  have htarget : (⟨"user/./entities"⟩ : Path).OnlyNames :=
    Path.onlyNames_of_eq ["user", "entities"] (by decide +kernel)
  have hname : Path.IsName "user.entity" := by constructor <;> decide
  have hspecifier : importSpecifier ⟨"user//dto/./input"⟩ ⟨"user/./entities"⟩ "user.entity"
      = "../../entities/user.entity" := by decide +kernel
  exact ⟨hsource, htarget, hname, hspecifier ▸ importSpecifier_shortest hsource htarget hname⟩

end DtoGen

import DtoGen.FileSpec

namespace DtoGen.Path

/-- The components of pieces that stand behind the lead of a path. -/
def steps (body : List (List Char)) : List Component :=
  (body.filter fun piece => !isFiller piece).map pieceComponent

/-- What the first letters say about where a path starts. -/
def lead : List Char → List Component
  | '/' :: _ => [.root]
  | ['.'] => [.here]
  | '.' :: '/' :: _ => [.here]
  | _ => []

theorem pieces_cons (c : Char) (cs : List Char) :
    pieces (c :: cs) = if c = '/' then [] :: pieces cs
      else (c :: (pieces cs).headD []) :: (pieces cs).tail := by
  rw [pieces]
  split
  · rfl
  · cases pieces cs <;> rfl

theorem pieces_ne_nil (cs : List Char) : pieces cs ≠ [] := by
  cases cs with
  | nil => simp [pieces]
  | cons c cs =>
    rw [pieces_cons]
    split <;> simp

theorem pieces_append_slash (a b : List Char) :
    pieces (a ++ '/' :: b) = pieces a ++ pieces b := by
  induction a with
  | nil => simp [pieces]
  | cons c a ih =>
    rw [List.cons_append, pieces_cons, pieces_cons, ih]
    split
    · rfl
    · cases h : pieces a with
      | nil => exact absurd h (pieces_ne_nil a)
      | cons x xs => rfl

/-- A text without slashes is one piece. -/
theorem pieces_of_no_slash {cs : List Char} (h : '/' ∉ cs) : pieces cs = [cs] := by
  induction cs with
  | nil => rfl
  | cons c cs ih =>
    obtain ⟨hc, hcs⟩ : '/' ≠ c ∧ '/' ∉ cs := by simpa using h
    rw [pieces_cons, if_neg (Ne.symm hc), ih hcs]
    rfl

/-- What stands behind the last slash belongs to the last piece. -/
theorem pieces_append_end (u : List Char) {v : List Char} (hv : '/' ∉ v) :
    ∃ front rest, front ⊆ u ∧ pieces (u ++ v) = rest ++ [front ++ v] := by
  induction u with
  | nil => exact ⟨[], [], List.Subset.refl [], pieces_of_no_slash hv⟩
  | cons c u ih =>
    obtain ⟨front, rest, hin, hu⟩ := ih
    have hbehind := List.subset_cons_of_subset c hin
    rw [List.cons_append, pieces_cons, hu]
    split
    · exact ⟨front, [] :: rest, hbehind, rfl⟩
    · cases rest with
      | nil => exact ⟨c :: front, [], List.cons_subset_cons c hin, rfl⟩
      | cons piece rest => exact ⟨front, (c :: piece) :: rest, hbehind, rfl⟩

/-- What stands before the first slash belongs to the first piece. -/
theorem pieces_append_start {u : List Char} (hu : '/' ∉ u) (v : List Char) :
    ∃ behind rest, pieces (u ++ v) = (u ++ behind) :: rest := by
  induction u with
  | nil =>
    obtain ⟨piece, rest, hv⟩ := List.exists_cons_of_ne_nil (pieces_ne_nil v)
    exact ⟨piece, rest, hv⟩
  | cons c u ih =>
    obtain ⟨hc, hu⟩ : '/' ≠ c ∧ '/' ∉ u := by simpa using hu
    obtain ⟨behind, rest, hpieces⟩ := ih hu
    refine ⟨behind, rest, ?_⟩
    rw [List.cons_append, pieces_cons, if_neg (Ne.symm hc), hpieces]
    rfl

theorem slash_not_mem_piece {cs piece : List Char} (h : piece ∈ pieces cs) : '/' ∉ piece := by
  induction cs generalizing piece with
  | nil => simp_all [pieces]
  | cons c cs ih =>
    rw [pieces_cons] at h
    split at h
    · rcases List.mem_cons.mp h with rfl | h
      · simp
      · exact ih h
    · rename_i hc
      cases hp : pieces cs with
      | nil => exact absurd hp (pieces_ne_nil cs)
      | cons x xs =>
        rw [hp] at h
        rcases List.mem_cons.mp h with rfl | h
        · have hx := ih (by rw [hp]; exact List.mem_cons_self)
          simpa [Ne.symm hc] using hx
        · exact ih (by rw [hp]; exact List.mem_cons_of_mem _ h)

theorem joinPieces_cons_cons (p q : List Char) (ps : List (List Char)) :
    joinPieces (p :: q :: ps) = p ++ '/' :: joinPieces (q :: ps) := by
  simp [joinPieces, List.intercalate_cons_cons]

/-- Pieces without slashes are found again between the slashes of their join. -/
theorem pieces_joinPieces {ps : List (List Char)} (hne : ps ≠ []) (h : ∀ p ∈ ps, '/' ∉ p) :
    pieces (joinPieces ps) = ps := by
  induction ps with
  | nil => exact absurd rfl hne
  | cons p ps ih =>
    have hp := h p List.mem_cons_self
    cases ps with
    | nil => simpa [joinPieces] using pieces_of_no_slash hp
    | cons q qs =>
      have htail := ih (by simp) (fun x hx => h x (List.mem_cons_of_mem _ hx))
      rw [joinPieces_cons_cons, pieces_append_slash, htail, pieces_of_no_slash hp]
      rfl

@[simp] theorem steps_nil : steps [] = [] := rfl

@[simp] theorem steps_append (a b : List (List Char)) : steps (a ++ b) = steps a ++ steps b := by
  simp [steps]

theorem steps_cons_filler {piece : List Char} (h : isFiller piece = true)
    (body : List (List Char)) : steps (piece :: body) = steps body := by
  simp [steps, h]

theorem steps_singleton {piece : List Char} (h : isFiller piece = false) :
    steps [piece] = [pieceComponent piece] := by
  simp [steps, h]

theorem steps_eq_nil {body : List (List Char)} (h : ∀ piece ∈ body, isFiller piece = true) :
    steps body = [] := by
  have hf : (body.filter fun piece => !isFiller piece) = [] := by
    apply List.filter_eq_nil_iff.mpr
    intro piece hp
    simp [h piece hp]
  simp [steps, hf]

theorem parts_components (cs : List Char) :
    headComponents (parts cs).1 = lead cs ∧ steps (parts cs).2 = steps (pieces cs) := by
  unfold parts
  split
  · exact ⟨rfl, rfl⟩
  · exact ⟨rfl, rfl⟩
  · exact ⟨rfl, rfl⟩
  · rename_i h1 h2 h3
    refine ⟨?_, rfl⟩
    unfold lead
    split
    · exact absurd rfl (h1 _)
    · exact absurd rfl h2
    · exact absurd rfl (h3 _)
    · rfl

/-- The lead and the names behind it give all components. -/
theorem components_eq (p : Path) :
    p.components = lead p.text.toList ++ steps (pieces p.text.toList) := by
  obtain ⟨hl, hs⟩ := parts_components p.text.toList
  rw [← hl, ← hs]
  rfl

theorem lead_cons {c : Char} (hs : c ≠ '/') (hd : c ≠ '.') (cs : List Char) :
    lead (c :: cs) = [] := by
  simp [lead, hs, hd]

theorem lead_dot_cons {c : Char} (hs : c ≠ '/') (cs : List Char) :
    lead ('.' :: c :: cs) = [] := by
  simp [lead, hs]

/-- A text that goes on behind a slash starts as it did. -/
theorem lead_append {a : List Char} (hne : a ≠ []) (b : List Char)
    (h : a.getLast? = some '/' ∨ b.head? = some '/') : lead (a ++ b) = lead a := by
  cases a with
  | nil => exact absurd rfl hne
  | cons c a =>
    by_cases hs : c = '/'
    · subst c; rfl
    by_cases hd : c = '.'
    · subst c
      cases a with
      | nil =>
        cases b with
        | nil => rfl
        | cons d b =>
          have hd : d = '/' := by simpa using h
          subst d
          rfl
      | cons d a =>
        by_cases he : d = '/'
        · subst d; rfl
        · simp only [List.cons_append, lead_dot_cons he]
    · simp only [List.cons_append, lead_cons hs hd]

theorem steps_pieces_append {a : List Char} (b : List Char) (h : a.getLast? = some '/') :
    steps (pieces (a ++ b)) = steps (pieces a) ++ steps (pieces b) := by
  obtain ⟨a, rfl⟩ := List.getLast?_eq_some_iff.mp h
  have hend : steps (pieces (a ++ ['/'])) = steps (pieces a) := by
    rw [pieces_append_slash, steps_append]
    simp [pieces, steps, isFiller]
  rw [hend, List.append_assoc, List.singleton_append, pieces_append_slash, steps_append]

/-- Joining puts the names of a relative path behind the components of the directory. -/
theorem components_join {p : Path} (q : Path) (hp : p.text ≠ "") (hq : q.isAbsolute = false) :
    (p / q).components = p.components ++ steps (pieces q.text.toList) := by
  have hne : p.text.toList ≠ [] := fun h => hp (String.toList_inj.mp h)
  change (join p q).components = _
  unfold join
  simp only [hq, Bool.false_or, String.isEmpty_iff, hp, ↓reduceIte]
  split
  · rename_i hend
    rw [components_eq, components_eq p, String.toList_append, lead_append hne _ (.inl hend),
      steps_pieces_append _ hend, List.append_assoc]
  · rw [components_eq, components_eq p, String.toList_append, String.toList_append]
    have hmark : "/".toList = ['/'] := rfl
    rw [hmark, List.append_assoc, List.singleton_append, lead_append hne _ (.inr rfl),
      pieces_append_slash, steps_append, List.append_assoc]

theorem join_empty (q : Path) : (⟨""⟩ / q : Path) = q := by
  change join ⟨""⟩ q = q
  simp [join]

/-- Behind an absolute path nothing is left of the directory. -/
theorem join_absolute (p : Path) {q : Path} (hq : q.isAbsolute = true) : p / q = q := by
  change join p q = q
  simp [join, hq]

/-- A path with no lead gives its components to any directory. -/
theorem components_join_names (p : Path) {q : Path} (hq : lead q.text.toList = []) :
    (p / q).components = p.components ++ q.components := by
  have habs : q.isAbsolute = false := by
    cases hc : q.text.toList with
    | nil => simp [isAbsolute, hc]
    | cons c cs =>
      have hs : c ≠ '/' := by rintro rfl; simp [hc, lead] at hq
      simp [isAbsolute, hc, hs]
  rw [components_eq q, hq, List.nil_append]
  by_cases hp : p.text = ""
  · obtain ⟨text⟩ := p
    subst hp
    rw [join_empty, components_eq, hq]
    rfl
  · exact components_join q hp habs

theorem lead_of_no_slash {cs : List Char} (hslash : '/' ∉ cs) (hdot : cs ≠ ['.']) :
    lead cs = [] := by
  match cs with
  | [] => rfl
  | [c] => exact lead_cons (by rintro rfl; simp at hslash) (by rintro rfl; simp at hdot) []
  | c :: d :: cs =>
    have hs : c ≠ '/' := by rintro rfl; simp at hslash
    by_cases hd : c = '.'
    · subst c
      exact lead_dot_cons (by rintro rfl; simp at hslash) cs
    · exact lead_cons hs hd _

/-- A text that can stand as one component: it has no slash, and it is no filler and no `..`. -/
structure IsName (s : String) : Prop where
  noSlash : '/' ∉ s.toList
  notEmpty : s ≠ ""
  notHere : s ≠ "."
  notUp : s ≠ ".."

theorem IsName.not_filler {s : String} (h : IsName s) : isFiller s.toList = false := by
  have he : s.toList ≠ [] := fun hs => h.notEmpty (String.toList_inj.mp hs)
  have hd : s.toList ≠ ['.'] := fun hs => h.notHere (String.toList_inj.mp hs)
  simp [isFiller, he, hd]

theorem IsName.lead {s : String} (h : IsName s) : lead s.toList = [] :=
  lead_of_no_slash h.noSlash fun hs => h.notHere (String.toList_inj.mp hs)

theorem IsName.steps {s : String} (h : IsName s) : steps (pieces s.toList) = [.name s] := by
  have hu : s.toList ≠ ['.', '.'] := fun hs => h.notUp (String.toList_inj.mp hs)
  rw [pieces_of_no_slash h.noSlash, steps_singleton h.not_filler, pieceComponent, if_neg hu,
    String.ofList_toList]

theorem IsName.components {s : String} (h : IsName s) : (⟨s⟩ : Path).components = [.name s] := by
  rw [components_eq, h.lead, h.steps]
  rfl

theorem pieceComponent_of_long {piece : List Char} (h : 2 < piece.length) :
    isFiller piece = false ∧ pieceComponent piece = .name (String.ofList piece) := by
  have hne : ∀ short : List Char, short.length ≤ 2 → piece ≠ short := by
    rintro short hshort rfl
    omega
  refine ⟨?_, if_neg (hne _ (by decide))⟩
  simp [isFiller, hne [] (by decide), hne ['.'] (by decide)]

/-- The last piece, when it is no filler, is the last component. -/
theorem components_getLast? {p : Path} {piece : List Char}
    (hpiece : (pieces p.text.toList).getLast? = some piece) (hcounts : isFiller piece = false) :
    p.components.getLast? = some (pieceComponent piece) := by
  obtain ⟨rest, hpieces⟩ := List.getLast?_eq_some_iff.mp hpiece
  rw [components_eq, hpieces, steps_append, steps_singleton hcounts, ← List.append_assoc,
    List.getLast?_concat]

/-- The last piece, when it is long, is the name of the last component. -/
theorem last_component {p : Path} {piece : List Char}
    (hpiece : (pieces p.text.toList).getLast? = some piece) (hlong : 2 < piece.length) :
    p.components.getLast? = some (.name (String.ofList piece)) := by
  obtain ⟨hcounts, hname⟩ := pieceComponent_of_long hlong
  rw [components_getLast? hpiece hcounts, hname]

/-- A start without slashes and dots starts the name of the first component. -/
theorem first_component {p : Path} {u v : List Char} (hp : p.text.toList = u ++ v) (hu : '/' ∉ u)
    (hdot : '.' ∉ u) (hne : u ≠ []) :
    lead p.text.toList = [] ∧
      ∃ behind, p.components.head? = some (.name (String.ofList (u ++ behind))) := by
  obtain ⟨behind, rest, hpieces⟩ := pieces_append_start hu v
  obtain ⟨c, cs, rfl⟩ := List.exists_cons_of_ne_nil hne
  have hslash : c ≠ '/' := by rintro rfl; simp at hu
  have hhere : c ≠ '.' := by rintro rfl; simp at hdot
  have hlead : lead p.text.toList = [] := by
    rw [hp]
    exact lead_cons hslash hhere _
  have hcounts : isFiller (c :: (cs ++ behind)) = false := by simp [isFiller, hhere]
  have hname : pieceComponent (c :: (cs ++ behind)) = .name (String.ofList (c :: (cs ++ behind))) :=
    if_neg fun h => hhere (List.cons.inj h).1
  refine ⟨hlead, behind, ?_⟩
  rw [components_eq, hlead, hp, hpieces]
  simp [steps, hcounts, hname]

/-- Behind the lead of a path there are only steps up and names. -/
theorem mem_steps {body : List (List Char)} {component : Component} (h : component ∈ steps body) :
    component = .up ∨ ∃ name, component = .name name := by
  obtain ⟨piece, _, rfl⟩ := List.mem_map.mp h
  unfold pieceComponent
  split
  · exact .inl rfl
  · exact .inr ⟨_, rfl⟩

theorem isAbsolute_iff {p : Path} : p.isAbsolute = true ↔ lead p.text.toList = [.root] := by
  rw [isAbsolute]
  cases p.text.toList with
  | nil => simp [lead]
  | cons c cs =>
    by_cases hc : c = '/'
    · subst hc
      simp [lead]
    · have hlead : lead (c :: cs) ≠ [.root] := by
        unfold lead
        split <;> simp_all
      simp [hc, hlead]

theorem lead_of_relative {p : Path} (h : p.isAbsolute = false) :
    lead p.text.toList = [] ∨ lead p.text.toList = [.here] := by
  have hroot : lead p.text.toList ≠ [.root] := fun hl => by simp [isAbsolute_iff.mpr hl] at h
  unfold lead at hroot ⊢
  split at hroot <;> simp_all

theorem mem_tail_components {p : Path} {component : Component} (h : component ∈ p.components.tail) :
    component = .up ∨ ∃ name, component = .name name := by
  rw [components_eq] at h
  have hlead : (lead p.text.toList).tail = [] := by
    unfold lead
    split <;> rfl
  suffices hsteps : component ∈ steps (pieces p.text.toList) from mem_steps hsteps
  cases hl : lead p.text.toList with
  | nil =>
    rw [hl] at h
    exact List.mem_of_mem_tail h
  | cons first rest =>
    rw [hl] at h hlead
    obtain rfl : rest = [] := hlead
    exact h

theorem dropFillersEnd_eq (body : List (List Char)) :
    ∃ fillers, dropFillersEnd body ++ fillers = body ∧
      ∀ piece ∈ fillers, isFiller piece = true := by
  refine ⟨(body.reverse.takeWhile isFiller).reverse, ?_, ?_⟩
  · rw [dropFillersEnd, ← List.reverse_append, List.takeWhile_append_dropWhile,
      List.reverse_reverse]
  · intro piece hp
    have hall : (body.reverse.takeWhile isFiller).all isFiller = true := List.all_takeWhile
    exact List.all_eq_true.mp hall piece (List.mem_reverse.mp hp)

theorem dropFillersEnd_isPrefix (body : List (List Char)) : dropFillersEnd body <+: body := by
  obtain ⟨fillers, he, _⟩ := dropFillersEnd_eq body
  exact ⟨fillers, he⟩

theorem steps_dropFillersEnd (body : List (List Char)) :
    steps (dropFillersEnd body) = steps body := by
  obtain ⟨fillers, he, hf⟩ := dropFillersEnd_eq body
  have hs : steps body = steps (dropFillersEnd body ++ fillers) := congrArg steps he.symm
  rw [hs, steps_append, steps_eq_nil hf, List.append_nil]

/-- What is left ends with a piece that counts. -/
theorem dropFillersEnd_last {body : List (List Char)} {piece : List Char}
    (h : (dropFillersEnd body).getLast? = some piece) : isFiller piece = false := by
  rw [dropFillersEnd, List.getLast?_reverse] at h
  have := List.head?_dropWhile_not isFiller body.reverse
  rw [h] at this
  simpa using this

theorem steps_eq_concat {body : List (List Char)} (h : dropFillersEnd body ≠ []) :
    steps body = steps (dropFillersEnd body).dropLast ++
      [pieceComponent ((dropFillersEnd body).getLast h)] := by
  have hlast := List.getLast?_eq_some_getLast h
  rw [← steps_dropFillersEnd body, ← steps_singleton (dropFillersEnd_last hlast),
    ← steps_append, List.dropLast_concat_getLast h]

/-- The pieces that spell the parent, when there is one. -/
def parentPieces (body : List (List Char)) : List (List Char) :=
  dropFillersEnd (dropFillersEnd body).dropLast

theorem steps_parentPieces {body : List (List Char)} (h : dropFillersEnd body ≠ []) :
    steps (parentPieces body) = (steps body).dropLast := by
  rw [parentPieces, steps_dropFillersEnd, steps_eq_concat h, List.dropLast_concat]

theorem parentPieces_isPrefix (body : List (List Char)) : parentPieces body <+: body :=
  (dropFillersEnd_isPrefix _).trans ((List.dropLast_prefix _).trans (dropFillersEnd_isPrefix _))

theorem joinPieces_append {ps rest : List (List Char)} (hp : ps ≠ []) (hr : rest ≠ []) :
    joinPieces (ps ++ rest) = joinPieces ps ++ '/' :: joinPieces rest := by
  induction ps with
  | nil => exact absurd rfl hp
  | cons p ps ih =>
    cases ps with
    | nil =>
      cases rest with
      | nil => exact absurd rfl hr
      | cons q rest => simp [joinPieces, List.intercalate_singleton]
    | cons q ps =>
      rw [List.cons_append, List.cons_append, joinPieces_cons_cons, joinPieces_cons_cons,
        ← List.cons_append, ih (by simp), List.append_assoc, List.cons_append]

theorem joinPieces_pieces (cs : List Char) : joinPieces (pieces cs) = cs := by
  induction cs with
  | nil => rfl
  | cons c cs ih =>
    obtain ⟨p, ps, hp⟩ := List.exists_cons_of_ne_nil (pieces_ne_nil cs)
    rw [hp] at ih
    rw [pieces_cons, hp]
    split
    · rename_i hc
      rw [joinPieces_cons_cons, ih, hc, List.nil_append]
    · cases ps with
      | nil => simpa [joinPieces, List.intercalate_singleton] using ih
      | cons q ps =>
        rw [joinPieces_cons_cons] at ih
        rw [List.headD_cons, List.tail_cons, joinPieces_cons_cons, List.cons_append, ih]

/-- Head and pieces spell the text again. -/
theorem parts_join (cs : List Char) : (parts cs).1 ++ joinPieces (parts cs).2 = cs := by
  unfold parts
  split
  · simp [joinPieces_pieces]
  · rfl
  · simp [joinPieces_pieces]
  · simp [joinPieces_pieces]

theorem slash_not_mem_parts {cs piece : List Char} (h : piece ∈ (parts cs).2) : '/' ∉ piece := by
  unfold parts at h
  split at h
  · exact slash_not_mem_piece h
  · cases h
  · exact slash_not_mem_piece h
  · exact slash_not_mem_piece h

theorem steps_pieces_joinPieces {ps : List (List Char)} (h : ∀ p ∈ ps, '/' ∉ p) :
    steps (pieces (joinPieces ps)) = steps ps := by
  by_cases hne : ps = []
  · subst ps
    rfl
  · rw [pieces_joinPieces hne h]

/-- The text of some of the first pieces starts where the whole text does. -/
theorem lead_head_joinPieces {cs : List Char} {ps : List (List Char)} (hp : ps <+: (parts cs).2)
    (hne : (parts cs).1 ++ joinPieces ps ≠ []) :
    lead ((parts cs).1 ++ joinPieces ps) = lead cs := by
  obtain ⟨rest, hr⟩ := hp
  have hcs := parts_join cs
  by_cases hrest : rest = []
  · rw [← hr, hrest, List.append_nil] at hcs
    rw [hcs]
  by_cases hps : ps = []
  · subst ps
    simp only [joinPieces, List.intercalate_nil, List.append_nil] at hne ⊢
    unfold parts at hne ⊢
    split
    · rfl
    · rfl
    · rfl
    · simp at hne
  · rw [← hr, joinPieces_append hps hrest, ← List.append_assoc] at hcs
    rw [← hcs, lead_append hne _ (.inr rfl), hcs]

/-- Behind the head, some of the first pieces are found again, unless they end with a filler. -/
theorem steps_head_joinPieces {cs : List Char} {ps : List (List Char)} (hp : ps <+: (parts cs).2)
    (hlast : ∀ piece, ps.getLast? = some piece → isFiller piece = false) :
    steps (pieces ((parts cs).1 ++ joinPieces ps)) = steps ps := by
  have hs : ∀ p ∈ ps, '/' ∉ p := fun p hm => slash_not_mem_parts (hp.subset hm)
  unfold parts at hp ⊢
  split
  · rename_i cs
    change steps ([] :: pieces (joinPieces ps)) = steps ps
    rw [steps_cons_filler rfl, steps_pieces_joinPieces hs]
  · have : ps = [] := List.prefix_nil.mp hp
    subst ps
    rfl
  · rename_i cs
    cases ps with
    | nil => rfl
    | cons p qs =>
      obtain rfl : p = [] := (List.cons_prefix_cons.mp hp).1
      cases qs with
      | nil => simp [isFiller] at hlast
      | cons q qs =>
        have htail := steps_pieces_joinPieces fun p hm => hs p (List.mem_cons_of_mem _ hm)
        have hempty : isFiller [] = true := rfl
        rw [joinPieces_cons_cons, List.nil_append, pieces_append_slash, steps_append, htail,
          steps_cons_filler hempty]
        rfl
  · exact steps_pieces_joinPieces hs

theorem parent?_text {p q : Path} (h : p.parent? = some q) :
    q.text = "" ∧ (parts p.text.toList).1 = ['.'] ∧ dropFillersEnd (parts p.text.toList).2 = [] ∨
    q.text.toList = (parts p.text.toList).1 ++ joinPieces (parentPieces (parts p.text.toList).2) ∧
      dropFillersEnd (parts p.text.toList).2 ≠ [] := by
  simp only [parent?] at h
  split at h
  · rename_i hd
    split at h
    · rename_i hh
      cases h
      exact .inl ⟨rfl, hh, hd⟩
    · cases h
  · rename_i hd
    cases h
    exact .inr ⟨String.toList_ofList, hd⟩

theorem parent?_eq_none {p : Path} (h : p.parent? = none) :
    (parts p.text.toList).1 ≠ ['.'] ∧ dropFillersEnd (parts p.text.toList).2 = [] := by
  simp only [parent?] at h
  split at h
  · rename_i hd
    split at h
    · cases h
    · rename_i hh
      exact ⟨hh, hd⟩
  · cases h

/-- A parent that is spelled at all starts as the path does. -/
theorem lead_parent {p q : Path} (h : p.parent? = some q) (hne : q.text ≠ "") :
    lead q.text.toList = lead p.text.toList := by
  rcases parent?_text h with ⟨ht, _, _⟩ | ⟨ht, _⟩
  · exact absurd ht hne
  · have he : q.text.toList ≠ [] := fun hs => hne (String.toList_inj.mp hs)
    rw [ht] at he ⊢
    exact lead_head_joinPieces (parentPieces_isPrefix _) he

theorem dropLast_headComponents (head : List Char) : (headComponents head).dropLast = [] := by
  unfold headComponents
  split <;> rfl

/-- A parent lacks the last component and nothing else. A root and a bare name have the empty
path. -/
theorem components_parentOrEmpty (p : Path) :
    p.parentOrEmpty.components = p.components.dropLast := by
  have hc := components_eq p
  obtain ⟨hl, hs⟩ := parts_components p.text.toList
  have hnothing (hd : dropFillersEnd (parts p.text.toList).2 = []) :
      p.components.dropLast = [] := by
    rw [hc, ← hl, ← hs, ← steps_dropFillersEnd, hd, steps_nil, List.append_nil,
      dropLast_headComponents]
  unfold parentOrEmpty
  cases hq : p.parent? with
  | none => rw [hnothing (parent?_eq_none hq).2]; rfl
  | some q =>
    rcases parent?_text hq with ⟨ht, _, hd⟩ | ⟨ht, hd⟩
    · rw [hnothing hd, Option.getD_some, components_eq, ht]
      rfl
    · have hpre := parentPieces_isPrefix (parts p.text.toList).2
      have hne : steps (pieces p.text.toList) ≠ [] := by
        rw [← hs, steps_eq_concat hd]
        simp
      have hlead : lead q.text.toList = lead p.text.toList := by
        by_cases he : q.text = ""
        · have hh : (parts p.text.toList).1 = [] := by
            rw [he] at ht
            exact (List.append_eq_nil_iff.mp ht.symm).1
          rw [he, ← hl, hh]
          rfl
        · exact lead_parent hq he
      have hsteps : steps (pieces q.text.toList) = (steps (pieces p.text.toList)).dropLast := by
        rw [ht, steps_head_joinPieces hpre fun piece => dropFillersEnd_last, ← hs,
          steps_parentPieces hd]
      rw [Option.getD_some, components_eq, hlead, hsteps, hc, List.dropLast_append_of_ne_nil hne]

theorem joinPieces_prefix {ps body : List (List Char)} (h : ps <+: body) :
    joinPieces ps <+: joinPieces body := by
  obtain ⟨rest, rfl⟩ := h
  by_cases hrest : rest = []
  · simp only [hrest, List.append_nil, List.prefix_rfl]
  by_cases hps : ps = []
  · rw [hps]
    exact List.nil_prefix
  · rw [joinPieces_append hps hrest]
    exact List.prefix_append _ _

/-- A parent is spelled as the path is, up to where it ends. -/
theorem parent?_prefix {p q : Path} (h : p.parent? = some q) :
    q.text.toList <+: p.text.toList := by
  rcases parent?_text h with ⟨htext, _, _⟩ | ⟨htext, _⟩
  · rw [htext]
    exact List.nil_prefix
  · obtain ⟨rest, hrest⟩ := joinPieces_prefix (parentPieces_isPrefix (parts p.text.toList).2)
    exact ⟨rest, by rw [htext, List.append_assoc, hrest, parts_join]⟩

/-- What has a file name has a parent, and the name is all that the parent lacks. -/
theorem exists_parent {p : Path} {name : String} (h : p.fileName? = some name) :
    ∃ parent, p.parent? = some parent ∧ p.components = parent.components ++ [.name name] := by
  have hlast : p.components.getLast? = some (.name name) := by
    unfold fileName? at h
    split at h
    · rename_i hname
      rw [hname, Option.some.inj h]
    · cases h
  have hcomponents := components_parentOrEmpty p
  cases hp : p.parent? with
  | none =>
    obtain ⟨hl, hs⟩ := parts_components p.text.toList
    rw [components_eq, ← hs, ← steps_dropFillersEnd, (parent?_eq_none hp).2, steps_nil,
      List.append_nil] at hlast
    unfold lead at hlast
    split at hlast <;> simp at hlast
  | some parent =>
    rw [parentOrEmpty, hp, Option.getD_some] at hcomponents
    obtain ⟨front, hfront⟩ := List.getLast?_eq_some_iff.mp hlast
    refine ⟨parent, rfl, ?_⟩
    rw [hcomponents, hfront, List.dropLast_concat]

instance : Std.TransCmp compareTo where
  eq_swap := Std.OrientedOrd.eq_swap
  isLE_trans := Std.TransOrd.isLE_trans

theorem isLE_total (p q : Path) : ((p.compareTo q).isLE || (q.compareTo p).isLE) = true := by
  have hswap : p.compareTo q = (q.compareTo p).swap := Std.OrientedCmp.eq_swap
  rw [hswap]
  cases q.compareTo p <;> rfl

theorem rank_injective {a b : Component} (h : rank a = rank b) : a = b := by
  cases a <;> cases b
  case name.name text other =>
    have hcodes : text.toList.map Char.toNat = other.toList.map Char.toNat := (List.cons.inj h).2
    have hletters := (List.map_inj_right fun _ _ => Char.toNat_inj.mp).mp hcodes
    rw [String.toList_inj.mp hletters]
  all_goals simp_all [rank]

/-- What the order does not tell apart are the spellings of one place. -/
theorem compareTo_eq_iff {p q : Path} : p.compareTo q = .eq ↔ p.components = q.components := by
  unfold compareTo sortKey
  rw [Std.LawfulEqOrd.compare_eq_iff_eq]
  exact List.map_inj_right fun _ _ => rank_injective

theorem sorted_perm (paths : List Path) : (sorted paths).Perm paths :=
  List.mergeSort_perm _ _

theorem sorted_pairwise (paths : List Path) :
    (sorted paths).Pairwise fun p q => (p.compareTo q).isLE = true :=
  List.pairwise_mergeSort (fun _ _ _ => Std.TransCmp.isLE_trans) isLE_total paths

end DtoGen.Path

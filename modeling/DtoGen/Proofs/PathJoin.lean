import DtoGen.Proofs.PathComponents

namespace DtoGen

namespace Path

/-- A name with an extension, or any other text of more than two letters behind it. -/
theorem isName_append {a b : String} (ha : '/' ∉ a.toList) (hb : '/' ∉ b.toList)
    (hlong : 2 < b.length) : IsName (a ++ b) := by
  have hlen : 2 < (a ++ b).length := by
    rw [String.length_append]
    omega
  refine ⟨?_, ?_, ?_, ?_⟩
  · rw [String.toList_append, List.mem_append]
    exact not_or.mpr ⟨ha, hb⟩
  all_goals
    intro h
    rw [h] at hlen
    exact absurd hlen (by decide)

theorem join_text {p : Path} (q : Path) (hp : p.text ≠ "") (hq : q.isAbsolute = false) :
    (p / q).text = p.text ++ (if p.text.toList.getLast? = some '/' then "" else "/") ++ q.text := by
  change (join p q).text = _
  unfold join
  simp only [hq, Bool.false_or, String.isEmpty_iff, hp, ↓reduceIte]
  split <;> simp

theorem lead_join {p : Path} (q : Path) (hp : p.text ≠ "") (hq : q.isAbsolute = false) :
    lead (p / q).text.toList = lead p.text.toList := by
  have hne : p.text.toList ≠ [] := fun h => hp (String.toList_inj.mp h)
  rw [join_text q hp hq, String.append_assoc, String.toList_append]
  split
  · rename_i hend
    exact lead_append hne _ (.inl hend)
  · exact lead_append hne _ (.inr (by simp))

theorem not_absolute_of_noSlash {s : String} (h : '/' ∉ s.toList) :
    (⟨s⟩ : Path).isAbsolute = false := by
  unfold isAbsolute
  cases hs : s.toList with
  | nil => rfl
  | cons c cs =>
    have hne : c ≠ '/' := by rintro rfl; simp [hs] at h
    simp [hne]

theorem head?_append_left {a : List Char} (h : a ≠ []) (b : List Char) :
    (a ++ b).head? = a.head? := by
  cases a with
  | nil => exact absurd rfl h
  | cons c a => rfl

/-- What stands behind the last joined part can be joined with it or put behind it. -/
theorem join_append (p : Path) {a : String} (b : String) (ha : a ≠ "") :
    p / ⟨a ++ b⟩ = ⟨(p / (⟨a⟩ : Path)).text ++ b⟩ := by
  have hne : a.toList ≠ [] := fun h => ha (String.toList_inj.mp h)
  have habs : (⟨a ++ b⟩ : Path).isAbsolute = (⟨a⟩ : Path).isAbsolute := by
    rw [isAbsolute, String.toList_append, head?_append_left hne, isAbsolute]
  cases hq : (⟨a⟩ : Path).isAbsolute with
  | true => rw [join_absolute p hq, join_absolute p (habs.trans hq)]
  | false =>
    obtain ⟨text⟩ := p
    by_cases hp : text = ""
    · subst hp
      rw [join_empty, join_empty]
    · have hleft := join_text ⟨a ++ b⟩ (p := ⟨text⟩) hp (habs.trans hq)
      have hright := join_text ⟨a⟩ (p := ⟨text⟩) hp hq
      rw [← String.append_assoc, ← hright] at hleft
      exact congrArg Path.mk hleft

theorem isAbsolute_join {p q : Path} (hp : p.text ≠ "") (hq : q.isAbsolute = false) :
    (p / q).isAbsolute = p.isAbsolute := by
  have hne : p.text.toList ≠ [] := fun h => hp (String.toList_inj.mp h)
  rw [isAbsolute, join_text q hp hq, String.append_assoc, String.toList_append,
    head?_append_left hne, isAbsolute]

/-- An empty part adds a slash at most, and that one counts for nothing. -/
theorem join_empty_join (p : Path) {r : Path} (hr : r.isAbsolute = false) :
    p / ⟨""⟩ / r = p / r := by
  obtain ⟨text⟩ := p
  by_cases hp : text = ""
  · subst hp
    rw [join_empty]
  have hempty := join_text ⟨""⟩ (p := ⟨text⟩) hp rfl
  have hne : (⟨text⟩ / ⟨""⟩ : Path).text ≠ "" := by
    rw [hempty]
    simp [hp]
  have hlast : (⟨text⟩ / ⟨""⟩ : Path).text.toList.getLast? = some '/' := by
    rw [hempty]
    split
    · rename_i hend
      simpa using hend
    · simp
  have hleft := join_text r hne hr
  have hright := join_text r (p := ⟨text⟩) hp hr
  rw [if_pos hlast, hempty] at hleft
  refine congrArg Path.mk (hleft.trans (Eq.trans ?_ hright.symm))
  simp only [String.append_empty]

theorem join_assoc (p q r : Path) : p / q / r = p / (q / r) := by
  cases hr : r.isAbsolute with
  | true => rw [join_absolute _ hr, join_absolute _ hr, join_absolute _ hr]
  | false =>
    obtain ⟨text⟩ := p
    by_cases hp : text = ""
    · subst hp
      rw [join_empty, join_empty]
    by_cases hq : q.text = ""
    · obtain rfl : q = ⟨""⟩ := congrArg Path.mk hq
      rw [join_empty_join _ hr, join_empty]
    cases hqa : q.isAbsolute with
    | true => rw [join_absolute _ hqa, join_absolute _ ((isAbsolute_join hq hr).trans hqa)]
    | false =>
      have hne : q.text.toList ≠ [] := fun h => hq (String.toList_inj.mp h)
      have hqr := join_text r hq hr
      have hpq := join_text q (p := ⟨text⟩) hp hqa
      have hlast : (⟨text⟩ / q : Path).text.toList.getLast? = q.text.toList.getLast? := by
        rw [hpq, String.toList_append, List.getLast?_append, List.getLast?_eq_some_getLast hne,
          Option.some_or]
      have hpqne : (⟨text⟩ / q : Path).text ≠ "" := by
        intro h
        rw [h] at hlast
        exact hne (List.getLast?_eq_none_iff.mp hlast.symm)
      have hleft := join_text r hpqne hr
      have hright := join_text (q / r) (p := ⟨text⟩) hp ((isAbsolute_join hq hr).trans hqa)
      rw [hlast, hpq] at hleft
      rw [hqr] at hright
      refine congrArg Path.mk (hleft.trans (Eq.trans ?_ hright.symm))
      simp only [String.append_assoc]

/-- What stands before the right side is nothing, or ends with a slash. -/
theorem join_ends (p q : Path) : ∃ front, (p / q).text.toList = front ++ q.text.toList ∧
    (front = [] ∨ front.getLast? = some '/') := by
  change ∃ front, (join p q).text.toList = _ ∧ _
  unfold join
  split
  · exact ⟨[], rfl, .inl rfl⟩
  split
  · rename_i hend
    exact ⟨p.text.toList, by simp, .inr hend⟩
  · exact ⟨p.text.toList ++ ['/'], by simp, .inr (by simp)⟩

theorem last_piece_join (p q : Path) :
    (pieces (p / q).text.toList).getLast? = (pieces q.text.toList).getLast? := by
  obtain ⟨front, htext, rfl | hend⟩ := join_ends p q
  · rw [htext, List.nil_append]
  · obtain ⟨front, rfl⟩ := List.getLast?_eq_some_iff.mp hend
    rw [htext, List.append_assoc, List.singleton_append, pieces_append_slash, List.getLast?_append,
      List.getLast?_eq_some_getLast (pieces_ne_nil _), Option.some_or]

/-- A long ending without slashes ends the last component wherever the name is put. What stands
before it there is part of the name. -/
theorem join_last_component (directory : Path) (name ending : String)
    (hslash : '/' ∉ ending.toList) (hlong : 2 < ending.toList.length) :
    ∃ front, '/' ∉ front ∧ front ⊆ name.toList ∧
      (directory / ⟨name ++ ending⟩).components.getLast?
        = some (.name (String.ofList (front ++ ending.toList))) := by
  obtain ⟨front, rest, hin, hpieces⟩ := pieces_append_end name.toList hslash
  have hlast : (pieces (directory / (⟨name ++ ending⟩ : Path)).text.toList).getLast?
      = some (front ++ ending.toList) := by
    rw [last_piece_join, String.toList_append, hpieces, List.getLast?_concat]
  have hnoslash := slash_not_mem_piece (List.mem_of_getLast? hlast)
  refine ⟨front, fun h => hnoslash (List.mem_append_left _ h), hin, last_component hlast ?_⟩
  rw [List.length_append]
  omega

theorem pieceComponent_injective {a b : List Char} (h : pieceComponent a = pieceComponent b) :
    a = b := by
  unfold pieceComponent at h
  split at h
  · rename_i ha
    split at h
    · rename_i hb
      rw [ha, hb]
    · cases h
  · split at h
    · cases h
    · exact String.ofList_injective (Component.name.inj h)

theorem steps_of_no_slash {s : String} (h : '/' ∉ s.toList) (hne : s ≠ "") :
    steps (pieces s.toList) = if s = "." then [] else [pieceComponent s.toList] := by
  rw [pieces_of_no_slash h]
  split
  · rename_i hdot
    subst hdot
    rfl
  · rename_i hdot
    have he : s.toList ≠ [] := fun hs => hne (String.toList_inj.mp hs)
    have hd : s.toList ≠ ['.'] := fun hs => hdot (String.toList_inj.mp hs)
    exact steps_singleton (by simp [isFiller, he, hd])

theorem components_of_no_slash {s : String} (h : '/' ∉ s.toList) (hne : s ≠ "") :
    (⟨s⟩ : Path).components = if s = "." then [.here] else [pieceComponent s.toList] := by
  rw [components_eq, steps_of_no_slash h hne]
  split
  · rename_i hdot
    subst hdot
    rfl
  · rename_i hdot
    rw [lead_of_no_slash h fun hs => hdot (String.toList_inj.mp hs), List.nil_append]

/-- Texts without a slash lead from one directory to different places, `.` and `..` included. -/
theorem join_injective (p : Path) {d e : String} (hd : '/' ∉ d.toList) (he : '/' ∉ e.toList)
    (hdne : d ≠ "") (hene : e ≠ "")
    (h : (p / (⟨d⟩ : Path)).components = (p / (⟨e⟩ : Path)).components) : d = e := by
  have hpiece : ∀ {s : String}, pieceComponent s.toList ≠ .here := by
    intro s
    unfold pieceComponent
    split <;> simp
  obtain ⟨text⟩ := p
  by_cases hp : text = ""
  · subst hp
    rw [join_empty, join_empty, components_of_no_slash hd hdne, components_of_no_slash he hene] at h
    split at h <;> split at h
    · rename_i h1 h2
      rw [h1, h2]
    · exact absurd (List.cons.inj h).1.symm hpiece
    · exact absurd (List.cons.inj h).1 hpiece
    · exact String.toList_inj.mp (pieceComponent_injective (List.cons.inj h).1)
  · rw [components_join _ hp (not_absolute_of_noSlash hd),
      components_join _ hp (not_absolute_of_noSlash he), steps_of_no_slash hd hdne,
      steps_of_no_slash he hene] at h
    have h := List.append_cancel_left h
    split at h <;> split at h
    · rename_i h1 h2
      rw [h1, h2]
    · cases h
    · cases h
    · exact String.toList_inj.mp (pieceComponent_injective (List.cons.inj h).1)

end Path

end DtoGen

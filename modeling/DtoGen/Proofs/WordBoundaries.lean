import DtoGen.Proofs.StyledNames

namespace DtoGen

namespace Words

open Text

theorem flatten_consWord (c : Char) (words : List (List Char)) :
    (consWord c words).flatten = c :: words.flatten := by
  cases words <;> rfl

/-- No letter is lost, and none changes its place. -/
theorem flatten_split (cs : List Char) :
    (split cs).flatten = cs.filter fun c => !isSeparator c := by
  induction cs with
  | nil => rfl
  | cons c cs ih =>
    rw [split]
    cases hc : isSeparator c with
    | true => simpa [hc] using ih
    | false =>
      simp only [Bool.false_eq_true, if_false, List.filter_cons, hc, Bool.not_false, if_true, ← ih]
      split
      · exact flatten_consWord c (split cs)
      · rfl

theorem exists_of_goesOn {c : Char} {cs : List Char} (h : goesOn c cs = true) :
    ∃ d rest, cs = d :: rest ∧ isSeparator d = false := by
  cases cs with
  | nil => cases h
  | cons d rest =>
    simp only [goesOn, Bool.and_eq_true, Bool.not_eq_true'] at h
    exact ⟨d, rest, rfl, h.1⟩

/-- A letter opens a word, and what belongs to that word stands right behind the letter. -/
theorem split_letter {c : Char} (hc : isSeparator c = false) (cs : List Char) :
    ∃ word words, split (c :: cs) = (c :: word) :: words ∧ word <+: cs := by
  induction cs generalizing c with
  | nil => exact ⟨[], [], by simp [split, hc, goesOn], List.nil_prefix⟩
  | cons d cs ih =>
    rw [split]
    simp only [hc, Bool.false_eq_true, if_false]
    split
    · rename_i hgo
      obtain ⟨_, _, heq, hd⟩ := exists_of_goesOn hgo
      obtain ⟨rfl, rfl⟩ := List.cons.inj heq
      obtain ⟨word, words, hsplit, hstart⟩ := ih hd
      exact ⟨d :: word, words, by rw [hsplit]; rfl, List.cons_prefix_cons.mpr ⟨rfl, hstart⟩⟩
    · exact ⟨[], split (d :: cs), rfl, List.nil_prefix⟩

/-- Letters that are taken away at the end make no new word. -/
theorem goesOn_of_start {c d : Char} {cs word : List Char} (h : goesOn c (d :: cs) = true)
    (hstart : word <+: cs) : goesOn c (d :: word) = true := by
  cases word with
  | cons e word =>
    obtain ⟨behind, rfl⟩ := hstart
    exact h
  | nil =>
    simp only [goesOn, opensWord, Bool.and_eq_true, Bool.not_eq_true', Bool.and_eq_false_iff,
      Bool.or_eq_false_iff] at h ⊢
    refine ⟨h.1, h.2.imp_right fun hletters => ⟨hletters.1, ?_⟩⟩
    exact .inr rfl

theorem split_singleton {c : Char} (hc : isSeparator c = false) : split [c] = [[c]] := by
  simp [split, hc, goesOn]

/-- A letter in front of a word that goes on belongs to that word. -/
theorem split_cons_whole {c : Char} {word : List Char} (hc : isSeparator c = false)
    (hgo : goesOn c word = true) (hword : split word = [word]) :
    split (c :: word) = [c :: word] := by
  rw [split, hword]
  simp only [hc, Bool.false_eq_true, if_false, hgo, if_true]
  rfl

/-- A word has no words but itself. -/
theorem split_of_mem_split {cs word : List Char} (h : word ∈ split cs) : split word = [word] := by
  induction cs generalizing word with
  | nil => cases h
  | cons c cs ih =>
    rw [split] at h
    split at h
    · exact ih h
    rename_i hc
    have hletter : isSeparator c = false := Bool.eq_false_iff.mpr hc
    split at h
    · rename_i hgo
      obtain ⟨d, rest, rfl, hd⟩ := exists_of_goesOn hgo
      obtain ⟨first, words, hsplit, hstart⟩ := split_letter hd rest
      rw [hsplit] at h ih
      rcases List.mem_cons.mp h with rfl | h
      · exact split_cons_whole hletter (goesOn_of_start hgo hstart) (ih List.mem_cons_self)
      · exact ih (List.mem_cons_of_mem _ h)
    · rcases List.mem_cons.mp h with rfl | h
      · exact split_singleton hletter
      · exact ih h

/-- The number of the word that a letter belongs to. Letters and words are counted from zero. -/
def wordAt : List (List Char) → Nat → Nat
  | [], _ => 0
  | word :: words, n => if n < word.length then 0 else wordAt words (n - word.length) + 1

theorem wordAt_cons_succ (c : Char) (word : List Char) (words : List (List Char)) (n : Nat) :
    wordAt ((c :: word) :: words) (n + 1) = wordAt (word :: words) n := by
  simp [wordAt]

/-- A letter in front moves all letters by one, and all words by one or none. -/
theorem wordAt_split_cons {c : Char} (hc : isSeparator c = false) (cs : List Char) :
    ∃ moved, ∀ n, wordAt (split (c :: cs)) (n + 1) = wordAt (split cs) n + moved := by
  rw [split]
  simp only [hc, Bool.false_eq_true, if_false]
  split
  · rename_i hgo
    obtain ⟨d, rest, rfl, hd⟩ := exists_of_goesOn hgo
    obtain ⟨word, words, hsplit, _⟩ := split_letter hd rest
    rw [hsplit]
    exact ⟨0, fun n => wordAt_cons_succ c (d :: word) words n⟩
  · exact ⟨1, fun n => wordAt_cons_succ c [] (split cs) n⟩

/-- How many characters of a text are no separators. -/
def letterCount (cs : List Char) : Nat :=
  cs.countP fun c => !isSeparator c

/-- Two letters with nothing but separators between them belong to one word exactly if the word of
the first one goes on. -/
theorem wordAt_split (before : List Char) {x : Char} {rest : List Char}
    (hx : isSeparator x = false) :
    wordAt (split (before ++ x :: rest)) (letterCount before)
        = wordAt (split (before ++ x :: rest)) (letterCount before + 1)
      ↔ goesOn x rest = true := by
  unfold letterCount
  induction before with
  | nil =>
    rw [List.nil_append, List.countP_nil, split]
    simp only [hx, Bool.false_eq_true, if_false]
    cases hgo : goesOn x rest with
    | true =>
      obtain ⟨d, rest, rfl, hd⟩ := exists_of_goesOn hgo
      obtain ⟨word, words, hsplit, _⟩ := split_letter hd rest
      simp [hsplit, consWord, wordAt]
    | false => simp [wordAt]
  | cons c before ih =>
    rw [List.cons_append]
    cases hc : isSeparator c with
    | true =>
      rw [split_cons_separator hc, List.countP_cons_of_neg (by simp [hc])]
      exact ih
    | false =>
      obtain ⟨moved, hmoved⟩ := wordAt_split_cons hc (before ++ x :: rest)
      rw [List.countP_cons_of_pos (by simp [hc])]
      rw [hmoved, hmoved, Nat.add_right_cancel_iff]
      exact ih

/-- What makes a word begin at the letter `y`, when `x` is the letter before it, `gap` stands
between the two and `behind` follows. -/
def Begins (x : Char) (gap : List Char) (y : Char) (behind : List Char) : Prop :=
  gap ≠ [] ∨ isUpper y = true ∧ (isLower x = true ∨ x.isDigit = true ∨
    isUpper x = true ∧ ∃ z rest, behind = z :: rest ∧ isLower z = true)

theorem opensWord_iff {x y : Char} {behind : List Char} :
    opensWord x y behind.head? = true ↔ isUpper y = true ∧ (isLower x = true ∨ x.isDigit = true ∨
      isUpper x = true ∧ ∃ z rest, behind = z :: rest ∧ isLower z = true) := by
  cases behind <;> simp [opensWord, or_assoc]

theorem begins_iff {x y : Char} {gap behind : List Char}
    (hgap : ∀ c ∈ gap, isSeparator c = true) (hy : isSeparator y = false) :
    Begins x gap y behind ↔ ¬goesOn x (gap ++ y :: behind) = true := by
  cases gap with
  | cons c gap => simp [Begins, goesOn, hgap c List.mem_cons_self]
  | nil => simp [Begins, goesOn, hy, opensWord_iff]

end Words

open Words Text

/-- What the words of a text are, said of the text alone. -/
structure CutFrom (s : String) (words : List String) : Prop where
  nothingLost : String.join words = String.ofList (s.toList.filter fun c => !isSeparator c)
  lettersOnly : ∀ word ∈ words, word ≠ "" ∧ ∀ c ∈ word.toList, isSeparator c = false
  /-- A letter and the next one belong to different words. -/
  boundaries : ∀ before x gap y behind, s.toList = before ++ x :: (gap ++ y :: behind) →
    isSeparator x = false → (∀ c ∈ gap, isSeparator c = true) → isSeparator y = false →
    (wordAt (words.map String.toList) (letterCount before)
        ≠ wordAt (words.map String.toList) (letterCount before + 1) ↔ Begins x gap y behind)
  whole : ∀ word ∈ words, DtoGen.words word = [word]

theorem map_toList_words (s : String) : (words s).map String.toList = split s.toList := by
  rw [words, List.map_map]
  exact (List.map_congr_left fun _ _ => String.toList_ofList).trans (List.map_id _)

theorem mem_words {s word : String} : word ∈ words s ↔ word.toList ∈ split s.toList := by
  rw [← map_toList_words]
  constructor
  · exact List.mem_map_of_mem
  · intro h
    obtain ⟨other, hother, heq⟩ := List.mem_map.mp h
    exact String.toList_inj.mp heq ▸ hother

/-- Words are cut from a text at its separators and where its letters change their case, and nothing
but separators is lost. -/
theorem words_cutFrom (s : String) : CutFrom s (words s) := by
  refine ⟨?_, fun word hword => ⟨?_, fun c hc => ?_⟩, ?_, fun word hword => ?_⟩
  · rw [← String.toList_inj, String.toList_join, String.toList_ofList, ← flatten_split,
      ← map_toList_words, List.flatMap_def]
  · rintro rfl
    exact ne_nil_of_mem_split (mem_words.mp hword) rfl
  · exact not_separator_of_mem_split (mem_words.mp hword) hc
  · intro before x gap y behind hs hx hgap hy
    rw [map_toList_words, hs, begins_iff hgap hy, ← wordAt_split before hx]
  · rw [words, split_of_mem_split (mem_words.mp hword), List.map_singleton, String.ofList_toList]

end DtoGen

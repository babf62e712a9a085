import DtoGen.NamingStyle
import DtoGen.Proofs.LetterCase

namespace DtoGen

namespace Words

open Text

theorem mem_consWord {c : Char} {words : List (List Char)} {word : List Char}
    (h : word ∈ consWord c words) :
    word = [c] ∨ word ∈ words ∨ ∃ w ∈ words, word = c :: w := by
  cases words with
  | nil => exact .inl (List.mem_singleton.mp h)
  | cons w ws =>
    rcases List.mem_cons.mp h with rfl | h
    · exact .inr (.inr ⟨w, List.mem_cons_self, rfl⟩)
    · exact .inr (.inl (List.mem_cons_of_mem _ h))

/-- The letters of a word are letters of the text. -/
theorem mem_of_mem_split {cs word : List Char} {x : Char} (hw : word ∈ split cs) (hx : x ∈ word) :
    x ∈ cs := by
  induction cs generalizing word x with
  | nil => cases hw
  | cons c cs ih =>
    rw [split] at hw
    split at hw
    · exact List.mem_cons_of_mem _ (ih hw hx)
    split at hw
    · rcases mem_consWord hw with rfl | hw | ⟨w, hmem, rfl⟩
      · rw [List.mem_singleton.mp hx]
        exact List.mem_cons_self
      · exact List.mem_cons_of_mem _ (ih hw hx)
      · rcases List.mem_cons.mp hx with rfl | hx
        · exact List.mem_cons_self
        · exact List.mem_cons_of_mem _ (ih hmem hx)
    · rcases List.mem_cons.mp hw with rfl | hw
      · rw [List.mem_singleton.mp hx]
        exact List.mem_cons_self
      · exact List.mem_cons_of_mem _ (ih hw hx)

/-- No separator is left in a word. -/
theorem not_separator_of_mem_split {cs word : List Char} {x : Char} (hw : word ∈ split cs)
    (hx : x ∈ word) : isSeparator x = false := by
  induction cs generalizing word with
  | nil => cases hw
  | cons c cs ih =>
    rw [split] at hw
    split at hw
    · exact ih hw hx
    rename_i hc
    have hletter : isSeparator c = false := Bool.eq_false_iff.mpr hc
    split at hw
    · rcases mem_consWord hw with rfl | hw | ⟨w, hmem, rfl⟩
      · rw [List.mem_singleton.mp hx]
        exact hletter
      · exact ih hw hx
      · rcases List.mem_cons.mp hx with rfl | hx
        · exact hletter
        · exact ih hmem hx
    · rcases List.mem_cons.mp hw with rfl | hw
      · rw [List.mem_singleton.mp hx]
        exact hletter
      · exact ih hw hx

theorem ne_nil_of_mem_split {cs word : List Char} (hw : word ∈ split cs) : word ≠ [] := by
  induction cs generalizing word with
  | nil => cases hw
  | cons c cs ih =>
    rw [split] at hw
    split at hw
    · exact ih hw
    split at hw
    · rcases mem_consWord hw with rfl | hw | ⟨w, _, rfl⟩
      · simp
      · exact ih hw
      · simp
    · rcases List.mem_cons.mp hw with rfl | hw
      · simp
      · exact ih hw

theorem split_cons_separator {c : Char} (h : isSeparator c = true) (cs : List Char) :
    split (c :: cs) = split cs := by
  rw [split, if_pos h]

theorem goesOn_append {c mark : Char} (hs : isSeparator mark = true) (hl : isLower mark = false)
    (a b : List Char) : goesOn c (a ++ mark :: b) = goesOn c a := by
  cases a with
  | nil => simp [goesOn, hs]
  | cons d a =>
    cases a with
    | nil => simp [goesOn, opensWord, hl]
    | cons e a => rfl

theorem split_ne_nil {c : Char} (h : isSeparator c = false) (cs : List Char) :
    split (c :: cs) ≠ [] := by
  rw [split]
  simp only [h, Bool.false_eq_true, if_false]
  split
  · cases split cs <;> simp [consWord]
  · simp

theorem consWord_append {words : List (List Char)} (h : words ≠ []) (c : Char)
    (more : List (List Char)) : consWord c (words ++ more) = consWord c words ++ more := by
  cases words with
  | nil => exact absurd rfl h
  | cons word words => rfl

theorem split_ne_nil_of_goesOn {c : Char} {cs : List Char} (h : goesOn c cs = true) :
    split cs ≠ [] := by
  cases cs with
  | nil => cases h
  | cons d cs =>
    simp only [goesOn, Bool.and_eq_true, Bool.not_eq_true'] at h
    exact split_ne_nil h.1 cs

/-- A separator keeps what stands before it apart from what stands behind it. -/
theorem split_append {mark : Char} (hs : isSeparator mark = true) (hl : isLower mark = false)
    (a b : List Char) : split (a ++ mark :: b) = split a ++ split b := by
  induction a with
  | nil => exact split_cons_separator hs b
  | cons c a ih =>
    rw [List.cons_append, split, split, goesOn_append hs hl, ih]
    split
    · rfl
    split
    · rename_i hgo
      exact consWord_append (split_ne_nil_of_goesOn hgo) c (split b)
    · rfl

theorem mem_capitalize {x : Char} {word : List Char} (h : x ∈ capitalize word) :
    x ∈ word ∨ lastSign < x.toNat := by
  cases word with
  | nil => cases h
  | cons c cs =>
    rcases List.mem_append.mp h with h | h
    · rcases mem_upper h with rfl | h
      · exact .inl List.mem_cons_self
      · exact .inr h
    · obtain ⟨d, hd, h⟩ := List.mem_flatMap.mp h
      rcases mem_lower h with rfl | h
      · exact .inl (List.mem_cons_of_mem _ hd)
      · exact .inr h

theorem capitalize_ne_nil {word : List Char} (h : word ≠ []) : capitalize word ≠ [] := by
  cases word with
  | nil => exact absurd rfl h
  | cons c cs => simp [capitalize, upper_ne_nil]

theorem mem_capitalized {x : Char} {words : List (List Char)}
    (h : x ∈ words.flatMap capitalize) :
    (∃ word ∈ words, x ∈ word) ∨ lastSign < x.toNat := by
  obtain ⟨word, hw, h⟩ := List.mem_flatMap.mp h
  rcases mem_capitalize h with h | h
  · exact .inl ⟨word, hw, h⟩
  · exact .inr h

theorem mem_pascal {x : Char} {cs : List Char} (h : x ∈ pascal cs) :
    (∃ word ∈ split cs, x ∈ word) ∨ lastSign < x.toNat :=
  mem_capitalized h

theorem mem_camel {x : Char} {cs : List Char} (h : x ∈ camel cs) :
    (∃ word ∈ split cs, x ∈ word) ∨ lastSign < x.toNat := by
  unfold camel at h
  split at h
  · cases h
  · rename_i word words hsplit
    rw [hsplit]
    rcases List.mem_append.mp h with h | h
    · rcases mem_lowerAll h with h | h
      · exact .inl ⟨word, List.mem_cons_self, h⟩
      · exact .inr h
    · rcases mem_capitalized h with ⟨w, hw, h⟩ | h
      · exact .inl ⟨w, List.mem_cons_of_mem _ hw, h⟩
      · exact .inr h

theorem mem_intercalate {x mark : Char} {words : List (List Char)}
    (h : x ∈ [mark].intercalate words) : x = mark ∨ ∃ word ∈ words, x ∈ word := by
  induction words with
  | nil => cases h
  | cons word words ih =>
    by_cases hw : words = []
    · subst hw
      simp only [List.intercalate_singleton] at h
      exact .inr ⟨word, List.mem_cons_self, h⟩
    · rw [List.intercalate_cons_of_ne_nil hw, List.append_assoc] at h
      rcases List.mem_append.mp h with h | h
      · exact .inr ⟨word, List.mem_cons_self, h⟩
      rcases List.mem_cons.mp h with rfl | h
      · exact .inl rfl
      · rcases ih h with h | ⟨w, hw, h⟩
        · exact .inl h
        · exact .inr ⟨w, List.mem_cons_of_mem _ hw, h⟩

theorem mem_joined {x mark : Char} {cs : List Char} (h : x ∈ joined mark cs) :
    x = mark ∨ (∃ word ∈ split cs, x ∈ word) ∨ lastSign < x.toNat := by
  rcases mem_intercalate h with h | ⟨word, hw, h⟩
  · exact .inl h
  · obtain ⟨raw, hraw, rfl⟩ := List.mem_map.mp hw
    rcases mem_lowerAll h with h | h
    · exact .inr (.inl ⟨raw, hraw, h⟩)
    · exact .inr (.inr h)

theorem joined_cons (mark : Char) {cs word : List Char} {words : List (List Char)}
    (h : split cs = word :: words) :
    joined mark cs = lowerAll [] word ++
      if words = [] then [] else mark :: [mark].intercalate (words.map (lowerAll [])) := by
  rw [joined, h, List.map_cons]
  split
  · rename_i hnil
    simp [hnil]
  · rename_i hne
    rw [List.intercalate_cons_of_ne_nil (by simpa using hne), List.append_assoc]
    rfl

end Words

namespace NamingStyle

open Text Words

/-- How a style spells a text, letter by letter. -/
def spell : NamingStyle → List Char → List Char
  | kebab => joined '-'
  | camel => Words.camel
  | pascal => Words.pascal
  | snake => joined '_'

theorem toList_apply (style : NamingStyle) (s : String) :
    (style.apply s).toList = style.spell s.toList := by
  cases style <;> exact String.toList_ofList

/-- The spelling of a first word, and what the words behind it add. -/
def opening : NamingStyle → List Char → List Char
  | pascal => capitalize
  | _ => lowerAll []

def remainder (style : NamingStyle) (words : List (List Char)) : List Char :=
  match style with
  | kebab => if words = [] then [] else '-' :: ['-'].intercalate (words.map (lowerAll []))
  | snake => if words = [] then [] else '_' :: ['_'].intercalate (words.map (lowerAll []))
  | camel | pascal => words.flatMap capitalize

theorem spell_of_split {style : NamingStyle} {cs word : List Char} {words : List (List Char)}
    (h : split cs = word :: words) :
    style.spell cs = style.opening word ++ style.remainder words := by
  cases style with
  | kebab => exact joined_cons '-' h
  | snake => exact joined_cons '_' h
  | camel => simp [spell, Words.camel, h, opening, remainder]
  | pascal => simp [spell, Words.pascal, h, opening, remainder]

theorem spell_wordless {style : NamingStyle} {cs : List Char} (h : split cs = []) :
    style.spell cs = [] := by
  cases style <;> simp [spell, joined, Words.camel, Words.pascal, h]

theorem opening_ne_nil (style : NamingStyle) {word : List Char} (h : word ≠ []) :
    style.opening word ≠ [] := by
  cases style with
  | pascal => exact capitalize_ne_nil h
  | _ => exact lowerAll_ne_nil [] h

theorem remainder_eq_nil {style : NamingStyle} {words : List (List Char)}
    (hw : ∀ word ∈ words, word ≠ []) : style.remainder words = [] ↔ words = [] := by
  cases words with
  | nil => cases style <;> simp [remainder]
  | cons word words =>
    have := capitalize_ne_nil (hw word List.mem_cons_self)
    cases style <;> simp [remainder, this]

/-- Only a text without a word is spelled as nothing. -/
theorem spell_eq_nil {style : NamingStyle} {cs : List Char} :
    style.spell cs = [] ↔ split cs = [] := by
  refine ⟨fun h => ?_, spell_wordless⟩
  cases hs : split cs with
  | nil => rfl
  | cons word words =>
    have hmem : word ∈ split cs := hs ▸ List.mem_cons_self
    have hne : word ≠ [] := ne_nil_of_mem_split hmem
    rw [spell_of_split hs] at h
    exact absurd (List.append_eq_nil_iff.mp h).1 (style.opening_ne_nil hne)

/-- A style takes the letters of the words, and brings in letters and the two marks between
words. -/
theorem mem_spell_words {style : NamingStyle} {cs : List Char} {x : Char}
    (h : x ∈ style.spell cs) :
    (∃ word ∈ split cs, x ∈ word) ∨ lastSign < x.toNat ∨ x = '-' := by
  cases style with
  | kebab => rcases mem_joined h with h | h | h <;> simp [h]
  | snake =>
    rcases mem_joined h with rfl | h | h
    · exact .inr (.inl (by decide))
    · exact .inl h
    · exact .inr (.inl h)
  | camel => rcases mem_camel h with h | h <;> simp [h]
  | pascal => rcases mem_pascal h with h | h <;> simp [h]

theorem mem_spell {style : NamingStyle} {cs : List Char} {x : Char} (h : x ∈ style.spell cs) :
    x ∈ cs ∨ lastSign < x.toNat ∨ x = '-' :=
  (mem_spell_words h).imp_left fun ⟨_, hw, hx⟩ => mem_of_mem_split hw hx

theorem slash_not_mem_apply {style : NamingStyle} {s : String} (h : '/' ∉ s.toList) :
    '/' ∉ (style.apply s).toList := by
  rw [toList_apply]
  intro hmem
  rcases mem_spell hmem with hmem | hmem | hmem
  · exact h hmem
  · exact absurd hmem (by decide)
  · exact absurd hmem (by decide)

/-- Line ends are separators, whatever stands around them. -/
theorem newline_not_mem_apply (style : NamingStyle) (s : String) :
    '\n' ∉ (style.apply s).toList := by
  rw [toList_apply]
  intro hmem
  rcases mem_spell_words hmem with ⟨word, hw, hx⟩ | hmem | hmem
  · exact absurd (not_separator_of_mem_split hw hx) (by decide)
  · exact absurd hmem (by decide)
  · exact absurd hmem (by decide)

end NamingStyle

end DtoGen

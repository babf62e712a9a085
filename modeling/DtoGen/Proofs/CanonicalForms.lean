import DtoGen.Proofs.WordBoundaries
import Mathlib.Data.List.Basic

namespace DtoGen

namespace Text

/-- How the case of a letter of ASCII is changed. -/
structure ChangesCase (c : Char) : Prop where
  lower : lower c = [c.toLower]
  upper : upper c = [c.toUpper]
  ascii : isAscii c.toLower = true
  notUpper : isUpper c.toLower = false
  lowerLower : c.toLower.toLower = c.toLower
  upperLower : c.toLower.toUpper = c.toUpper
  lowerUpper : c.toUpper.toLower = c.toLower
  separator : Words.isSeparator c.toLower = Words.isSeparator c

theorem changesCase {c : Char} (h : isAscii c = true) : ChangesCase c := by
  have hlower : lower c = [c.toLower] := if_pos h
  have hupper : upper c = [c.toUpper] := if_pos h
  obtain ⟨ha, hu, hll, hul, hlu, hs⟩ := of_isAscii (p := fun c => isAscii c.toLower = true ∧
    isUpper c.toLower = false ∧ c.toLower.toLower = c.toLower ∧ c.toLower.toUpper = c.toUpper ∧
    c.toUpper.toLower = c.toLower ∧ Words.isSeparator c.toLower = Words.isSeparator c)
    (by decide) h
  exact ⟨hlower, hupper, ha, hu, hll, hul, hlu, hs⟩

theorem ascii_lowered {cs : List Char} (h : ∀ c ∈ cs, isAscii c = true) :
    ∀ c ∈ cs.map Char.toLower, isAscii c = true := by
  intro c hc
  obtain ⟨d, hd, rfl⟩ := List.mem_map.mp hc
  exact (changesCase (h d hd)).ascii

theorem lowerAll_of_ascii {cs : List Char} (h : ∀ c ∈ cs, isAscii c = true)
    (before : List Char) : lowerAll before cs = cs.map Char.toLower := by
  induction cs generalizing before with
  | nil => rfl
  | cons c cs ih =>
    have hc := h c List.mem_cons_self
    have hsigma : c ≠ 'Σ' := by
      rintro rfl
      cases hc
    rw [lowerAll, if_neg hsigma, (changesCase hc).lower,
      ih fun d hd => h d (List.mem_cons_of_mem _ hd)]
    rfl

end Text

namespace Words

open Text

theorem capitalize_of_ascii {c : Char} {cs : List Char} (h : ∀ d ∈ c :: cs, isAscii d = true) :
    capitalize (c :: cs) = c.toUpper :: cs.map Char.toLower := by
  have htail : cs.flatMap lower = cs.map Char.toLower := by
    rw [List.map_eq_flatMap]
    exact List.flatMap_congr fun d hd => (changesCase (h d (List.mem_cons_of_mem _ hd))).lower
  rw [capitalize, (changesCase (h c List.mem_cons_self)).upper, htail]
  rfl

/-- Small letters of a word leave no trace in how it is capitalized. -/
theorem capitalize_lowerAll {word : List Char} (h : ∀ c ∈ word, isAscii c = true) :
    capitalize (lowerAll [] word) = capitalize word := by
  rw [lowerAll_of_ascii h]
  cases word with
  | nil => rfl
  | cons c cs =>
    have hlowered := ascii_lowered h
    rw [List.map_cons] at hlowered ⊢
    rw [capitalize_of_ascii hlowered, capitalize_of_ascii h,
      (changesCase (h c List.mem_cons_self)).upperLower, List.map_map]
    congr 1
    exact List.map_congr_left fun d hd => (changesCase (h d (List.mem_cons_of_mem _ hd))).lowerLower

theorem lowerAll_lowerAll {word : List Char} (h : ∀ c ∈ word, isAscii c = true) :
    lowerAll [] (lowerAll [] word) = lowerAll [] word := by
  rw [lowerAll_of_ascii h, lowerAll_of_ascii (ascii_lowered h), List.map_map]
  exact List.map_congr_left fun c hc => (changesCase (h c hc)).lowerLower

/-- Without capital letters and separators there is nothing to cut at. -/
theorem split_of_small {word : List Char} (hne : word ≠ [])
    (h : ∀ c ∈ word, isSeparator c = false ∧ isUpper c = false) : split word = [word] := by
  induction word with
  | nil => exact absurd rfl hne
  | cons c cs ih =>
    have hc := (h c List.mem_cons_self).1
    cases cs with
    | nil => exact split_singleton hc
    | cons d cs =>
      obtain ⟨hd, hsmall⟩ := h d (List.mem_cons_of_mem _ List.mem_cons_self)
      have hgo : goesOn c (d :: cs) = true := by simp [goesOn, opensWord, hd, hsmall]
      exact split_cons_whole hc hgo (ih (by simp) fun e he => h e (List.mem_cons_of_mem _ he))

theorem split_intercalate {mark : Char} (hs : isSeparator mark = true)
    (hl : isLower mark = false) {words : List (List Char)}
    (h : ∀ word ∈ words, split word = [word]) : split ([mark].intercalate words) = words := by
  induction words with
  | nil => rfl
  | cons word words ih =>
    have hword := h word List.mem_cons_self
    by_cases hnil : words = []
    · rw [hnil, List.intercalate_singleton, hword]
    · rw [List.intercalate_cons_of_ne_nil hnil, List.append_assoc, List.singleton_append,
        split_append hs hl, hword, ih fun w hw => h w (List.mem_cons_of_mem _ hw)]
      rfl

variable {cs word : List Char} {mark : Char}

theorem ascii_of_mem_split (h : ∀ c ∈ cs, isAscii c = true) (hword : word ∈ split cs) :
    ∀ c ∈ word, isAscii c = true :=
  fun c hc => h c (mem_of_mem_split hword hc)

/-- A word stays one when its letters are made small. -/
theorem small_of_mem_split (h : ∀ c ∈ cs, isAscii c = true) (hword : word ∈ split cs) :
    ∀ c ∈ lowerAll [] word, isSeparator c = false ∧ isUpper c = false := by
  have hascii := ascii_of_mem_split h hword
  rw [lowerAll_of_ascii hascii]
  intro c hc
  obtain ⟨d, hd, rfl⟩ := List.mem_map.mp hc
  have hcase := changesCase (hascii d hd)
  exact ⟨hcase.separator.trans (not_separator_of_mem_split hword hd), hcase.notUpper⟩

theorem split_joined (hs : isSeparator mark = true) (hl : isLower mark = false)
    (h : ∀ c ∈ cs, isAscii c = true) :
    split (joined mark cs) = (split cs).map (lowerAll []) := by
  refine split_intercalate hs hl fun word hword => ?_
  obtain ⟨raw, hraw, rfl⟩ := List.mem_map.mp hword
  exact split_of_small (lowerAll_ne_nil [] (ne_nil_of_mem_split hraw)) (small_of_mem_split h hraw)

end Words

namespace NamingStyle

open Text Words

theorem opening_lowerAll (style : NamingStyle) {word : List Char}
    (h : ∀ c ∈ word, isAscii c = true) : style.opening (lowerAll [] word) = style.opening word := by
  cases style with
  | pascal => exact capitalize_lowerAll h
  | _ => exact lowerAll_lowerAll h

theorem remainder_lowerAll (style : NamingStyle) {words : List (List Char)}
    (h : ∀ word ∈ words, ∀ c ∈ word, isAscii c = true) :
    style.remainder (words.map (lowerAll [])) = style.remainder words := by
  have hlower : (words.map (lowerAll [])).map (lowerAll []) = words.map (lowerAll []) := by
    rw [List.map_map]
    exact List.map_congr_left fun word hword => lowerAll_lowerAll (h word hword)
  have hcapital : (words.map (lowerAll [])).flatMap capitalize = words.flatMap capitalize := by
    rw [List.flatMap_map]
    exact List.flatMap_congr fun word hword => capitalize_lowerAll (h word hword)
  cases style <;> simp only [remainder, hlower, hcapital, List.map_eq_nil_iff]

/-- A style spells the joined words of a text as it spells the text. -/
theorem spell_joined (style : NamingStyle) {mark : Char} (hs : isSeparator mark = true)
    (hl : isLower mark = false) {cs : List Char} (h : ∀ c ∈ cs, isAscii c = true) :
    style.spell (joined mark cs) = style.spell cs := by
  have hjoined := split_joined hs hl h
  cases hsplit : split cs with
  | nil =>
    rw [hsplit] at hjoined
    rw [spell_wordless hsplit, spell_wordless hjoined]
  | cons word words =>
    have hascii : ∀ w ∈ word :: words, ∀ c ∈ w, isAscii c = true :=
      fun w hw => ascii_of_mem_split h (hsplit ▸ hw)
    rw [hsplit, List.map_cons] at hjoined
    rw [spell_of_split hsplit, spell_of_split hjoined,
      opening_lowerAll style (hascii word List.mem_cons_self),
      remainder_lowerAll style fun w hw => hascii w (List.mem_cons_of_mem _ hw)]

end NamingStyle

open Text Words

/-- The parts of a text between marks. An empty text has none. -/
def partsAt (mark : Char) (s : String) : List String :=
  if s = "" then [] else (s.toList.splitOn mark).map String.ofList

/-- Between its marks, a joined text holds its words in small letters. -/
theorem partsAt_joined {mark : Char} (hs : isSeparator mark = true) {s : String}
    (h : ∀ c ∈ s.toList, isAscii c = true) :
    partsAt mark (String.ofList (joined mark s.toList)) = (words s).map lowercase := by
  have hlowercase : (words s).map lowercase
      = ((split s.toList).map (lowerAll [])).map String.ofList := by
    rw [← map_toList_words, List.map_map, List.map_map]
    rfl
  rw [hlowercase, partsAt]
  cases hsplit : split s.toList with
  | nil =>
    have hempty : joined mark s.toList = [] := by rw [joined, hsplit]; rfl
    rw [hempty]
    rfl
  | cons word words =>
    have hmark : ∀ part ∈ (split s.toList).map (lowerAll []), mark ∉ part := by
      intro part hpart hmem
      obtain ⟨raw, hraw, rfl⟩ := List.mem_map.mp hpart
      rw [(small_of_mem_split h hraw mark hmem).1] at hs
      cases hs
    have hword : word ≠ [] := ne_nil_of_mem_split (hsplit ▸ List.mem_cons_self)
    have hne : joined mark s.toList ≠ [] := by
      rw [joined_cons mark hsplit]
      simp [lowerAll_ne_nil [] hword]
    have hparts : (joined mark s.toList).splitOn mark = (split s.toList).map (lowerAll []) :=
      List.splitOn_intercalate mark hmark (by simp [hsplit])
    rw [if_neg (by simpa [← String.toList_inj] using hne), String.toList_ofList, hparts, hsplit]

/-- Kebab and snake case hold all that a style reads from a text. -/
structure Canonical (s : String) : Prop where
  kebab : ∀ style : NamingStyle, style.apply (kebabCase s) = style.apply s
  snake : ∀ style : NamingStyle, style.apply (snakeCase s) = style.apply s
  idempotent : kebabCase (kebabCase s) = kebabCase s ∧ snakeCase (snakeCase s) = snakeCase s
  convertible : snakeCase (kebabCase s) = snakeCase s ∧ kebabCase (snakeCase s) = kebabCase s
  kebabParts : partsAt '-' (kebabCase s) = (words s).map lowercase
  snakeParts : partsAt '_' (snakeCase s) = (words s).map lowercase

/-- A text of ASCII letters can be replaced by its kebab or snake case in every style, and these
hold its words as they are, but for capital letters. -/
theorem canonical_of_ascii {s : String} (h : ∀ c ∈ s.toList, isAscii c = true) : Canonical s := by
  have happly : ∀ (mark : Char), isSeparator mark = true → isLower mark = false →
      ∀ style : NamingStyle,
        style.apply (String.ofList (joined mark s.toList)) = style.apply s := by
    intro mark hs hl style
    rw [← String.toList_inj, NamingStyle.toList_apply, NamingStyle.toList_apply,
      String.toList_ofList]
    exact style.spell_joined hs hl h
  have hkebab := happly '-' (by decide) (by decide)
  have hsnake := happly '_' (by decide) (by decide)
  exact ⟨hkebab, hsnake, ⟨hkebab .kebab, hsnake .snake⟩, ⟨hkebab .snake, hsnake .kebab⟩,
    partsAt_joined (by decide) h, partsAt_joined (by decide) h⟩

theorem mixed_canonical : (∀ c ∈ "HTTPServer__v2Go-fast x.Y".toList, isAscii c = true) ∧
    kebabCase "HTTPServer__v2Go-fast x.Y" = "http-server-v2-go-fast-x.y" ∧
    Canonical "HTTPServer__v2Go-fast x.Y" := by
  have h : ∀ c ∈ "HTTPServer__v2Go-fast x.Y".toList, isAscii c = true :=
    List.all_eq_true.mp (by decide +kernel)
  exact ⟨h, by decide +kernel, canonical_of_ascii h⟩

end DtoGen

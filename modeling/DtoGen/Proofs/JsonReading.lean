import DtoGen.Json.Reader
import DtoGen.Proofs.JsonSpelling

namespace DtoGen.Json

abbrev Phrase := List Symbol

/-- Phrases with commas between them. -/
def separated : List Phrase → Phrase
  | [] => []
  | part :: parts => part ++ parts.flatMap (.comma :: ·)

def arrayOf (items : List Phrase) : Phrase :=
  .openBracket :: (separated items ++ [.closeBracket])

def memberOf (key : Option String) (value : Phrase) : Phrase :=
  .string key :: .colon :: value

def objectOf (members : List (Option String × Phrase)) : Phrase :=
  .openBrace :: (separated (members.map fun member => memberOf member.1 member.2) ++ [.closeBrace])

/-- An object with these names. -/
def recordOf (members : List (String × Phrase)) : Phrase :=
  objectOf (members.map fun member => (some member.1, member.2))

/-- Any value. -/
inductive IsValue : Phrase → Prop
  | null : IsValue [.null]
  | bool (value : Bool) : IsValue [.bool value]
  | number : IsValue [.number]
  | string (text : Option String) : IsValue [.string text]
  | array {items : List Phrase} (h : ∀ item ∈ items, IsValue item) : IsValue (arrayOf items)
  | object {members : List (Option String × Phrase)}
    (h : ∀ member ∈ members, IsValue member.2) : IsValue (objectOf members)

namespace Match

theorem uncons {lexemes : List Lexeme} {symbol : Symbol} {symbols : List Symbol}
    (h : Match lexemes (symbol :: symbols)) :
    ∃ lexeme rest, lexemes = lexeme :: rest ∧ lexeme.token.Is symbol ∧ Match rest symbols := by
  obtain ⟨lexeme, rest, hlexeme, hrest, rfl⟩ := List.forall₂_cons_right_iff.mp h
  exact ⟨lexeme, rest, rfl, hlexeme, hrest⟩

theorem split {lexemes : List Lexeme} {first second : List Symbol}
    (h : Match lexemes (first ++ second)) :
    ∃ front rest, lexemes = front ++ rest ∧ Match front first ∧ Match rest second := by
  induction first generalizing lexemes with
  | nil => exact ⟨[], lexemes, rfl, List.Forall₂.nil, h⟩
  | cons symbol first ih =>
    obtain ⟨lexeme, lexemes, rfl, hlexeme, h⟩ := uncons h
    obtain ⟨front, rest, rfl, hfront, hrest⟩ := ih h
    exact ⟨lexeme :: front, rest, rfl, List.Forall₂.cons hlexeme hfront, hrest⟩

theorem single {lexemes : List Lexeme} {symbol : Symbol} (h : Match lexemes [symbol]) :
    ∃ token start stop, lexemes = [⟨token, start, stop⟩] ∧ token.Is symbol := by
  obtain ⟨⟨token, start, stop⟩, rest, rfl, his, hrest⟩ := h.uncons
  cases hrest
  exact ⟨token, start, stop, rfl, his⟩

end Match

/-- Whether a value may begin with the symbol. -/
def Symbol.opens : Symbol → Bool
  | .closeBrace | .closeBracket | .comma | .colon => false
  | _ => true

theorem IsValue.head {phrase : Phrase} (h : IsValue phrase) :
    ∃ symbol tail, phrase = symbol :: tail ∧ symbol.opens = true := by
  cases h <;> exact ⟨_, _, rfl, rfl⟩

/-- Going on behind a value, inside the brackets that are still open. -/
def goOn (size : Nat) (inside : List Bracket) (rest : List Lexeme) : Except Nat (List Lexeme) :=
  match inside with
  | [] => .ok rest
  | _ => skipFrom size inside .comma rest

/-- The phrase is skipped wherever a value may stand. -/
def Skips (phrase : Phrase) : Prop :=
  ∀ (front : List Lexeme), Match front phrase → ∀ (size : Nat) (inside : List Bracket)
    (rest : List Lexeme), skipFrom size inside .value (front ++ rest) = goOn size inside rest

theorem skipFrom_complete {size : Nat} {inside outer : List Bracket} {expected : Expected}
    {lexeme : Lexeme} {rest : List Lexeme}
    (h : skipToken inside expected lexeme
      = .ok (match outer with | [] => none | _ => some (outer, .comma))) :
    skipFrom size inside expected (lexeme :: rest) = goOn size outer rest := by
  rw [skipFrom, h]
  cases outer <;> rfl

theorem skips_scalar {symbol : Symbol} (h : symbol = .null ∨ (∃ value, symbol = .bool value) ∨
    symbol = .number ∨ ∃ text, symbol = .string text) : Skips [symbol] := by
  intro front hfront size inside rest
  obtain ⟨token, start, stop, rfl, his⟩ := hfront.single
  refine skipFrom_complete ?_
  obtain rfl | ⟨value, rfl⟩ | rfl | ⟨text, rfl⟩ := h <;> cases his <;> cases inside <;> rfl

namespace Bracket

def opening : Bracket → Symbol
  | array => .openBracket
  | object => .openBrace

def closing : Bracket → Symbol
  | array => .closeBracket
  | object => .closeBrace

/-- What comes behind a comma. -/
def next : Bracket → Expected
  | array => .value
  | object => .key

end Bracket

/-- The phrase is skipped inside such brackets, behind a comma or as the first one. -/
def SkipsInside (bracket : Bracket) (phrase : Phrase) : Prop :=
  ∀ (front : List Lexeme), Match front phrase → ∀ (size : Nat) (inside : List Bracket)
    (rest : List Lexeme),
    skipFrom size (bracket :: inside) bracket.next (front ++ rest)
        = skipFrom size (bracket :: inside) .comma rest ∧
      skipFrom size (bracket :: inside) .opened (front ++ rest)
        = skipFrom size (bracket :: inside) .comma rest

theorem skip_close {bracket : Bracket} {front : List Lexeme}
    (hfront : Match front [bracket.closing]) (size : Nat) (inside : List Bracket)
    (rest : List Lexeme) :
    skipFrom size (bracket :: inside) .comma (front ++ rest) = goOn size inside rest ∧
      skipFrom size (bracket :: inside) .opened (front ++ rest) = goOn size inside rest := by
  obtain ⟨token, start, stop, rfl, his⟩ := hfront.single
  cases bracket <;> cases his <;> constructor <;> refine skipFrom_complete ?_ <;>
    cases inside <;> rfl

/-- Further parts, each behind a comma, and the closing bracket. -/
theorem skip_parts {bracket : Bracket} {parts : List Phrase}
    (h : ∀ part ∈ parts, SkipsInside bracket part) {front : List Lexeme}
    (hfront : Match front (parts.flatMap (.comma :: ·) ++ [bracket.closing])) (size : Nat)
    (inside : List Bracket) (rest : List Lexeme) :
    skipFrom size (bracket :: inside) .comma (front ++ rest) = goOn size inside rest := by
  induction parts generalizing front with
  | nil => exact (skip_close hfront size inside rest).1
  | cons part parts ih =>
    rw [List.flatMap_cons, List.append_assoc, List.cons_append] at hfront
    obtain ⟨⟨token, start, stop⟩, tail, rfl, his, htail⟩ := hfront.uncons
    obtain ⟨own, behind, rfl, hown, hbehind⟩ := htail.split
    cases his
    have hpart := (h part List.mem_cons_self own hown size inside (behind ++ rest)).1
    have hnext : skipFrom size (bracket :: inside) .comma
        (⟨.comma, start, stop⟩ :: (own ++ (behind ++ rest)))
        = skipFrom size (bracket :: inside) bracket.next (own ++ (behind ++ rest)) := by
      rw [skipFrom]
      cases bracket <;> rfl
    rw [List.cons_append, List.append_assoc, hnext, hpart]
    exact ih (fun part hpart => h part (List.mem_cons_of_mem _ hpart)) hbehind

theorem skips_bracketed {bracket : Bracket} {parts : List Phrase}
    (h : ∀ part ∈ parts, SkipsInside bracket part) :
    Skips (bracket.opening :: (separated parts ++ [bracket.closing])) := by
  intro front hfront size inside rest
  obtain ⟨⟨token, start, stop⟩, tail, rfl, his, htail⟩ := hfront.uncons
  have hopen : skipFrom size inside .value (⟨token, start, stop⟩ :: (tail ++ rest))
      = skipFrom size (bracket :: inside) .opened (tail ++ rest) := by
    rw [skipFrom]
    cases bracket <;> cases his <;> rfl
  rw [List.cons_append, hopen]
  cases parts with
  | nil => exact (skip_close htail size inside rest).2
  | cons part parts =>
    rw [separated, List.append_assoc] at htail
    obtain ⟨own, behind, rfl, hown, hbehind⟩ := htail.split
    rw [List.append_assoc, (h part List.mem_cons_self own hown size inside (behind ++ rest)).2]
    exact skip_parts (fun part hpart => h part (List.mem_cons_of_mem _ hpart)) hbehind size
      inside rest

/-- An element of an array. -/
theorem skipsInside_array {item : Phrase} (hvalue : IsValue item) (h : Skips item) :
    SkipsInside .array item := by
  intro front hfront size inside rest
  have hnext := h front hfront size (.array :: inside) rest
  refine ⟨hnext, Eq.trans ?_ hnext⟩
  obtain ⟨symbol, phrase, rfl, hopens⟩ := hvalue.head
  obtain ⟨⟨token, start, stop⟩, tail, rfl, his, _⟩ := hfront.uncons
  rw [List.cons_append, skipFrom, skipFrom]
  cases his <;> first | rfl | cases hopens

theorem skipsInside_object {key : Option String} {value : Phrase} (h : Skips value) :
    SkipsInside .object (memberOf key value) := by
  intro front hfront size inside rest
  obtain ⟨⟨token, start, stop⟩, tail, rfl, his, htail⟩ := hfront.uncons
  obtain ⟨⟨second, first, last⟩, behind, rfl, hcolon, hbehind⟩ := htail.uncons
  cases hcolon
  have hvalue : skipFrom size (.object :: inside) .colon (⟨.colon, first, last⟩ :: (behind ++ rest))
      = skipFrom size (.object :: inside) .comma rest := by
    rw [skipFrom]
    exact h behind hbehind size (.object :: inside) rest
  rw [List.cons_append, skipFrom, skipFrom]
  cases his <;> exact ⟨hvalue, hvalue⟩

/-- Every value is skipped as a whole. -/
theorem IsValue.skips {phrase : Phrase} (h : IsValue phrase) : Skips phrase := by
  induction h with
  | null => exact skips_scalar (.inl rfl)
  | bool value => exact skips_scalar (.inr (.inl ⟨value, rfl⟩))
  | number => exact skips_scalar (.inr (.inr (.inl rfl)))
  | string text => exact skips_scalar (.inr (.inr (.inr ⟨text, rfl⟩)))
  | array hvalues ih =>
    exact skips_bracketed fun item hitem => skipsInside_array (hvalues item hitem) (ih item hitem)
  | @object members _ ih =>
    have hparts : ∀ part ∈ members.map fun member => memberOf member.1 member.2,
        SkipsInside .object part := by
      intro part hpart
      obtain ⟨member, hmember, rfl⟩ := List.mem_map.mp hpart
      exact skipsInside_object (ih member hmember)
    exact skips_bracketed hparts

/-- The reader takes exactly the phrase, and makes the value of it. -/
def Reads (read : Reader) (phrase : Phrase) (value : Value) : Prop :=
  ∀ (front : List Lexeme), Match front phrase → ∀ (rest : List Lexeme) (size : Nat),
    read ⟨front ++ rest, size⟩ = .ok (value, ⟨rest, size⟩)

/-- The phrase is a value, and the reader takes it. -/
def IsRead (read : Reader) (phrase : Phrase) (value : Value) : Prop :=
  IsValue phrase ∧ Reads read phrase value

namespace Reader

theorem reads_symbol {read : Reader} {symbol : Symbol} {value : Value}
    (h : ∀ token : Token, token.Is symbol → ∀ start stop rest size,
      read ⟨⟨token, start, stop⟩ :: rest, size⟩ = .ok (value, ⟨rest, size⟩)) :
    Reads read [symbol] value := by
  intro front hfront rest size
  obtain ⟨token, start, stop, rfl, his⟩ := hfront.single
  exact h token his start stop rest size

theorem text_reads (s : String) : Reads text [.string (some s)] (.text s) := by
  refine reads_symbol fun token his start stop rest size => ?_
  cases his
  rfl

theorem flag_reads (b : Bool) : Reads flag [.bool b] (.flag b) := by
  refine reads_symbol fun token his start stop rest size => ?_
  cases his
  rfl

theorem optional_reads_null (read : Reader) : Reads (optional read) [.null] .absent := by
  refine reads_symbol fun token his start stop rest size => ?_
  cases his
  rfl

theorem optionalText_reads (s : String) :
    Reads (optional text) [.string (some s)] (.text s) := by
  refine reads_symbol fun token his start stop rest size => ?_
  cases his
  rfl

theorem choice_reads {names : List String} {name : String} (h : name ∈ names) :
    Reads (choice names) [.string (some name)] (.text name) := by
  refine reads_symbol fun token his start stop rest size => ?_
  cases his
  simp [choice, nameAmong, h]

theorem nextElement_value {phrase : Phrase} (hvalue : IsValue phrase) {front : List Lexeme}
    (hfront : Match front phrase) (rest : List Lexeme) (size start stop : Nat) :
    Stream.nextElement true ⟨front ++ rest, size⟩ = .ok (some ⟨front ++ rest, size⟩) ∧
      Stream.nextElement false ⟨⟨.comma, start, stop⟩ :: (front ++ rest), size⟩
        = .ok (some ⟨front ++ rest, size⟩) := by
  obtain ⟨symbol, tail, rfl, hopens⟩ := hvalue.head
  obtain ⟨⟨token, first, last⟩, behind, rfl, his, _⟩ := hfront.uncons
  cases his <;> first | exact ⟨rfl, rfl⟩ | cases hopens

theorem nextElement_close (isFirst : Bool) (rest : List Lexeme) (size start stop : Nat) :
    Stream.nextElement isFirst ⟨⟨.closeBracket, start, stop⟩ :: rest, size⟩ = .ok none := by
  cases isFirst <;> rfl

theorem elements_step {read : Reader} {fuel : Nat} {isFirst : Bool} {s next later last : Stream}
    {value : Value} {values : List Value} (hnext : s.nextElement isFirst = .ok (some next))
    (hvalue : read next = .ok (value, later))
    (hvalues : elements read fuel false later = .ok (values, last)) :
    elements read (fuel + 1) isFirst s = .ok (value :: values, last) := by
  simp only [elements, bind, Except.bind, hnext, hvalue, hvalues]

theorem elements_close (read : Reader) (fuel : Nat) (isFirst : Bool) (rest : List Lexeme)
    (size start stop : Nat) :
    elements read (fuel + 1) isFirst ⟨⟨.closeBracket, start, stop⟩ :: rest, size⟩
      = .ok ([], ⟨rest, size⟩) := by
  simp only [elements, bind, Except.bind, nextElement_close, List.tail_cons]

def ReadsItems (read : Reader) (items : List Phrase) (values : List Value) : Prop :=
  List.Forall₂ (IsRead read) items values

/-- Further elements, each behind a comma, and the closing bracket. -/
theorem elements_behind {read : Reader} {items : List Phrase} {values : List Value}
    (hitems : ReadsItems read items values) {front : List Lexeme}
    (hfront : Match front (items.flatMap (.comma :: ·) ++ [.closeBracket])) {fuel : Nat}
    (hfuel : items.length ≤ fuel) (rest : List Lexeme) (size : Nat) :
    elements read (fuel + 1) false ⟨front ++ rest, size⟩ = .ok (values, ⟨rest, size⟩) := by
  induction hitems generalizing front fuel with
  | nil =>
    obtain ⟨token, start, stop, rfl, his⟩ := hfront.single
    cases his
    exact elements_close read fuel false rest size start stop
  | @cons item value items values hitem _ ih =>
    obtain ⟨hvalue, hreads⟩ := hitem
    rw [List.flatMap_cons, List.append_assoc, List.cons_append] at hfront
    obtain ⟨⟨token, start, stop⟩, tail, rfl, his, htail⟩ := hfront.uncons
    obtain ⟨own, behind, rfl, hown, hbehind⟩ := htail.split
    cases his
    obtain ⟨fuel, rfl⟩ : ∃ n, fuel = n + 1 := Nat.exists_eq_succ_of_ne_zero (by
      rw [List.length_cons] at hfuel
      omega)
    rw [List.cons_append, List.append_assoc]
    refine elements_step (nextElement_value hvalue hown (behind ++ rest) size start stop).2
      (hreads own hown (behind ++ rest) size) (ih hbehind ?_)
    exact Nat.le_of_succ_le_succ hfuel

theorem length_le_flatMap (items : List Phrase) :
    items.length ≤ (items.flatMap (Symbol.comma :: ·)).length := by
  induction items with
  | nil => exact Nat.le_refl _
  | cons item items ih =>
    rw [List.flatMap_cons, List.length_append, List.length_cons, List.length_cons]
    omega

theorem list_reads {read : Reader} {items : List Phrase} {values : List Value}
    (hitems : ReadsItems read items values) : Reads (list read) (arrayOf items) (.list values) := by
  intro front hfront rest size
  obtain ⟨⟨token, start, stop⟩, tail, rfl, his, htail⟩ := hfront.uncons
  cases his
  have helements : elements read ((tail ++ rest).length + 1) true ⟨tail ++ rest, size⟩
      = .ok (values, ⟨rest, size⟩) := by
    cases hitems with
    | nil =>
      obtain ⟨token, start, stop, rfl, his⟩ := htail.single
      cases his
      exact elements_close read _ true rest size start stop
    | @cons item value items values hitem hitems =>
      obtain ⟨hvalue, hreads⟩ := hitem
      rw [separated, List.append_assoc] at htail
      obtain ⟨own, behind, rfl, hown, hbehind⟩ := htail.split
      have hlength := hbehind.length_eq
      have hitems' := length_le_flatMap items
      rw [List.length_append, List.length_singleton] at hlength
      obtain ⟨fuel, hfuel⟩ : ∃ n, (own ++ behind ++ rest).length = n + 1 :=
        Nat.exists_eq_succ_of_ne_zero (by
          rw [List.length_append, List.length_append]
          omega)
      rw [hfuel, List.append_assoc]
      refine elements_step (nextElement_value hvalue hown (behind ++ rest) size start stop).1
        (hreads own hown (behind ++ rest) size) (elements_behind hitems hbehind ?_ rest size)
      rw [List.length_append, List.length_append] at hfuel
      omega
  have hread : list read ⟨⟨.openBracket, start, stop⟩ :: (tail ++ rest), size⟩
      = (elements read ((tail ++ rest).length + 1) true ⟨tail ++ rest, size⟩).map fun found =>
          (.list found.1, found.2) := by
    simp only [list, List.length_cons, bind, Except.bind]
    cases elements read ((tail ++ rest).length + 1) true ⟨tail ++ rest, size⟩ <;> rfl
  rw [List.cons_append, hread, helements]
  rfl

/-- Whether one of the slots has the name. -/
def isNamed (slots : List Slot) (name : String) : Bool :=
  (slots.find? (·.name == name)).isSome

/-- What is known of the members that are still to come, and of those that have been found. Every
slot expects one value, whether the member is written or not. -/
structure Fits (slots : List Slot) (expected : String → Option Value)
    (members : List (String × Phrase)) (found : List (String × Value)) : Prop where
  known : ∀ member ∈ members, ∀ slot, slots.find? (·.name == member.1) = some slot →
    ∃ value, expected member.1 = some value ∧ Reads slot.read member.2 value
  unknown : ∀ member ∈ members, slots.find? (·.name == member.1) = none → IsValue member.2
  once : ((members.map Prod.fst).filter (isNamed slots)).Nodup
  new : ∀ member ∈ members, isNamed slots member.1 = true → found.lookup member.1 = none
  consistent : ∀ key value, found.lookup key = some value → expected key = some value
  covered : ∀ slot ∈ slots, slot.default = expected slot.name ∨
    (found.lookup slot.name).isSome ∨ slot.name ∈ members.map Prod.fst

namespace Fits

variable {slots : List Slot} {expected : String → Option Value} {key : String} {phrase : Phrase}
  {members : List (String × Phrase)} {found : List (String × Value)}

theorem complete (h : Fits slots expected [] found) :
    complete? slots found = slots.mapM fun slot => expected slot.name := by
  have hslots : ∀ slot ∈ slots,
      (found.lookup slot.name <|> slot.default) = expected slot.name := by
    intro slot hslot
    cases hfound : found.lookup slot.name with
    | some value => exact (h.consistent slot.name value hfound).symm
    | none =>
      rcases h.covered slot hslot with hdefault | hsome | hmem
      · exact hdefault
      · rw [hfound] at hsome
        cases hsome
      · cases hmem
  clear h
  unfold complete?
  induction slots with
  | nil => rfl
  | cons slot slots ih =>
    rw [List.mapM_cons, List.mapM_cons, hslots slot List.mem_cons_self,
      ih fun slot hslot => hslots slot (List.mem_cons_of_mem _ hslot)]

/-- A member that no slot names is skipped. -/
theorem skip (h : Fits slots expected ((key, phrase) :: members) found)
    (hslot : slots.find? (·.name == key) = none) :
    IsValue phrase ∧ Fits slots expected members found := by
  refine ⟨h.unknown _ List.mem_cons_self hslot,
    fun member hmember => h.known member (List.mem_cons_of_mem _ hmember),
    fun member hmember => h.unknown member (List.mem_cons_of_mem _ hmember), ?_,
    fun member hmember => h.new member (List.mem_cons_of_mem _ hmember), h.consistent,
    fun slot hmem => ?_⟩
  · have hnot : ¬isNamed slots key = true := by simp [isNamed, hslot]
    have honce := h.once
    rwa [List.map_cons, List.filter_cons_of_neg hnot] at honce
  · rcases h.covered slot hmem with hdefault | hfound | hname
    · exact .inl hdefault
    · exact .inr (.inl hfound)
    · rw [List.map_cons, List.mem_cons] at hname
      rcases hname with hname | hname
      · have hnot := List.find?_eq_none.mp hslot slot hmem
        simp [hname] at hnot
      · exact .inr (.inr hname)

/-- A member that a slot names is read, and is found from then on. -/
theorem read (h : Fits slots expected ((key, phrase) :: members) found) {slot : Slot}
    (hslot : slots.find? (·.name == key) = some slot) :
    found.lookup key = none ∧ ∃ value, Reads slot.read phrase value ∧
      Fits slots expected members ((key, value) :: found) := by
  have hknown : isNamed slots key = true := by simp [isNamed, hslot]
  have hnone : found.lookup key = none := h.new _ List.mem_cons_self hknown
  obtain ⟨value, hexpected, hreads⟩ := h.known _ List.mem_cons_self slot hslot
  have honce := h.once
  rw [List.map_cons, List.filter_cons_of_pos hknown, List.nodup_cons] at honce
  refine ⟨hnone, value, hreads,
    fun member hmember => h.known member (List.mem_cons_of_mem _ hmember),
    fun member hmember => h.unknown member (List.mem_cons_of_mem _ hmember), honce.2,
    fun member hmember hsome => ?_, fun other found' hfound => ?_, fun slot hmem => ?_⟩
  · have hne : member.1 ≠ key := by
      rintro rfl
      exact honce.1 (List.mem_filter.mpr ⟨List.mem_map_of_mem hmember, hsome⟩)
    rw [List.lookup_cons, beq_eq_false_iff_ne.mpr hne]
    exact h.new member (List.mem_cons_of_mem _ hmember) hsome
  · by_cases hother : other = key
    · subst hother
      rw [List.lookup_cons_self] at hfound
      obtain rfl := Option.some.inj hfound
      exact hexpected
    · rw [List.lookup_cons, beq_eq_false_iff_ne.mpr hother] at hfound
      exact h.consistent other found' hfound
  · rcases h.covered slot hmem with hdefault | hfound | hname
    · exact .inl hdefault
    · refine .inr (.inl ?_)
      rw [List.lookup_cons]
      split
      · rfl
      · exact hfound
    · rw [List.map_cons, List.mem_cons] at hname
      rcases hname with hname | hname
      · refine .inr (.inl ?_)
        rw [hname, List.lookup_cons_self]
        rfl
      · exact .inr (.inr hname)

end Fits

theorem nextKey_of_match {key : String} {value : Phrase} {front : List Lexeme}
    (h : Match front (memberOf (some key) value)) : ∃ own first last, Match own value ∧
      ∀ (rest : List Lexeme) (size start stop : Nat),
        Stream.nextKey true ⟨front ++ rest, size⟩
          = .ok (some (key, ⟨⟨.colon, first, last⟩ :: (own ++ rest), size⟩)) ∧
        Stream.nextKey false ⟨⟨.comma, start, stop⟩ :: (front ++ rest), size⟩
          = .ok (some (key, ⟨⟨.colon, first, last⟩ :: (own ++ rest), size⟩)) := by
  obtain ⟨⟨token, start, stop⟩, tail, rfl, his, htail⟩ := h.uncons
  obtain ⟨⟨second, first, last⟩, own, rfl, hcolon, hown⟩ := htail.uncons
  cases his
  cases hcolon
  exact ⟨own, first, last, hown, fun _ _ _ _ => ⟨rfl, rfl⟩⟩

section Members

variable {slots : List Slot} {expected : String → Option Value} {values : List Value}

/-- One member is read or skipped. -/
theorem members_step {key : String} {phrase : Phrase} {rest : List (String × Phrase)}
    {found : List (String × Value)} (h : Fits slots expected ((key, phrase) :: rest) found)
    {own behind : List Lexeme} (hown : Match own phrase) {isFirst : Bool} {s : Stream}
    {size first last : Nat} (hnext : s.nextKey isFirst
      = .ok (some (key, ⟨⟨.colon, first, last⟩ :: (own ++ behind), size⟩))) (fuel : Nat) :
    ∃ others, Fits slots expected rest others ∧
      members slots (fuel + 1) isFirst found s
        = members slots fuel false others ⟨behind, size⟩ := by
  cases hslot : slots.find? (·.name == key) with
  | none =>
    obtain ⟨hvalue, hrest⟩ := h.skip hslot
    have hskip : Stream.skip ⟨own ++ behind, size⟩ = .ok ⟨behind, size⟩ := by
      rw [Stream.skip, hvalue.skips own hown size [] behind]
      rfl
    refine ⟨found, hrest, ?_⟩
    simp only [members, bind, Except.bind, hnext, hslot, Stream.colon, hskip]
  | some slot =>
    obtain ⟨hnone, value, hreads, hrest⟩ := h.read hslot
    refine ⟨(key, value) :: found, hrest, ?_⟩
    simp only [members, bind, Except.bind, hnext, hslot, hnone, Stream.colon,
      hreads own hown behind size]
    rfl

theorem members_close (hvalues : (slots.mapM fun slot => expected slot.name) = some values)
    {found : List (String × Value)} (h : Fits slots expected [] found) (fuel : Nat)
    (isFirst : Bool) (rest : List Lexeme) (size start stop : Nat) :
    members slots (fuel + 1) isFirst found ⟨⟨.closeBrace, start, stop⟩ :: rest, size⟩
      = .ok (values, ⟨rest, size⟩) := by
  have hnext : Stream.nextKey isFirst ⟨⟨.closeBrace, start, stop⟩ :: rest, size⟩ = .ok none := by
    cases isFirst <;> rfl
  simp only [members, bind, Except.bind, hnext, h.complete, hvalues, List.tail_cons]

/-- Further members, each behind a comma, and the closing brace. -/
theorem members_behind (hvalues : (slots.mapM fun slot => expected slot.name) = some values)
    {written : List (String × Phrase)} {found : List (String × Value)}
    (h : Fits slots expected written found) {front : List Lexeme}
    (hfront : Match front
      ((written.map fun member => memberOf (some member.1) member.2).flatMap (.comma :: ·)
        ++ [.closeBrace])) {fuel : Nat} (hfuel : written.length ≤ fuel) (rest : List Lexeme)
    (size : Nat) :
    members slots (fuel + 1) false found ⟨front ++ rest, size⟩ = .ok (values, ⟨rest, size⟩) := by
  induction written generalizing front fuel found with
  | nil =>
    obtain ⟨token, start, stop, rfl, his⟩ := hfront.single
    cases his
    exact members_close hvalues h fuel false rest size start stop
  | cons member written ih =>
    obtain ⟨key, phrase⟩ := member
    rw [List.map_cons, List.flatMap_cons, List.append_assoc, List.cons_append] at hfront
    obtain ⟨⟨token, start, stop⟩, tail, rfl, his, htail⟩ := hfront.uncons
    obtain ⟨keyed, behind, rfl, hkeyed, hbehind⟩ := htail.split
    cases his
    obtain ⟨own, first, last, hown, hnext⟩ := nextKey_of_match hkeyed
    obtain ⟨fuel, rfl⟩ : ∃ n, fuel = n + 1 := Nat.exists_eq_succ_of_ne_zero (by
      rw [List.length_cons] at hfuel
      omega)
    obtain ⟨others, hothers, hstep⟩ :=
      members_step h hown (hnext (behind ++ rest) size start stop).2 (fuel + 1)
    rw [List.cons_append, List.append_assoc, hstep]
    exact ih hothers hbehind (Nat.le_of_succ_le_succ hfuel)

/-- A record is read from its members, in whatever order they come. -/
theorem record_reads (hvalues : (slots.mapM fun slot => expected slot.name) = some values)
    {written : List (String × Phrase)} (h : Fits slots expected written []) :
    Reads (record slots) (recordOf written) (.list values) := by
  intro front hfront rest size
  obtain ⟨⟨token, start, stop⟩, tail, rfl, his, htail⟩ := hfront.uncons
  cases his
  rw [List.map_map] at htail
  have hmembers : members slots ((tail ++ rest).length + 1) true [] ⟨tail ++ rest, size⟩
      = .ok (values, ⟨rest, size⟩) := by
    cases written with
    | nil =>
      obtain ⟨token, start, stop, rfl, his⟩ := htail.single
      cases his
      exact members_close hvalues h _ true rest size start stop
    | cons member written =>
      obtain ⟨key, phrase⟩ := member
      rw [List.map_cons, separated, List.append_assoc] at htail
      obtain ⟨keyed, behind, rfl, hkeyed, hbehind⟩ := htail.split
      have hlength := hbehind.length_eq
      have hitems := length_le_flatMap
        (written.map ((fun member => memberOf member.1 member.2) ∘
          fun member => (some member.1, member.2)))
      rw [List.length_append, List.length_singleton] at hlength
      rw [List.length_map] at hitems
      obtain ⟨own, first, last, hown, hnext⟩ := nextKey_of_match hkeyed
      obtain ⟨fuel, hfuel⟩ : ∃ n, (keyed ++ behind ++ rest).length = n + 1 :=
        Nat.exists_eq_succ_of_ne_zero (by
          rw [List.length_append, List.length_append]
          omega)
      obtain ⟨others, hothers, hstep⟩ :=
        members_step h hown (hnext (behind ++ rest) size start stop).1 (fuel + 1)
      rw [hfuel, List.append_assoc, hstep]
      refine members_behind hvalues hothers hbehind ?_ rest size
      rw [List.length_append, List.length_append] at hfuel
      omega
  have hread : record slots ⟨⟨.openBrace, start, stop⟩ :: (tail ++ rest), size⟩
      = (members slots ((tail ++ rest).length + 1) true [] ⟨tail ++ rest, size⟩).map fun found =>
          (.list found.1, found.2) := by
    simp only [record, List.length_cons, bind, Except.bind]
    cases members slots ((tail ++ rest).length + 1) true [] ⟨tail ++ rest, size⟩ <;> rfl
  rw [List.cons_append, hread, hmembers]
  rfl

end Members

end Reader

end DtoGen.Json

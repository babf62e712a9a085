import Mathlib.Data.List.Forall2
import DtoGen.Json.Token

namespace DtoGen.Json

/-- What a text is made of. -/
inductive Symbol
  | openBrace
  | closeBrace
  | openBracket
  | closeBracket
  | comma
  | colon
  | null
  | bool (value : Bool)
  | number
  /-- Without a text it may hold lone surrogates. -/
  | string (text : Option String)
deriving DecidableEq

/-- What stands for a character inside quotes, or for a UTF-16 unit. -/
inductive Part
  | char (c : Char)
  | unit (code : Nat)

/-- A hexadecimal digit, small or capital. -/
def HexDigit (c : Char) (n : Nat) : Prop :=
  n < 16 ∧ (c = n.digitChar ∨ c = n.digitChar.toUpper)

inductive SpellsPart : Part → List Char → Prop
  | plain {c : Char} (hcontrol : 0x20 ≤ c.toNat) (hquote : c ≠ '"') (hescape : c ≠ '\\') :
    SpellsPart (.char c) [c]
  | short {e c : Char} (h : (e, c) ∈ Lexeme.escapes) : SpellsPart (.char c) ['\\', e]
  | unit {a b c d : Char} {w x y z : Nat} (ha : HexDigit a w) (hb : HexDigit b x)
    (hc : HexDigit c y) (hd : HexDigit d z) :
    SpellsPart (.unit (((w * 16 + x) * 16 + y) * 16 + z)) ['\\', 'u', a, b, c, d]

inductive SpellsParts : List Part → List Char → Prop
  | nil : SpellsParts [] []
  | cons {part : Part} {parts : List Part} {cs rest : List Char} (hpart : SpellsPart part cs)
    (hparts : SpellsParts parts rest) : SpellsParts (part :: parts) (cs ++ rest)

/-- The text that parts stand for. A character beyond 16 bits takes two units. -/
inductive Means : List Part → List Char → Prop
  | nil : Means [] []
  | char (c : Char) {parts : List Part} {text : List Char} (h : Means parts text) :
    Means (.char c :: parts) (c :: text)
  | unit {c : Char} {parts : List Part} {text : List Char} (hc : c.toNat < 0x10000)
    (h : Means parts text) : Means (.unit c.toNat :: parts) (c :: text)
  | pair {c : Char} {parts : List Part} {text : List Char} (hc : 0x10000 ≤ c.toNat)
    (h : Means parts text) :
    Means (.unit (0xD800 + (c.toNat - 0x10000) / 0x400)
      :: .unit (0xDC00 + (c.toNat - 0x10000) % 0x400) :: parts) (c :: text)

def IsDigits (ds : List Char) : Prop :=
  ds ≠ [] ∧ ∀ d ∈ ds, d.isDigit = true

/-- No digit follows a leading zero. -/
inductive IsWhole : List Char → Prop
  | zero : IsWhole ['0']
  | digits {ds : List Char} (h : IsDigits ds) (hzero : ds.head? ≠ some '0') : IsWhole ds

inductive IsFraction : List Char → Prop
  | none : IsFraction []
  | digits {ds : List Char} (h : IsDigits ds) : IsFraction ('.' :: ds)

inductive IsExponent : List Char → Prop
  | none : IsExponent []
  | digits {e : Char} {sign ds : List Char} (he : e = 'e' ∨ e = 'E')
    (hsign : sign = [] ∨ sign = ['+'] ∨ sign = ['-']) (h : IsDigits ds) :
    IsExponent (e :: (sign ++ ds))

inductive IsNumeral : List Char → Prop
  | mk {sign whole fraction exponent : List Char} (hsign : sign = [] ∨ sign = ['-'])
    (hwhole : IsWhole whole) (hfraction : IsFraction fraction) (hexponent : IsExponent exponent) :
    IsNumeral (sign ++ (whole ++ (fraction ++ exponent)))

/-- The characters that would go on with a number. -/
def goesOn (c : Char) : Bool :=
  c.isDigit || c == '.' || c == 'e' || c == 'E'

inductive Spells : Symbol → List Char → Prop
  | openBrace : Spells .openBrace ['\x7b']
  | closeBrace : Spells .closeBrace ['\x7d']
  | openBracket : Spells .openBracket ['[']
  | closeBracket : Spells .closeBracket [']']
  | comma : Spells .comma [',']
  | colon : Spells .colon [':']
  | null : Spells .null "null".toList
  | bool (value : Bool) : Spells (.bool value) (if value then "true" else "false").toList
  | number {cs : List Char} (h : IsNumeral cs) : Spells .number cs
  | text {parts : List Part} {text : String} {body : List Char} (hmeans : Means parts text.toList)
    (h : SpellsParts parts body) : Spells (.string (some text)) ('"' :: body ++ ['"'])
  | loose {parts : List Part} {body : List Char} (h : SpellsParts parts body) :
    Spells (.string none) ('"' :: body ++ ['"'])

/-- The text spells the symbols, with blanks wherever it likes. A number goes as far as it can. -/
inductive Written : List Symbol → List Char → Prop
  | nil : Written [] []
  | blank {c : Char} {symbols : List Symbol} {cs : List Char} (hc : isBlank c = true)
    (h : Written symbols cs) : Written symbols (c :: cs)
  | symbol {symbol : Symbol} {symbols : List Symbol} {cs rest : List Char}
    (hsymbol : Spells symbol cs) (h : Written symbols rest)
    (hend : symbol = .number → ∀ c ∈ rest.head?, goesOn c = false) :
    Written (symbol :: symbols) (cs ++ rest)

/-- What the token of a symbol may be. -/
inductive Token.Is : Token → Symbol → Prop
  | openBrace : Token.Is .openBrace .openBrace
  | closeBrace : Token.Is .closeBrace .closeBrace
  | openBracket : Token.Is .openBracket .openBracket
  | closeBracket : Token.Is .closeBracket .closeBracket
  | comma : Token.Is .comma .comma
  | colon : Token.Is .colon .colon
  | null : Token.Is .null .null
  | bool (value : Bool) : Token.Is (.bool value) (.bool value)
  | number (stop : Nat) : Token.Is (.number stop) .number
  | text (text : String) : Token.Is (.string (.ok text)) (.string (some text))
  | loose (text : Except Nat String) : Token.Is (.string text) (.string none)

namespace Lexeme

theorem hexDigit?_of {c : Char} {n : Nat} (h : HexDigit c n) : hexDigit? c = some n := by
  have hall : ∀ n < 16,
      hexDigit? n.digitChar = some n ∧ hexDigit? n.digitChar.toUpper = some n := by decide
  obtain ⟨hn, rfl | rfl⟩ := h
  · exact (hall n hn).1
  · exact (hall n hn).2

def Piece.part : Piece → Part
  | .char c _ => .char c
  | .unit code _ => .unit code

/-- What is left to scan comes behind one more piece. -/
theorem scan_part {part : Part} {cs : List Char} (h : SpellsPart part cs) (size pos : Nat)
    (rest : List Char) : ∃ piece next, piece.part = part ∧
      scan size pos (cs ++ rest) = (scan size next rest).push piece := by
  cases h with
  | @plain c hcontrol hquote hescape =>
    refine ⟨.char c (pos + 1), pos + c.utf8Size, rfl, ?_⟩
    rw [List.singleton_append, scan, if_neg (by omega)]
    · exact hquote
    -- the patterns of an escape, which begin with a backslash
    · exact fun _ _ _ _ _ hc _ => hescape hc
    · exact fun _ hc _ => hescape hc
    · exact fun _ _ hc _ => hescape hc
    · exact fun hc _ => hescape hc
  | @short e c h =>
    refine ⟨.char c (pos + 2), pos + 2, rfl, ?_⟩
    simp only [escapes, List.mem_cons, Prod.mk.injEq, List.not_mem_nil, or_false] at h
    rcases h with ⟨rfl, rfl⟩ | ⟨rfl, rfl⟩ | ⟨rfl, rfl⟩ | ⟨rfl, rfl⟩ | ⟨rfl, rfl⟩ | ⟨rfl, rfl⟩ |
      ⟨rfl, rfl⟩ | ⟨rfl, rfl⟩ <;> rfl
  | @unit a b c d w x y z ha hb hc hd =>
    refine ⟨.unit (((w * 16 + x) * 16 + y) * 16 + z) (pos + 6), pos + 6, rfl, ?_⟩
    have hunit : hexUnit? a b c d = some (((w * 16 + x) * 16 + y) * 16 + z) := by
      simp [hexUnit?, hexDigit?_of ha, hexDigit?_of hb, hexDigit?_of hc, hexDigit?_of hd]
    simp only [List.cons_append, List.nil_append]
    rw [scan, hunit]

theorem scan_parts {parts : List Part} {body : List Char} (h : SpellsParts parts body)
    (size pos : Nat) (rest : List Char) : ∃ pieces stop, pieces.map Piece.part = parts ∧
      scan size pos (body ++ '"' :: rest) = .closed pieces stop rest := by
  induction h generalizing pos with
  | nil => exact ⟨[], pos + 1, rfl, rfl⟩
  | @cons part parts cs body hpart _ ih =>
    obtain ⟨piece, next, rfl, hstep⟩ := scan_part hpart size pos (body ++ '"' :: rest)
    obtain ⟨pieces, stop, rfl, hscan⟩ := ih next
    refine ⟨piece :: pieces, stop, rfl, ?_⟩
    rw [List.append_assoc, hstep, hscan]
    rfl

theorem exists_of_map_cons {pieces : List Piece} {part : Part} {parts : List Part}
    (h : pieces.map Piece.part = part :: parts) :
    ∃ piece others, pieces = piece :: others ∧ piece.part = part ∧
      others.map Piece.part = parts := by
  cases pieces with
  | nil => cases h
  | cons piece others =>
    obtain ⟨hpart, hparts⟩ := List.cons.inj h
    exact ⟨piece, others, rfl, hpart, hparts⟩

theorem eq_unit_of_part {piece : Piece} {code : Nat} (h : piece.part = .unit code) :
    ∃ seen, piece = .unit code seen := by
  cases piece with
  | char c seen => cases h
  | unit other seen =>
    obtain rfl := Part.unit.inj h
    exact ⟨seen, rfl⟩

/-- No character is half of a surrogate pair. -/
theorem toNat_bounds (c : Char) :
    c.toNat < 0xD800 ∨ 0xDFFF < c.toNat ∧ c.toNat < 0x110000 :=
  c.valid

/-- The pieces of a text are read as the text. -/
theorem decode_of_means {parts : List Part} {text : List Char} (h : Means parts text) (last : Nat)
    {pieces : List Piece} (hparts : pieces.map Piece.part = parts) :
    decode last pieces = .ok text := by
  induction h generalizing pieces with
  | nil =>
    obtain rfl := List.map_eq_nil_iff.mp hparts
    rfl
  | @char c parts text _ ih =>
    obtain ⟨piece, others, rfl, hpiece, hothers⟩ := exists_of_map_cons hparts
    cases piece with
    | unit code seen => cases hpiece
    | char other seen =>
      obtain rfl := Part.char.inj hpiece
      rw [decode, ih hothers]
      rfl
  | @unit c parts text hc _ ih =>
    obtain ⟨piece, others, rfl, hpiece, hothers⟩ := exists_of_map_cons hparts
    obtain ⟨seen, rfl⟩ := eq_unit_of_part hpiece
    have hbounds := toNat_bounds c
    have htrailing : isTrailing c.toNat = false := by
      simp [isTrailing]
      omega
    have hleading : isLeading c.toNat = false := by
      simp [isLeading]
      omega
    unfold decode
    rw [if_neg (by simp [htrailing]), if_neg (by simp [hleading]), ih hothers, Char.ofNat_toNat]
    rfl
  | @pair c parts text hc _ ih =>
    obtain ⟨piece, behind, rfl, hpiece, hbehind⟩ := exists_of_map_cons hparts
    obtain ⟨second, others, rfl, hsecond, hothers⟩ := exists_of_map_cons hbehind
    obtain ⟨seen, rfl⟩ := eq_unit_of_part hpiece
    obtain ⟨later, rfl⟩ := eq_unit_of_part hsecond
    have hbounds := toNat_bounds c
    generalize hhigh : 0xD800 + (c.toNat - 0x10000) / 0x400 = high
    generalize hlow : 0xDC00 + (c.toNat - 0x10000) % 0x400 = low
    have htrailing : isTrailing high = false := by
      simp [isTrailing]
      omega
    have hleading : isLeading high = true := by
      simp [isLeading]
      omega
    have htrailing' : isTrailing low = true := by
      simp [isTrailing]
      omega
    have hpair : ofPair high low = c := by
      have hcode : (high - 0xD800) * 0x400 + (low - 0xDC00) + 0x10000 = c.toNat := by omega
      rw [ofPair, hcode, Char.ofNat_toNat]
    unfold decode
    rw [if_neg (by simp [htrailing]), if_pos hleading]
    dsimp only
    rw [if_pos htrailing', hpair, ih hothers]
    rfl

theorem string_of_parts {parts : List Part} {body : List Char} (h : SpellsParts parts body)
    (size pos : Nat) (rest : List Char) : ∃ pieces stop, pieces.map Piece.part = parts ∧
      ofChars size pos '"' (body ++ '"' :: rest)
        = (⟨.string ((decode stop pieces).map String.ofList), pos, stop⟩, rest) := by
  obtain ⟨pieces, stop, hparts, hscan⟩ := scan_parts h size (pos + 1) rest
  refine ⟨pieces, stop, hparts, ?_⟩
  change string pos (scan size (pos + 1) (body ++ '"' :: rest)) = _
  rw [hscan]
  rfl

/-- The character after the digits is none. -/
def EndsDigits (rest : List Char) : Prop :=
  ∀ c ∈ rest.head?, c.isDigit = false

theorem digits_append {ds rest : List Char} (h : IsDigits ds) (hrest : EndsDigits rest)
    (size pos : Nat) : digits size pos (ds ++ rest) = .ok (pos + ds.length, rest) := by
  have htake : (ds ++ rest).takeWhile Char.isDigit = ds := by
    rw [List.takeWhile_append_of_pos h.2]
    cases rest with
    | nil => simp
    | cons c rest => simp [hrest c rfl]
  have hdrop : (ds ++ rest).dropWhile Char.isDigit = rest := by
    rw [List.dropWhile_append_of_pos h.2]
    cases rest with
    | nil => rfl
    | cons c rest => simp [hrest c rfl]
  unfold digits
  rw [htake, hdrop]
  obtain ⟨d, ds', rfl⟩ := List.exists_cons_of_ne_nil h.1
  rfl

theorem integer_append {whole rest : List Char} (h : IsWhole whole) (hrest : EndsDigits rest)
    (size pos : Nat) : ∃ stop, integer size pos (whole ++ rest) = .ok (stop, rest) := by
  cases h with
  | zero =>
    cases rest with
    | nil => exact ⟨pos + 1, rfl⟩
    | cons c rest =>
      refine ⟨pos + 1, ?_⟩
      simp [integer, hrest c rfl]
  | digits h hzero =>
    refine ⟨pos + whole.length, ?_⟩
    obtain ⟨d, ds, rfl⟩ := List.exists_cons_of_ne_nil h.1
    rw [← digits_append h hrest size pos]
    unfold integer
    split
    · rename_i heq
      simp_all
    · rfl

theorem fraction_append {cs rest : List Char} (h : IsFraction cs) (hrest : EndsDigits rest)
    (hpoint : cs = [] → '.' ∉ rest.head?) (size pos : Nat) :
    ∃ stop, fraction size pos (cs ++ rest) = .ok (stop, rest) := by
  cases h with
  | none =>
    refine ⟨pos, ?_⟩
    unfold fraction
    split
    · rename_i heq
      have hhead := hpoint rfl
      simp_all
    · rfl
  | @digits ds h =>
    refine ⟨pos + 1 + ds.length, ?_⟩
    exact digits_append h hrest size (pos + 1)

theorem exponent_append {cs rest : List Char} (h : IsExponent cs) (hrest : EndsDigits rest)
    (hletter : cs = [] → ∀ c ∈ rest.head?, c ≠ 'e' ∧ c ≠ 'E') (size pos : Nat) :
    ∃ stop tooLarge, exponent size pos (cs ++ rest) = .ok ((stop, rest), tooLarge) := by
  cases h with
  | none =>
    refine ⟨pos, none, ?_⟩
    cases rest with
    | nil => rfl
    | cons c rest =>
      obtain ⟨hsmall, hcapital⟩ := hletter rfl c rfl
      simp [exponent, hsmall, hcapital]
  | @digits e sign ds he hsign h =>
    have hmark : (e == 'e' || e == 'E') = true := by
      rcases he with rfl | rfl <;> rfl
    have hread := digits_append h hrest size
    rcases hsign with rfl | rfl | rfl
    · obtain ⟨d, ds', rfl⟩ := List.exists_cons_of_ne_nil h.1
      have hd : d.isDigit = true := h.2 d List.mem_cons_self
      simp only [List.nil_append, List.cons_append, exponent, hmark, if_true]
      split
      · rename_i heq
        obtain ⟨rfl, _⟩ := List.cons.inj heq
        exact absurd hd (by decide)
      · rename_i heq
        obtain ⟨rfl, _⟩ := List.cons.inj heq
        exact absurd hd (by decide)
      · have hdigits := hread (pos + 1)
        rw [List.cons_append] at hdigits
        rw [hdigits]
        exact ⟨_, _, rfl⟩
    · simp only [List.cons_append, List.nil_append, exponent, hmark, if_true, hread]
      exact ⟨_, _, rfl⟩
    · simp only [List.cons_append, List.nil_append, exponent, hmark, if_true, hread]
      exact ⟨_, _, rfl⟩

theorem exponent_head {cs : List Char} (h : IsExponent cs) :
    cs = [] ∨ ∃ e tail, cs = e :: tail ∧ (e = 'e' ∨ e = 'E') := by
  cases h with
  | none => exact .inl rfl
  | digits he _ _ => exact .inr ⟨_, _, rfl, he⟩

theorem fraction_head {cs : List Char} (h : IsFraction cs) :
    cs = [] ∨ ∃ tail, cs = '.' :: tail := by
  cases h with
  | none => exact .inl rfl
  | digits _ => exact .inr ⟨_, rfl⟩

theorem whole_head {cs : List Char} (h : IsWhole cs) :
    ∃ d tail, cs = d :: tail ∧ d.isDigit = true := by
  cases h with
  | zero => exact ⟨'0', [], rfl, rfl⟩
  | digits h _ =>
    obtain ⟨d, tail, rfl⟩ := List.exists_cons_of_ne_nil h.1
    exact ⟨d, tail, rfl, h.2 d List.mem_cons_self⟩

/-- The parts of a number are read one after another. -/
theorem mantissa_append {whole fraction exponent rest : List Char} (hwhole : IsWhole whole)
    (hfraction : IsFraction fraction) (hexponent : IsExponent exponent)
    (hrest : ∀ c ∈ rest.head?, goesOn c = false) (size pos : Nat) : ∃ p q stop tooLarge,
      integer size pos (whole ++ (fraction ++ (exponent ++ rest)))
        = .ok (p, fraction ++ (exponent ++ rest)) ∧
      Lexeme.fraction size p (fraction ++ (exponent ++ rest)) = .ok (q, exponent ++ rest) ∧
      Lexeme.exponent size q (exponent ++ rest) = .ok ((stop, rest), tooLarge) := by
  have hnone : ∀ c ∈ rest.head?, c.isDigit = false ∧ c ≠ '.' ∧ c ≠ 'e' ∧ c ≠ 'E' := by
    intro c hc
    simpa [goesOn, and_assoc] using hrest c hc
  have hends : EndsDigits rest := fun c hc => (hnone c hc).1
  have hbehind : EndsDigits (exponent ++ rest) ∧ '.' ∉ (exponent ++ rest).head? := by
    rcases exponent_head hexponent with rfl | ⟨e, tail, rfl, he⟩
    · exact ⟨hends, fun hc => (hnone _ hc).2.1 rfl⟩
    · constructor
      · intro c hc
        obtain rfl : e = c := by simpa using hc
        rcases he with rfl | rfl <;> rfl
      · rcases he with rfl | rfl <;> simp
  have hfirst : EndsDigits (fraction ++ (exponent ++ rest)) := by
    rcases fraction_head hfraction with rfl | ⟨tail, rfl⟩
    · exact hbehind.1
    · intro c hc
      obtain rfl : '.' = c := by simpa using hc
      rfl
  obtain ⟨p, hp⟩ := integer_append hwhole hfirst size pos
  obtain ⟨q, hq⟩ := fraction_append hfraction hbehind.1 (fun _ => hbehind.2) size p
  obtain ⟨stop, tooLarge, hstop⟩ := exponent_append hexponent hends
    (fun _ c hc => (hnone c hc).2.2) size q
  exact ⟨p, q, stop, tooLarge, hp, hq, hstop⟩

/-- A number is read up to a character that would not go on with it. -/
theorem number_append {cs rest : List Char} (h : IsNumeral cs)
    (hrest : ∀ c ∈ rest.head?, goesOn c = false) (size start : Nat) :
    ∃ value stop, number size start (cs ++ rest) = (⟨.number value, start, stop⟩, rest) := by
  obtain @⟨sign, whole, fraction, exponent, hsign, hwhole, hfraction, hexponent⟩ := h
  rw [List.append_assoc, List.append_assoc, List.append_assoc]
  rcases hsign with rfl | rfl
  · obtain ⟨p, q, stop, tooLarge, hp, hq, hstop⟩ :=
      mantissa_append hwhole hfraction hexponent hrest size start
    obtain ⟨d, tail, rfl, hd⟩ := whole_head hwhole
    simp only [List.nil_append, List.cons_append] at hp ⊢
    unfold number
    split
    rename_i hunsigned
    split at hunsigned
    · rename_i heq
      obtain ⟨rfl, _⟩ := List.cons.inj heq
      exact absurd hd (by decide)
    · obtain ⟨rfl, rfl⟩ := Prod.mk.inj hunsigned
      simp only [hp, bind, Except.bind, hq, hstop, pure, Except.pure]
      exact ⟨_, _, rfl⟩
  · obtain ⟨p, q, stop, tooLarge, hp, hq, hstop⟩ :=
      mantissa_append hwhole hfraction hexponent hrest size (start + 1)
    simp only [number, List.cons_append, List.nil_append, hp, bind, Except.bind, hq, hstop, pure,
      Except.pure]
    exact ⟨_, _, rfl⟩

theorem literal_append (word rest : List Char) (size pos : Nat) :
    literal size pos word (word ++ rest) = .ok rest := by
  induction word generalizing pos with
  | nil => rfl
  | cons c word ih =>
    rw [List.cons_append, literal, if_pos rfl]
    exact ih (pos + 1)

theorem word_append (token : Token) (name rest : List Char) (size start : Nat) :
    word size start token name (name ++ rest)
      = (⟨token, start, start + name.length⟩, rest) := by
  rw [word, literal_append]

theorem numeral_head {cs : List Char} (h : IsNumeral cs) :
    ∃ c tail, cs = c :: tail ∧ (c == '-' || c.isDigit) = true := by
  obtain @⟨sign, whole, fraction, exponent, hsign, hwhole, hfraction, hexponent⟩ := h
  rcases hsign with rfl | rfl
  · obtain ⟨d, tail, rfl, hd⟩ := whole_head hwhole
    exact ⟨d, _, rfl, by simp [hd]⟩
  · exact ⟨'-', _, rfl, rfl⟩

theorem ofChars_number {c : Char} (hc : (c == '-' || c.isDigit) = true) (size pos : Nat)
    (cs : List Char) : ofChars size pos c cs = number size pos (c :: cs) := by
  unfold ofChars
  split
  all_goals first | exact absurd hc (by decide) | exact if_pos hc

/-- The token of a symbol is read off its spelling. -/
theorem ofChars_of_spells {symbol : Symbol} {cs : List Char} (h : Spells symbol cs) :
    ∃ c tail, cs = c :: tail ∧ isBlank c = false ∧
      ∀ (size pos : Nat) (rest : List Char),
        (symbol = .number → ∀ c ∈ rest.head?, goesOn c = false) →
          ∃ lexeme, ofChars size pos c (tail ++ rest) = (lexeme, rest) ∧
            lexeme.token.Is symbol := by
  cases h with
  | openBrace => exact ⟨_, _, rfl, rfl, fun size pos rest _ => ⟨_, rfl, .openBrace⟩⟩
  | closeBrace => exact ⟨_, _, rfl, rfl, fun size pos rest _ => ⟨_, rfl, .closeBrace⟩⟩
  | openBracket => exact ⟨_, _, rfl, rfl, fun size pos rest _ => ⟨_, rfl, .openBracket⟩⟩
  | closeBracket => exact ⟨_, _, rfl, rfl, fun size pos rest _ => ⟨_, rfl, .closeBracket⟩⟩
  | comma => exact ⟨_, _, rfl, rfl, fun size pos rest _ => ⟨_, rfl, .comma⟩⟩
  | colon => exact ⟨_, _, rfl, rfl, fun size pos rest _ => ⟨_, rfl, .colon⟩⟩
  | null =>
    exact ⟨_, _, rfl, rfl, fun size pos rest _ =>
      ⟨_, word_append .null "null".toList rest size pos, .null⟩⟩
  | bool value =>
    cases value with
    | true =>
      exact ⟨_, _, rfl, rfl, fun size pos rest _ =>
        ⟨_, word_append (.bool true) "true".toList rest size pos, .bool true⟩⟩
    | false =>
      exact ⟨_, _, rfl, rfl, fun size pos rest _ =>
        ⟨_, word_append (.bool false) "false".toList rest size pos, .bool false⟩⟩
  | number h =>
    obtain ⟨c, tail, rfl, hc⟩ := numeral_head h
    refine ⟨c, tail, rfl, ?_, fun size pos rest hrest => ?_⟩
    · simp only [isBlank, Bool.or_eq_false_iff, beq_eq_false_iff_ne]
      refine ⟨⟨⟨?_, ?_⟩, ?_⟩, ?_⟩ <;> rintro rfl <;> exact absurd hc (by decide)
    · obtain ⟨value, stop, hnumber⟩ := number_append h (hrest rfl) size pos
      exact ⟨_, (ofChars_number hc size pos _).trans hnumber, .number value⟩
  | @text parts text body hmeans h =>
    refine ⟨'"', body ++ ['"'], rfl, rfl, fun size pos rest _ => ?_⟩
    obtain ⟨pieces, stop, hparts, hstring⟩ := string_of_parts h size pos rest
    rw [decode_of_means hmeans stop hparts] at hstring
    rw [List.append_assoc]
    refine ⟨_, hstring, ?_⟩
    change (Token.string (.ok (String.ofList text.toList))).Is _
    rw [String.ofList_toList]
    exact .text text
  | @loose parts body h =>
    refine ⟨'"', body ++ ['"'], rfl, rfl, fun size pos rest _ => ?_⟩
    obtain ⟨pieces, stop, _, hstring⟩ := string_of_parts h size pos rest
    rw [List.append_assoc]
    exact ⟨_, hstring, .loose _⟩

end Lexeme

/-- The tokens stand for the symbols, one for one. -/
def Match (lexemes : List Lexeme) (symbols : List Symbol) : Prop :=
  List.Forall₂ (fun lexeme symbol => lexeme.token.Is symbol) lexemes symbols

theorem lexFrom_of_written {symbols : List Symbol} {cs : List Char} (h : Written symbols cs)
    (size fuel pos : Nat) (hfuel : cs.length ≤ fuel) :
    Match (lexFrom size fuel pos cs) symbols := by
  induction h generalizing fuel pos with
  | nil =>
    cases fuel <;> exact .nil
  | @blank c symbols cs hc _ ih =>
    obtain ⟨fuel, rfl⟩ : ∃ n, fuel = n + 1 := Nat.exists_eq_succ_of_ne_zero (by
      rw [List.length_cons] at hfuel
      omega)
    rw [lexFrom, if_pos hc]
    exact ih fuel (pos + 1) (Nat.le_of_succ_le_succ hfuel)
  | @symbol symbol symbols cs rest hsymbol _ hend ih =>
    obtain ⟨c, tail, rfl, hc, hlexeme⟩ := Lexeme.ofChars_of_spells hsymbol
    obtain ⟨lexeme, hread, his⟩ := hlexeme size pos rest hend
    rw [List.cons_append, List.length_cons, List.length_append] at hfuel
    obtain ⟨fuel, rfl⟩ : ∃ n, fuel = n + 1 := Nat.exists_eq_succ_of_ne_zero (by omega)
    rw [List.cons_append, lexFrom, if_neg (by simp [hc]), hread]
    exact .cons his (ih fuel lexeme.stop (by omega))

/-- The tokens of a text are those of the symbols that it spells. -/
theorem lex_of_written {symbols : List Symbol} {text : String}
    (h : Written symbols text.toList) : Match (lex text) symbols :=
  lexFrom_of_written h _ _ 0 (Nat.le_of_eq String.length_toList)

end DtoGen.Json

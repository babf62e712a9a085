namespace DtoGen

structure GlyphRange where
  first : Char
  last : Char
deriving DecidableEq, Repr

inductive PatternItem
  | anything
  | anyChar
  | char (c : Char)
  | set (isNegated : Bool) (ranges : List GlyphRange)
  /-- One of the patterns, by the marks `?`, `*`, `+`, `@` and `!`. -/
  | choice (mark : Char) (patterns : List (List PatternItem))
deriving Repr

abbrev Pattern := List PatternItem

namespace Pattern

/-- A character of a text, and whether it is quoted. -/
abbrev Glyph := Char × Bool

def classes : List (String × List GlyphRange) :=
  [ ("alpha", [⟨'a', 'z'⟩, ⟨'A', 'Z'⟩]), ("digit", [⟨'0', '9'⟩]),
    ("alnum", [⟨'a', 'z'⟩, ⟨'A', 'Z'⟩, ⟨'0', '9'⟩]), ("upper", [⟨'A', 'Z'⟩]),
    ("lower", [⟨'a', 'z'⟩]), ("space", [⟨'\t', '\r'⟩, ⟨' ', ' '⟩]),
    ("blank", [⟨'\t', '\t'⟩, ⟨' ', ' '⟩]),
    ("punct", [⟨'!', '/'⟩, ⟨':', '@'⟩, ⟨'[', '\x60'⟩, ⟨'\x7b', '~'⟩]),
    ("xdigit", [⟨'0', '9'⟩, ⟨'a', 'f'⟩, ⟨'A', 'F'⟩]),
    ("cntrl", [⟨'\x00', '\x1f'⟩, ⟨'\x7f', '\x7f'⟩]),
    ("print", [⟨' ', '~'⟩]), ("graph", [⟨'!', '~'⟩]) ]

/-- The ranges of a class such as `:alpha:`, and what follows its closing bracket. -/
def namedClass? (cs : List Char) : Option (List GlyphRange × List Char) :=
  match cs with
  | ':' :: cs =>
    let name := cs.takeWhile (· != ':')
    match cs.drop name.length with
    | ':' :: ']' :: rest => (classes.lookup (String.ofList name)).map fun ranges => (ranges, rest)
    | _ => none
  | _ => none

/-- The ranges up to the closing bracket, which can come first as a member. The first argument
bounds the length. -/
def ranges : Nat → Bool → List Char → Option (List GlyphRange × List Char)
  | 0, _, _ | _, _, [] => none
  | bound + 1, isFirst, c :: cs =>
    if c = ']' && !isFirst then some ([], cs)
    else
      match c, namedClass? cs, cs with
      | '[', some (named, rest), _ => (ranges bound false rest).map fun (more, rest) =>
        (named ++ more, rest)
      | _, _, '-' :: last :: rest =>
        if last = ']' then (ranges bound false cs).map fun (more, rest) => (⟨c, c⟩ :: more, rest)
        else (ranges bound false rest).map fun (more, rest) => (⟨c, last⟩ :: more, rest)
      | _, _, _ => (ranges bound false cs).map fun (more, rest) => (⟨c, c⟩ :: more, rest)

/-- A set by what follows its opening bracket. -/
def set? (cs : List Char) : Option (PatternItem × List Char) :=
  match cs with
  | '!' :: rest | '^' :: rest =>
    (ranges (rest.length + 1) true rest).map fun (ranges, rest) => (.set true ranges, rest)
  | _ => (ranges (cs.length + 1) true cs).map fun (ranges, rest) => (.set false ranges, rest)

def choiceMarks : List Char :=
  ['?', '*', '+', '@', '!']

/-- The patterns between parentheses, and what follows these. `depth` counts the parentheses that
are open inside, and `current` is the pattern that has begun, its last character first. -/
def choices (depth : Nat) (current : List Glyph) :
    List Glyph → Option (List (List Glyph) × List Glyph)
  | [] => none
  | glyph :: glyphs =>
    match glyph, depth with
    | (')', false), 0 => some ([current.reverse], glyphs)
    | (')', false), depth + 1 => choices depth (glyph :: current) glyphs
    | ('(', false), depth => choices (depth + 1) (glyph :: current) glyphs
    | ('|', false), 0 =>
      (choices 0 [] glyphs).map fun (others, rest) => (current.reverse :: others, rest)
    | glyph, depth => choices depth (glyph :: current) glyphs

/-- The first argument bounds the length. -/
def itemsFrom (hasChoices : Bool) : Nat → List Glyph → Pattern
  | 0, _ | _, [] => []
  | bound + 1, (c, isQuoted) :: glyphs =>
    let next := itemsFrom hasChoices bound
    let found :=
      match hasChoices && !isQuoted && choiceMarks.contains c, glyphs with
      | true, ('(', false) :: inner => choices 0 [] inner
      | _, _ => none
    match found with
    | some (patterns, rest) => .choice c (patterns.map next) :: next rest
    | none =>
      if isQuoted then .char c :: next glyphs
      else match c with
        | '*' => .anything :: next glyphs
        | '?' => .anyChar :: next glyphs
        | '[' =>
          match set? (glyphs.map Prod.fst) with
          | some (item, rest) => item :: next (glyphs.drop (glyphs.length - rest.length))
          | none => .char c :: next glyphs
        | _ => .char c :: next glyphs

def ofGlyphs (hasChoices : Bool) (glyphs : List Glyph) : Pattern :=
  itemsFrom hasChoices (glyphs.length + 1) glyphs

/-- The characters of a text in which a backslash quotes what follows it. -/
def glyphs : List Char → List Glyph
  | '\\' :: c :: cs => (c, true) :: glyphs cs
  | c :: cs => (c, false) :: glyphs cs
  | [] => []

def ofText (text : String) : Pattern :=
  ofGlyphs false (glyphs text.toList)

/-- Whether an unquoted character makes the text more than the name of one file. -/
def isActive (glyphs : List Glyph) : Bool :=
  glyphs.any fun (c, isQuoted) => !isQuoted && ['*', '?', '['].contains c

/-- Whether a mark in front of a parenthesis makes the text a pattern. -/
def hasChoice : List Glyph → Bool
  | (c, false) :: ('(', false) :: glyphs =>
    choiceMarks.contains c || hasChoice (('(', false) :: glyphs)
  | _ :: glyphs => hasChoice glyphs
  | [] => false

/-- The ends of a text, the longest first. -/
def suffixes : List Char → List (List Char)
  | [] => [[]]
  | c :: cs => (c :: cs) :: suffixes cs

/-- Ends of one text without those that come again. -/
def distinct : List (List Char) → List (List Char)
  | [] => []
  | rest :: rests =>
    rest :: (distinct rests).filter fun other => other.length != rest.length

/-- What can be left behind any number of steps. The first argument bounds the number. -/
def afterRepeats (step : List Char → List (List Char)) : Nat → List Char → List (List Char)
  | 0, cs => [cs]
  | bound + 1, cs =>
    let further := (step cs).filter fun rest => rest.length < cs.length
    distinct (cs :: further.flatMap (afterRepeats step bound))

mutual

/-- What can be left of a text behind a start that fits. -/
def rests : List PatternItem → List Char → List (List Char)
  | [], cs => [cs]
  | item :: items, cs => distinct ((restsOf item cs).flatMap (rests items))

def restsOf : PatternItem → List Char → List (List Char)
  | .anything, cs => suffixes cs
  | .anyChar, cs => if cs.isEmpty then [] else [cs.tail]
  | .char d, cs => if cs.head? = some d then [cs.tail] else []
  | .set isNegated ranges, cs =>
    match cs with
    | c :: cs =>
      if (ranges.any fun r => r.first ≤ c && c ≤ r.last) != isNegated then [cs] else []
    | [] => []
  | .choice mark patterns, cs =>
    let once := restsOfAny patterns
    match mark with
    | '?' => cs :: once cs
    | '*' => afterRepeats once cs.length cs
    | '+' => (once cs).flatMap (afterRepeats once cs.length)
    | '!' =>
      let taken := (once cs).map List.length
      (suffixes cs).filter fun rest => !(taken.contains rest.length)
    | _ => once cs

def restsOfAny : List (List PatternItem) → List Char → List (List Char)
  | [], _ => []
  | pattern :: patterns, cs => rests pattern cs ++ restsOfAny patterns cs

end

def matchesText (items : Pattern) (cs : List Char) : Bool :=
  (rests items cs).any List.isEmpty

/-- The ways to cut a text in two. -/
def cuts (cs : List Char) : List (List Char × List Char) :=
  (List.range (cs.length + 1)).map fun n => (cs.take n, cs.drop n)

/-- The text without the shortest or longest start that fits. -/
def cutStart (isLongest : Bool) (items : Pattern) (cs : List Char) : List Char :=
  let candidates := if isLongest then (cuts cs).reverse else cuts cs
  match candidates.find? fun cut => matchesText items cut.1 with
  | some (_, rest) => rest
  | none => cs

/-- The text without the shortest or longest end that fits. -/
def cutEnd (isLongest : Bool) (items : Pattern) (cs : List Char) : List Char :=
  let candidates := if isLongest then cuts cs else (cuts cs).reverse
  match candidates.find? fun cut => matchesText items cut.2 with
  | some (rest, _) => rest
  | none => cs

/-- The longest start of a text that fits, and what is left behind it. -/
def longestStart? (items : Pattern) (cs : List Char) : Option (List Char × List Char) :=
  let best := (rests items cs).foldl
    (fun (best : Option (List Char)) rest =>
      match best with
      | some other => if rest.length < other.length then some rest else best
      | none => some rest)
    none
  best.map fun rest => (cs.take (cs.length - rest.length), rest)

/-- A text with matches replaced by what `change` makes of them. The first argument bounds the
length. -/
def replaceAll (items : Pattern) (change : List Char → List Char) (isOnce : Bool) :
    Nat → List Char → List Char
  | 0, cs => cs
  | bound + 1, cs =>
    match longestStart? items cs, cs with
    | some (c :: start, rest), _ =>
      change (c :: start) ++ if isOnce then rest else replaceAll items change isOnce bound rest
    | _, c :: cs => c :: replaceAll items change isOnce bound cs
    | _, [] => []

def replaceStart (items : Pattern) (change : List Char → List Char) (cs : List Char) :
    List Char :=
  match longestStart? items cs with
  | some (start, rest) => change start ++ rest
  | none => cs

def replaceEnd (items : Pattern) (change : List Char → List Char) (cs : List Char) : List Char :=
  match (cuts cs).find? fun cut => matchesText items cut.2 with
  | some (rest, found) => rest ++ change found
  | none => cs

end Pattern

end DtoGen

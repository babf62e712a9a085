import DtoGen.Machine.Regex

namespace DtoGen.Regex

structure Style where
  isExtended : Bool
  /-- Whether signs that have nothing to repeat or to close are faults. -/
  isStrict : Bool
  /-- Whether bytes may be written by their numbers. -/
  hasCodes : Bool

namespace Style

def editor (isExtended : Bool) : Style :=
  ⟨isExtended, true, true⟩

def search (isExtended : Bool) : Style :=
  ⟨isExtended, false, false⟩

/-- The style of comparisons without options. -/
def matching (isExtended : Bool) : Style :=
  ⟨isExtended, true, false⟩

end Style

inductive Fault
  | openGroup
  | lonelyClosing
  | openSet
  | badSet
  | namelessClass
  /-- A class outside of brackets. -/
  | bareClass
  | badRange
  | openInterval
  | badInterval
  | largeInterval
  | badReference
  | nothingToRepeat
  | lonelyBackslash
deriving DecidableEq, Repr

def Fault.message : Fault → String
  | openGroup => "Unmatched ( or \\("
  | lonelyClosing => "Unmatched ) or \\)"
  | openSet => "Unmatched [, [^, [:, [., or [="
  | badSet => "Invalid regular expression"
  | namelessClass => "Invalid character class name"
  | bareClass => "character class syntax is [[:space:]], not [:space:]"
  | badRange => "Invalid range end"
  | openInterval => "Unmatched \\\x7b"
  | badInterval => "Invalid content of \\\x7b\\\x7d"
  | largeInterval => "Regular expression too big"
  | badReference => "Invalid back reference"
  | nothingToRepeat => "Invalid preceding regular expression"
  | lonelyBackslash => "Trailing backslash"

/-- What stands at one point of an expression. -/
inductive Token
  | byte (b : UInt8)
  | set (isNegated : Bool) (ranges : List ByteRange)
  | edge (edge : WordEdge)
  | start
  | stop
  | textStart
  | textEnd
  | opening
  | closing
  | bar
  | repetition (least : Nat) (most : Option Nat)
  | again (number : Nat)
deriving DecidableEq, Repr

def byteOf (c : Char) : UInt8 :=
  UInt8.ofNat c.toNat

def rangeOf (first last : Char) : ByteRange :=
  ⟨byteOf first, byteOf last⟩

def classes : List (String × List ByteRange) :=
  [ ("alpha", [rangeOf 'a' 'z', rangeOf 'A' 'Z']), ("digit", [rangeOf '0' '9']),
    ("alnum", [rangeOf 'a' 'z', rangeOf 'A' 'Z', rangeOf '0' '9']), ("upper", [rangeOf 'A' 'Z']),
    ("lower", [rangeOf 'a' 'z']), ("space", [rangeOf '\t' '\r', rangeOf ' ' ' ']),
    ("blank", [rangeOf '\t' '\t', rangeOf ' ' ' ']),
    ("punct", [rangeOf '!' '/', rangeOf ':' '@', rangeOf '[' '\x60', rangeOf '\x7b' '~']),
    ("xdigit", [rangeOf '0' '9', rangeOf 'a' 'f', rangeOf 'A' 'F']),
    ("cntrl", [rangeOf '\x00' '\x1f', rangeOf '\x7f' '\x7f']), ("print", [rangeOf ' ' '~']),
    ("graph", [rangeOf '!' '~']) ]

def classOf (name : String) : List ByteRange :=
  (classes.lookup name).getD []

def text (bs : List UInt8) : String :=
  String.ofList (bs.map fun b => Char.ofNat b.toNat)

/-- Bytes of a text that stand for characters. -/
def ascii (s : String) : List UInt8 :=
  s.toUTF8.toList

/-- What stands between `[` with a mark and the mark with `]`, and what follows. -/
def marked? (mark : UInt8) : List UInt8 → Option (List UInt8 × List UInt8)
  | b :: c :: rest =>
    if b = mark && c = byteOf ']' then some ([], rest)
    else (marked? mark (c :: rest)).map fun (own, rest) => (b :: own, rest)
  | _ => none

/-- A member of a set: ranges of a class, or one byte that may start a range. -/
inductive Member
  | ranges (rs : List ByteRange)
  | byte (b : UInt8)

/-- Members of a set that a backslash names. -/
def setEscapes : List (Char × UInt8) :=
  [('n', 10), ('t', 9), ('r', 13), ('f', 12), ('v', 11), ('a', 7)]

def member (style : Style) (b : UInt8) (bs : List UInt8) : Except Fault (Member × List UInt8) := do
  match b, bs with
  | 91, mark :: rest =>
    if mark = byteOf ':' then
      match marked? mark rest with
      | some (name, rest) =>
        match classes.lookup (text name) with
        | some rs => return (.ranges rs, rest)
        | none => throw .namelessClass
      | none => throw .openSet
    else if mark = byteOf '.' || mark = byteOf '=' then
      match marked? mark rest with
      | some ([b], rest) => return (.byte b, rest)
      | some _ => throw .badSet
      | none => throw .openSet
    else return (.byte b, bs)
  | 92, c :: rest =>
    match if style.hasCodes then setEscapes.lookup (Char.ofNat c.toNat) else none with
    | some b => return (.byte b, rest)
    | none => return (.byte 92, bs)
  | b, bs => return (.byte b, bs)

/-- The ranges up to the closing bracket, which can come first as a member. The first argument
bounds the length. -/
def ranges (style : Style) : Nat → Bool → List UInt8 → Except Fault (List ByteRange × List UInt8)
  | 0, _, _ | _, _, [] => .error .openSet
  | bound + 1, isFirst, b :: bs => do
    if b = byteOf ']' && !isFirst then return ([], bs)
    let (first, rest) ← member style b bs
    match first, rest with
    | .ranges own, rest =>
      let (more, rest) ← ranges style bound false rest
      return (own ++ more, rest)
    | .byte first, 45 :: last :: rest =>
      if last = byteOf ']' then
        let (more, rest) ← ranges style bound false (45 :: last :: rest)
        return (⟨first, first⟩ :: more, rest)
      else
        let (last, rest) ← member style last rest
        match last with
        | .ranges _ => throw .badRange
        | .byte last =>
          let (more, rest) ← ranges style bound false rest
          if last < first then throw .badRange else return (⟨first, last⟩ :: more, rest)
    | .byte first, rest =>
      let (more, rest) ← ranges style bound false rest
      return (⟨first, first⟩ :: more, rest)

/-- Whether a text is a class that lacks its brackets. -/
def isBareClass (bs : List UInt8) : Bool :=
  match bs with
  | b :: rest =>
    (b == byteOf ':' || b == byteOf '.' || b == byteOf '=')
      && (match marked? b rest with
        | some (name, _) => !name.isEmpty && name.all fun c => c != byteOf ']'
        | none => false)
  | [] => false

def bracket (style : Style) (bs : List UInt8) : Except Fault (Token × List UInt8) := do
  let isNegated := bs.head? == some (byteOf '^')
  let rest := if isNegated then bs.drop 1 else bs
  if isBareClass bs then throw .bareClass
  if rest.isEmpty then throw .badSet
  let (ranges, rest) ← ranges style (rest.length + 1) true rest
  return (.set isNegated ranges, rest)

def takeNumber (bs : List UInt8) : Option Nat × List UInt8 :=
  let ds := bs.takeWhile fun b => byteOf '0' ≤ b && b ≤ byteOf '9'
  ((text ds).toNat?, bs.drop ds.length)

def mostRepetitions : Nat := 32767

/-- The bounds of a repetition, up to the text that closes them. -/
def bounds (closing : List UInt8) (bs : List UInt8) : Except Fault (Token × List UInt8) := do
  let (least, rest) := takeNumber bs
  let (most, behind) :=
    if rest.head? = some (byteOf ',') then takeNumber (rest.drop 1) else (least, rest)
  let hasNumber := least.isSome || rest.head? == some (byteOf ',')
  if closing.isPrefixOf behind && hasNumber then
    let low := least.getD 0
    if most.any (· < low) then throw .badInterval
    else if mostRepetitions < max low (most.getD 0) then throw .largeInterval
    else return (.repetition low most, behind.drop closing.length)
  else if behind.isEmpty then throw .openInterval
  else throw .badInterval

/-- A byte by its number behind a backslash: decimal, octal, hexadecimal, or a control character. -/
def code? (c : Char) (rest : List UInt8) : Option (UInt8 × List UInt8) :=
  let number (base count : Nat) : Option (UInt8 × List UInt8) :=
    let digit? (b : UInt8) : Option Nat :=
      let c := (Char.ofNat b.toNat).toLower
      let n := if c.isDigit then c.toNat - 48 else if 'a' ≤ c && c ≤ 'f' then c.toNat - 87 else 99
      if n < base then some n else none
    let ds := (rest.take count).takeWhile fun b => (digit? b).isSome
    if ds.isEmpty then none
    else
      let n := (ds.filterMap digit?).foldl (fun n d => n * base + d) 0
      some (UInt8.ofNat n, rest.drop ds.length)
  match c with
  | 'd' => number 10 3
  | 'o' => number 8 3
  | 'x' => number 16 2
  | 'c' =>
    match rest with
    | b :: rest =>
      let upper := if 97 ≤ b && b ≤ 122 then b - 32 else b
      some (upper ^^^ 64, rest)
    | [] => none
  | 'f' => some (12, rest)
  | 'v' => some (11, rest)
  | 'a' => some (7, rest)
  | 'n' => some (10, rest)
  | 't' => some (9, rest)
  | 'r' => some (13, rest)
  | _ => none

def escapedToken (style : Style) (c : Char) (rest : List UInt8) :
    Except Fault (Token × List UInt8) :=
  let plain : Except Fault (Token × List UInt8) := .ok (.byte (byteOf c), rest)
  match c with
  | 'w' => .ok (.set false wordRanges, rest)
  | 'W' => .ok (.set true wordRanges, rest)
  | 's' => .ok (.set false (classOf "space"), rest)
  | 'S' => .ok (.set true (classOf "space"), rest)
  | 'b' => .ok (.edge .either, rest)
  | 'B' => .ok (.edge .neither, rest)
  | '<' => .ok (.edge .start, rest)
  | '>' => .ok (.edge .stop, rest)
  | '\x60' => .ok (.textStart, rest)
  | '\'' => .ok (.textEnd, rest)
  | _ =>
    match if style.hasCodes then code? c rest else none with
    | some (b, rest) => .ok (.byte b, rest)
    | none =>
      if c.isDigit && c != '0' then .ok (.again (c.toNat - '0'.toNat), rest)
      else if style.isExtended then plain
      else match c with
        | '(' => .ok (.opening, rest)
        | ')' => .ok (.closing, rest)
        | '|' => .ok (.bar, rest)
        | '+' => .ok (.repetition 1 none, rest)
        | '?' => .ok (.repetition 0 (some 1), rest)
        | '\x7b' => bounds (ascii "\\\x7d") rest
        | _ => plain

def extendedToken (style : Style) (c : Char) (rest : List UInt8) :
    Except Fault (Token × List UInt8) :=
  let plain : Except Fault (Token × List UInt8) := .ok (.byte (byteOf c), rest)
  match c with
  | '(' => .ok (.opening, rest)
  | ')' => .ok (.closing, rest)
  | '|' => .ok (.bar, rest)
  | '+' => .ok (.repetition 1 none, rest)
  | '?' => .ok (.repetition 0 (some 1), rest)
  | '\x7b' =>
    match bounds (ascii "\x7d") rest with
    | .error .largeInterval => .error .largeInterval
    | .error fault =>
      let isInterval := fault == .badInterval
        && (rest.takeWhile (· != byteOf '\x7d')).all fun b =>
          (byteOf '0' ≤ b && b ≤ byteOf '9') || b == byteOf ','
      if style.isStrict || (isInterval && rest.head? != some (byteOf '\x7d')) then .error fault
      else plain
    | token => token
  | _ => plain

/-- Whether the text can end here. -/
def atStop (isExtended : Bool) (rest : List UInt8) : Bool :=
  rest.isEmpty || isExtended || (ascii "\\)").isPrefixOf rest || (ascii "\\|").isPrefixOf rest

/-- The next token. `isFirst` says that nothing stands in front of it in its branch. -/
def token (style : Style) (isFirst : Bool) (b : UInt8) (rest : List UInt8) :
    Except Fault (Token × List UInt8) :=
  let plain : Except Fault (Token × List UInt8) := .ok (.byte b, rest)
  let isExtended := style.isExtended
  match Char.ofNat b.toNat, rest with
  | '\\', c :: rest =>
    if isFirst && !isExtended && (c == byteOf '+' || c == byteOf '?') then .ok (.byte c, rest)
    else escapedToken style (Char.ofNat c.toNat) rest
  | '\\', [] => .error .lonelyBackslash
  | '.', rest => .ok (.set true [], rest)
  | '[', rest => bracket style rest
  | '*', rest => if isFirst && !isExtended then plain else .ok (.repetition 0 none, rest)
  | '^', rest => if isFirst || isExtended then .ok (.start, rest) else plain
  | '$', rest => if atStop isExtended rest then .ok (.stop, rest) else plain
  | c, rest => if isExtended then extendedToken style c rest else plain

def tokens (style : Style) : Nat → Bool → List UInt8 → Except Fault (List Token)
  | 0, _, _ | _, _, [] => .ok []
  | bound + 1, isFirst, b :: bs => do
    let (token, rest) ← token style isFirst b bs
    let opens := token == .opening || token == .bar || (token == .start && isFirst)
    return token :: (← tokens style bound opens rest)

/-- The repetitions behind an atom. A strict basic expression has no star behind a star. -/
def repetitions (style : Style) (isRepeated : Bool) (atom : Regex) :
    List Token → Except Fault (Regex × List Token)
  | .repetition least most :: rest =>
    if isRepeated && style.isStrict && !style.isExtended then .error .nothingToRepeat
    else repetitions style true (.repeated atom least most) rest
  | tokens => .ok (atom, tokens)

mutual

/-- Branches up to a closing token. `number` is the number of the next group. -/
def branches (style : Style) : Nat → Nat → List Token → Except Fault (Regex × Nat × List Token)
  | 0, _, _ => .error .openGroup
  | bound + 1, number, tokens => do
    let (first, number, rest) ← branch style bound number .empty tokens
    match rest with
    | .bar :: rest =>
      let (second, number, rest) ← branches style bound number rest
      return (.either first second, number, rest)
    | rest => return (first, number, rest)

def branch (style : Style) :
    Nat → Nat → Regex → List Token → Except Fault (Regex × Nat × List Token)
  | 0, _, _, _ => .error .openGroup
  | bound + 1, number, before, tokens => do
    match tokens with
    | [] | .bar :: _ | .closing :: _ => return (before, number, tokens)
    | token :: rest =>
      let (atom, number, rest) ← atom style bound number token rest
      let isRepetition := match token with
        | .repetition _ _ => true
        | _ => false
      if isRepetition && style.isStrict then throw .nothingToRepeat
      let (atom, rest) ← repetitions style isRepetition atom rest
      branch style bound number (.sequence before atom) rest

def atom (style : Style) :
    Nat → Nat → Token → List Token → Except Fault (Regex × Nat × List Token)
  | 0, _, _, _ => .error .openGroup
  | bound + 1, number, token, rest =>
    match token with
    | .byte b => .ok (.set false [⟨b, b⟩], number, rest)
    | .set isNegated ranges => .ok (.set isNegated ranges, number, rest)
    | .edge edge => .ok (.wordEdge edge, number, rest)
    | .start =>
      match style.isStrict && style.isExtended, rest with
      | true, .repetition _ _ :: _ => .error .nothingToRepeat
      | _, _ => .ok (.lineStart, number, rest)
    | .stop => .ok (.lineEnd, number, rest)
    | .textStart => .ok (.textStart, number, rest)
    | .textEnd => .ok (.textEnd, number, rest)
    | .again n => .ok (.again n, number, rest)
    | .opening => do
      let (body, next, rest) ← branches style bound (number + 1) rest
      match rest with
      | .closing :: rest => return (.group number body, next, rest)
      | _ => throw .openGroup
    | .repetition _ _ => .ok (.empty, number, rest)
    | .bar | .closing => .error .lonelyClosing

end

/-- A closing sign that nothing was opened for is a plain character of some styles. -/
def withPlainClosings : Nat → List Token → List Token
  | _, [] => []
  | depth, .opening :: rest => .opening :: withPlainClosings (depth + 1) rest
  | 0, .closing :: rest => .byte (byteOf ')') :: withPlainClosings 0 rest
  | depth + 1, .closing :: rest => .closing :: withPlainClosings depth rest
  | depth, token :: rest => token :: withPlainClosings depth rest

/-- The expression that a text denotes. -/
def parse (style : Style) (bs : List UInt8) : Except Fault Regex := do
  let tokens ← tokens style (bs.length + 1) true bs
  let tokens := if style.isExtended && !style.isStrict then withPlainClosings 0 tokens else tokens
  match ← branches style (4 * tokens.length + 4) 1 tokens with
  | (r, _, []) =>
    if r.references.any (r.groupCount < ·) then throw .badReference else return r
  | _ => throw .lonelyClosing

/-- The signs that have nothing to repeat, which a lenient style passes over. -/
def idleSigns (style : Style) (bs : List UInt8) : List String :=
  if !style.isExtended || style.isStrict then []
  else
    let isOpen : Option Token → Bool
      | none | some .opening | some .bar | some .start => true
      | _ => false
    match tokens style (bs.length + 1) true bs with
    | .error _ => []
    | .ok tokens =>
      ((none :: tokens.map some).zip tokens).filterMap fun (before, token) =>
        match isOpen before, token with
        | true, .repetition 0 none => some "*"
        | true, .repetition 1 none => some "+"
        | true, .repetition 0 (some 1) => some "?"
        | true, .repetition _ _ => some "\x7b...\x7d"
        | _, _ => none

/-- The expression of a text in the strict notation without codes. -/
def ofBytes? (isExtended : Bool) (bs : List UInt8) : Option Regex :=
  (parse (.matching isExtended) bs).toOption

end DtoGen.Regex

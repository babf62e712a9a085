import DtoGen.Machine.Regex.Notation

namespace DtoGen.Regex.Rich

inductive Fault
  | openGroup
  | lonelyClosing
  | openSet
  | nothingToRepeat
  | lonelyBackslash
  | badGroup

def Fault.message : Fault → String
  | openGroup => "missing closing parenthesis"
  | lonelyClosing => "unmatched closing parenthesis"
  | openSet => "missing terminating ] for character class"
  | nothingToRepeat => "quantifier does not follow a repeatable item"
  | lonelyBackslash => "\\ at end of pattern"
  | badGroup => "unrecognized character after (? or (?-"

/-- What has been read: the number of the next group, whether letter case counts, and the rest. -/
structure State where
  number : Nat
  ignoresCase : Bool
  names : List (String × Nat)
  rest : List UInt8

def single (b : UInt8) : Regex :=
  .set false [⟨b, b⟩]

def horizontal : List ByteRange :=
  classOf "blank"

def classLetters : List (Char × Bool × List ByteRange) :=
  [ ('d', false, classOf "digit"), ('D', true, classOf "digit"), ('w', false, wordRanges),
    ('W', true, wordRanges), ('s', false, classOf "space"), ('S', true, classOf "space"),
    ('h', false, horizontal), ('H', true, horizontal), ('N', true, [⟨10, 10⟩]) ]

def escapes : List (Char × UInt8) :=
  [('n', 10), ('t', 9), ('r', 13), ('f', 12), ('a', 7), ('e', 27)]

def complement (rs : List ByteRange) : List ByteRange :=
  let bs := ((List.range 256).map UInt8.ofNat).filter fun b => !contains false rs b
  bs.map fun b => ⟨b, b⟩

/-- The members of a set up to its closing bracket. The first argument bounds the length. -/
def members : Nat → Bool → List UInt8 → Except Fault (List ByteRange × List UInt8)
  | 0, _, _ | _, _, [] => .error .openSet
  | bound + 1, isFirst, b :: bs => do
    if b = byteOf ']' && !isFirst then return ([], bs)
    let add (own : List ByteRange) (rest : List UInt8) :
        Except Fault (List ByteRange × List UInt8) := do
      let (more, rest) ← members bound false rest
      return (own ++ more, rest)
    let one (first : UInt8) (rest : List UInt8) :
        Except Fault (List ByteRange × List UInt8) :=
      match rest with
      | 45 :: last :: rest =>
        if last = byteOf ']' then add [⟨first, first⟩] (45 :: last :: rest)
        else add [⟨first, last⟩] rest
      | rest => add [⟨first, first⟩] rest
    match b, bs with
    | 91, 58 :: rest =>
      match marked? 58 rest with
      | some (name, rest) => add (classOf (text name)) rest
      | none => one b bs
    | 92, c :: rest =>
      let letter := Char.ofNat c.toNat
      match classLetters.lookup letter, escapes.lookup letter with
      | some (isNegated, rs), _ => add (if isNegated then complement rs else rs) rest
      | none, some b => one b rest
      | none, none => one c rest
    | b, bs => one b bs

def set (bs : List UInt8) : Except Fault (Regex × List UInt8) := do
  let isNegated := bs.head? == some (byteOf '^')
  let (rs, rest) ← members (bs.length + 1) true (if isNegated then bs.drop 1 else bs)
  return (.set isNegated rs, rest)

/-- A repetition sign: its bounds, and what follows. -/
def repetition? (bs : List UInt8) : Option (Nat × Option Nat × List UInt8) :=
  match bs with
  | b :: rest =>
    match Char.ofNat b.toNat with
    | '*' => some (0, none, rest)
    | '+' => some (1, none, rest)
    | '?' => some (0, some 1, rest)
    | '\x7b' =>
      match (takeNumber rest).1, bounds (ascii "\x7d") rest with
      | some _, .ok (.repetition least most, rest) => some (least, most, rest)
      | _, _ => none
    | _ => none
  | [] => none

def repeatedBy (atom : Regex) (bs : List UInt8) : Except Fault (Regex × List UInt8) :=
  match repetition? bs with
  | none => .ok (atom, bs)
  | some (least, most, rest) =>
    let (r, rest) :=
      match rest with
      | 63 :: rest => (Regex.sparing atom least most, rest)
      | 43 :: rest => (Regex.settled (.repeated atom least most), rest)
      | rest => (Regex.repeated atom least most, rest)
    if (repetition? rest).isSome then .error .nothingToRepeat else .ok (r, rest)

/-- The text up to a mark, and what follows it. -/
def upTo (mark : UInt8) (bs : List UInt8) : List UInt8 × List UInt8 :=
  let own := bs.takeWhile (· != mark)
  (own, bs.drop (own.length + 1))

/-- The text that is quoted by `\Q`, up to `\E`. -/
def quotedText : List UInt8 → List UInt8 × List UInt8
  | 92 :: 69 :: rest => ([], rest)
  | b :: rest =>
    let (own, rest) := quotedText rest
    (b :: own, rest)
  | [] => ([], [])

def cased (state : State) (r : Regex) : Regex :=
  if state.ignoresCase then r.ignoringCase else r

def escaped (c : Char) (rest : List UInt8) (state : State) : Except Fault (Regex × State) :=
  let finish (r : Regex) (rest : List UInt8) : Except Fault (Regex × State) := .ok (cased state r, { state with rest })
  match classLetters.lookup c, escapes.lookup c with
  | some (isNegated, rs), _ => finish (.set isNegated rs) rest
  | none, some b => finish (single b) rest
  | none, none =>
    match c with
    | 'b' => finish (.wordEdge .either) rest
    | 'B' => finish (.wordEdge .neither) rest
    | 'A' => finish .textStart rest
    | 'z' | 'Z' => finish .textEnd rest
    | 'Q' =>
      let (own, rest) := quotedText rest
      finish (own.foldl (fun r b => .sequence r (single b)) .empty) rest
    | 'E' => finish .empty rest
    | 'x' =>
      match code? 'x' rest with
      | some (b, rest) => finish (single b) rest
      | none => finish (single 0) rest
    | 'k' =>
      let (name, rest) := upTo (byteOf '>') (rest.drop 1)
      finish (.again ((state.names.lookup (text name)).getD 0)) rest
    | _ =>
      if c.isDigit && c != '0' then finish (.again (c.toNat - '0'.toNat)) rest
      else finish (single (byteOf c)) rest

mutual

/-- Branches up to a closing parenthesis. The first argument bounds the length. -/
def branches : Nat → State → Except Fault (Regex × State)
  | 0, _ => .error .openGroup
  | bound + 1, state => do
    let (first, state) ← branch bound .empty state
    match state.rest with
    | 124 :: rest =>
      let (second, state) ← branches bound { state with rest }
      return (.either first second, state)
    | _ => return (first, state)

def branch : Nat → Regex → State → Except Fault (Regex × State)
  | 0, _, _ => .error .openGroup
  | bound + 1, before, state => do
    match state.rest with
    | [] | 124 :: _ | 41 :: _ => return (before, state)
    | b :: rest =>
      if (repetition? state.rest).isSome then throw .nothingToRepeat
      let (r, state) ← atom bound b { state with rest }
      let (r, rest) ← repeatedBy r state.rest
      branch bound (.sequence before r) { state with rest }

def atom : Nat → UInt8 → State → Except Fault (Regex × State)
  | 0, _, _ => .error .openGroup
  | bound + 1, b, state => do
    match Char.ofNat b.toNat with
    | '\\' =>
      match state.rest with
      | c :: rest => escaped (Char.ofNat c.toNat) rest state
      | [] => throw .lonelyBackslash
    | '.' => return (.set true [⟨10, 10⟩], state)
    | '^' => return (.lineStart, state)
    | '$' => return (.lineEnd, state)
    | '[' =>
      let (r, rest) ← set state.rest
      return (cased state r, { state with rest })
    | '(' => group bound state
    | _ => return (cased state (single b), state)

def group : Nat → State → Except Fault (Regex × State)
  | 0, _ => .error .openGroup
  | bound + 1, state => do
    let closed (build : Regex → Regex) (state : State) : Except Fault (Regex × State) := do
      let case := state.ignoresCase
      let (r, state) ← branches bound state
      match state.rest with
      | 41 :: rest => return (build r, { state with rest, ignoresCase := case })
      | _ => throw .openGroup
    let numbered (names : List (String × Nat)) (rest : List UInt8) : Except Fault (Regex × State) :=
      let number := state.number
      closed (.group number) { state with number := number + 1, names, rest }
    match state.rest with
    | 63 :: 58 :: rest => closed id { state with rest }
    | 63 :: 61 :: rest => closed (.ahead false) { state with rest }
    | 63 :: 33 :: rest => closed (.ahead true) { state with rest }
    | 63 :: 62 :: rest => closed .settled { state with rest }
    | 63 :: 35 :: rest => return (.empty, { state with rest := (upTo 41 rest).2 })
    | 63 :: 60 :: 61 :: rest => closed (.back false) { state with rest }
    | 63 :: 60 :: 33 :: rest => closed (.back true) { state with rest }
    | 63 :: 60 :: rest | 63 :: 80 :: 60 :: rest =>
      let (name, rest) := upTo (byteOf '>') rest
      numbered ((text name, state.number) :: state.names) rest
    | 63 :: 105 :: 41 :: rest => return (.empty, { state with rest, ignoresCase := true })
    | 63 :: 105 :: 58 :: rest => closed id { state with rest, ignoresCase := true }
    | 63 :: _ => throw .badGroup
    | rest => numbered state.names rest

end

/-- The expression that a text denotes. -/
def parse (bs : List UInt8) : Except Fault Regex := do
  let (r, state) ← branches (8 * bs.length + 8) ⟨1, false, [], bs⟩
  if state.rest.isEmpty then return r else throw .lonelyClosing

end DtoGen.Regex.Rich

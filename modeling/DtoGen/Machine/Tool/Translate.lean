import DtoGen.Machine.Tool.Order

namespace DtoGen.Tool

inductive SetPart
  | bytes (bs : Bytes)
  | named (name : String) (bs : Bytes)
  /-- A byte that is repeated so often; without a number, as often as needed. -/
  | repeated (b : UInt8) (count : Option Nat)
deriving DecidableEq, Repr

namespace SetPart

def classMembers? (name : String) : Option Bytes :=
  let all : Bytes := (List.range 256).map UInt8.ofNat
  let isOf : Option (UInt8 → Bool) :=
    match name with
    | "alpha" => some isLetter
    | "digit" => some isDigit
    | "alnum" => some fun b => isLetter b || isDigit b
    | "upper" => some fun b => 65 ≤ b && b ≤ 90
    | "lower" => some fun b => 97 ≤ b && b ≤ 122
    | "space" => some fun b => b == 32 || (9 ≤ b && b ≤ 13)
    | "blank" => some fun b => b == 32 || b == 9
    | "cntrl" => some fun b => b < 32 || b == 127
    | "print" => some fun b => 32 ≤ b && b < 127
    | "graph" => some fun b => 33 ≤ b && b < 127
    | "punct" => some fun b => 33 ≤ b && b < 127 && !isLetter b && !isDigit b
    | "xdigit" => some fun b =>
      isDigit b || (65 ≤ b && b ≤ 70) || (97 ≤ b && b ≤ 102)
    | _ => none
  isOf.map all.filter

def size : SetPart → Nat
  | bytes bs | named _ bs => bs.length
  | repeated _ count => count.getD 0

def isCase : SetPart → Bool
  | named name _ => name == "upper" || name == "lower"
  | _ => false

end SetPart

/-- A byte of a set, and whether it was written with a backslash. -/
abbrev SetByte := UInt8 × Bool

/-- The bytes of a set, its escapes read; and whether a lone backslash ends it. The first argument
bounds the length. -/
def unescapeSet : Nat → Bytes → List SetByte × Bool
  | 0, _ | _, [] => ([], false)
  | bound + 1, 92 :: bs =>
    let put (b : UInt8) (rest : Bytes) : List SetByte × Bool :=
      let (more, ends) := unescapeSet bound rest
      ((b, true) :: more, ends)
    let digits := (bs.take 3).takeWhile fun d => 48 ≤ d && d ≤ 55
    let value (ds : Bytes) : Nat := ds.foldl (fun n d => n * 8 + (d.toNat - 48)) 0
    let digits := if 255 < value digits then digits.take 2 else digits
    match bs with
    | [] => ([(92, false)], true)
    | c :: rest =>
      if !digits.isEmpty then put (UInt8.ofNat (value digits)) (bs.drop digits.length)
      else
        let escapes : List (Char × UInt8) :=
          [('n', 10), ('t', 9), ('r', 13), ('a', 7), ('b', 8), ('f', 12), ('v', 11), ('\\', 92)]
        put ((escapes.lookup (Char.ofNat c.toNat)).getD c) rest
  | bound + 1, b :: bs =>
    let (more, ends) := unescapeSet bound bs
    ((b, false) :: more, ends)

/-- The text up to a mark and a closing bracket, and what follows. -/
def upToClosing (mark : UInt8) : List SetByte → Option (Bytes × List SetByte)
  | (b, false) :: (c, false) :: rest =>
    if b = mark && c = 93 then some ([], rest)
    else (upToClosing mark ((c, false) :: rest)).map fun (text, rest) => (b :: text, rest)
  | (b, _) :: rest => (upToClosing mark rest).map fun (text, rest) => (b :: text, rest)
  | [] => none

def rangeText (b : UInt8) : String :=
  if 32 ≤ b && b < 127 then String.singleton (Char.ofNat b.toNat)
  else "\\" ++ String.ofList (List.replicate (3 - (Nat.toDigits 8 b.toNat).length) '0'
    ++ Nat.toDigits 8 b.toNat)

/-- The number of a repetition, in the base that its first digit tells. -/
def repetitionCount? (digits : Bytes) : Option (Option Nat) :=
  if digits.isEmpty then some none
  else if !digits.all isDigit then none
  else
    let base := if digits.head? = some 48 then 8 else 10
    let n := digits.foldl (fun n d => n * base + (d.toNat - 48)) 0
    some (if n = 0 then none else some n)

/-- The parts of a set. The first argument bounds the length. -/
def setParts : Nat → List SetByte → Except String (List SetPart)
  | 0, _ | _, [] => .ok []
  | bound + 1, first :: rest =>
    let single (rest : List SetByte) : Except String (List SetPart) := do
      match rest with
      | (45, false) :: last :: behind =>
        if last.1 < first.1 then
          throw ("range-endpoints of '" ++ rangeText first.1 ++ "-" ++ rangeText last.1
            ++ "' are in reverse collating sequence order")
        else
          let bs := (List.range (last.1.toNat - first.1.toNat + 1)).map fun n =>
            UInt8.ofNat (first.1.toNat + n)
          return .bytes bs :: (← setParts bound behind)
      | rest => return .bytes [first.1] :: (← setParts bound rest)
    let named : Option (Except String (SetPart × List SetByte)) :=
      match first, rest with
      | (91, false), (58, false) :: rest =>
        (upToClosing 58 rest).map fun (name, rest) =>
          let name := shownText name
          match SetPart.classMembers? name with
          | some bs => .ok (.named name bs, rest)
          | none =>
            .error (if name = "" then "missing character class name '[::]'"
              else "invalid character class " ++ quoted name)
      | (91, false), (61, false) :: rest =>
        (upToClosing 61 rest).map fun (text, rest) =>
          match text with
          | [b] => .ok (.bytes [b], rest)
          | [] => .error "missing equivalence class character '[==]'"
          | text => .error (shownText text
            ++ ": equivalence class operand must be a single character")
      | (91, false), (b, _) :: (42, false) :: rest =>
        let digits := rest.takeWhile fun entry => entry.1 != 93
        match rest.drop digits.length, repetitionCount? (digits.map Prod.fst) with
        | _ :: behind, some count => some (.ok (.repeated b count, behind))
        | _ :: _, none =>
          some (.error ("invalid repeat count "
            ++ quoted (shownText (digits.map Prod.fst)) ++ " in [c*n] construct"))
        | [], _ => none
      | _, _ => none
    match named with
    | some (.ok (part, rest)) => do return part :: (← setParts bound rest)
    | some (.error message) => .error message
    | none => single rest

def setOf (text : String) : Except String (List SetPart) :=
  let bs := textBytes text
  let cs := (unescapeSet (bs.length + 1) bs).1
  setParts (cs.length + 1) cs

def spread (size : Nat) (parts : List SetPart) : Bytes :=
  let fixed := parts.foldl (fun n part => n + part.size) 0
  parts.flatMap fun part =>
    match part with
    | .bytes bs | .named _ bs => bs
    | .repeated b (some n) => List.replicate (min n (size + fixed)) b
    | .repeated b none => List.replicate (size - fixed) b

def squeeze (members : Bytes) : Bytes → Bytes
  | a :: b :: bs =>
    let rest := squeeze members (b :: bs)
    if a = b && members.contains a then rest else a :: rest
  | bs => bs

/-- The places in the bytes of a set where a class of letters of one case starts. -/
def caseStarts (parts : List SetPart) : List Nat :=
  (parts.foldl
    (fun (state : List Nat × Nat) part =>
      let (starts, place) := state
      (if part.isCase then starts ++ [place] else starts, place + part.size))
    ([], 0)).1

def translation? (truncates complements : Bool) (source target : List SetPart) :
    Except String (Bytes × Bytes) := do
  let all : Bytes := (List.range 256).map UInt8.ofNat
  let given := spread 0 source
  let from_ := if complements then all.filter fun b => !given.contains b else given
  let hasOther := target.any fun part =>
    match part with
    | .named _ _ => !part.isCase
    | _ => false
  if hasOther then
    throw "when translating, the only character classes that may appear in\nstring2 are 'upper' and 'lower'"
  if complements && source.any (fun part => match part with
      | .named _ _ => true
      | _ => false) && (spread from_.length target).eraseDups.length != 1 then
    throw "when translating with complemented character classes,\nstring2 must map all characters in the domain to one"
  let unbound := target.filter fun part =>
    match part with
    | .repeated _ none => true
    | _ => false
  if 1 < unbound.length then throw "only one [c*] repeat construct may appear in string2"
  let into := spread from_.length target
  if !complements && !((caseStarts target).all (caseStarts source).contains) then
    throw "misaligned [:upper:] and/or [:lower:] construct"
  if truncates then return (from_.take into.length, into)
  match into.getLast? with
  | none =>
    if from_.isEmpty then return ([], [])
    else throw "when not truncating set1, string2 must be non-empty"
  | some last => return (from_, into ++ List.replicate (from_.length - into.length) last)

def trChange? (a : Arguments) (source : List SetPart) (target : Option (List SetPart)) :
    Except String (Bytes → Bytes) := do
  let all : Bytes := (List.range 256).map UInt8.ofNat
  let complements := a.has "c"
  let members := spread 0 source
  let chosen := if complements then all.filter fun b => !members.contains b else members
  let isOpen := source.any fun part =>
    match part with
    | .repeated _ none => true
    | _ => false
  if isOpen then throw "the [c*] repeat construct may not appear in string1"
  match target, a.has "d", a.has "s" with
  | _, true, false => return fun text => text.filter fun b => !chosen.contains b
  | some target, true, true =>
    let kept := spread 0 target
    return fun text => squeeze kept (text.filter fun b => !chosen.contains b)
  | none, _, true => return squeeze chosen
  | some target, false, squeezes =>
    let (from_, into) ← translation? (a.has "t") complements source target
    let pairs := (from_.zip into).reverse
    let table : Array UInt8 := (all.map fun b => (pairs.lookup b).getD b).toArray
    let last := spread from_.length target
    return fun text =>
      let text := text.map fun b => (table[b.toNat]?).getD b
      if squeezes then squeeze last text else text
  | none, _, false => return fun text => text

def tr : Shell.Command :=
  withArguments (frontGrammar ["c|C|complement", "d|delete", "s|squeeze-repeats",
      "t|truncate-set1"]) 1 fun a shell =>
    let least := if a.has "d" == a.has "s" then 2 else 1
    let most := if a.has "d" && !a.has "s" then 1 else 2
    let withHint (message more : String) : Shell :=
      let shell := fail message 1 shell
      (if more = "" then shell else shell.warn more).warn (hint shell)
    match a.operands, a.operands[most]? with
    | [], _ => misuse "missing operand" 1 shell
    | operands, some extra =>
      withHint ("extra operand " ++ quoted extra)
        (if operands.length = 2 then
          "Only one string may be given when deleting without squeezing repeats." else "")
    | [only], none =>
      if least = 1 then go a only none shell
      else
        withHint ("missing operand after " ++ quoted only)
          (if a.has "d" then
            "Two strings must be given when both deleting and squeezing repeats."
          else "Two strings must be given when translating.")
    | source :: target :: _, none => go a source (some target) shell
where
  go (a : Arguments) (source : String) (target : Option String) (shell : Shell) : Shell :=
    let bs := textBytes source
    let shell :=
      if (unescapeSet (bs.length + 1) bs).2 then
        fail "warning: an unescaped backslash at end of string is not portable" shell.status shell
      else shell
    let change : Except String (Bytes → Bytes) := do
      let source ← setOf source
      let target ← target.mapM setOf
      trChange? a source target
    match change with
    | .error message => fail message 1 shell
    | .ok change =>
      let (content, shell) := takeAll 0 shell
      shell.write (ofBytes (change content.toList))

end DtoGen.Tool

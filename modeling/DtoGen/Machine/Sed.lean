import DtoGen.Machine.Regex.Notation
import DtoGen.Text.Utf8

namespace DtoGen.Sed

inductive Address
  | line (n : Nat)
  | last
  /-- Every so many lines, from a line on. -/
  | stepped (first step : Nat)
  | pattern (r : Option Regex)
deriving Repr

inductive Selector
  | all
  | one (address : Address)
  | range (first second : Address)
  /-- The lines from the first one on. -/
  | upTo (second : Address)
  /-- That many lines more. -/
  | extent (first : Address) (count : Nat)
  /-- Up to the next line whose number is a multiple. -/
  | multiple (first : Address) (step : Nat)
deriving Repr

inductive Casing
  | upper
  | lower
  | keep
deriving DecidableEq, Repr

inductive Part
  | text (bs : List UInt8)
  | group (number : Nat)
  /-- The letter case of what follows, or only of its first byte. -/
  | casing (casing : Casing) (isOnce : Bool)
deriving DecidableEq, Repr

structure Substitution where
  pattern : Option Regex
  replacement : List Part
  /-- The first match that is replaced; with `isGlobal` those behind it, too. -/
  number : Nat
  isGlobal : Bool
  prints : Bool
  /-- Where the line is written, too. -/
  file : Option String
deriving Repr

inductive Command
  | substitute (s : Substitution)
  | transliterate (source target : List UInt8)
  | delete
  | deleteFirst
  | print
  | printFirst
  | lineNumber
  | quit (prints : Bool) (status : Nat)
  | append (text : List UInt8)
  | insert (text : List UInt8)
  | change (text : List UInt8)
  | next
  | join
  | hold
  | holdMore
  | fetch
  | fetchMore
  | exchange
  | label (name : List UInt8)
  | branch (name : List UInt8)
  /-- Jumps if something was replaced, or if nothing was. -/
  | branchOn (wasReplaced : Bool) (name : List UInt8)
  /-- The line with what is not plain written out, in lines of a width. -/
  | show (width : Option Nat)
  | clear
  /-- Adds the content of a file, or one line of it. -/
  | read (path : String)
  | readLine (path : String)
  /-- Writes the line to a file, or only its first line. -/
  | write (path : String)
  | writeFirst (path : String)
  | fileName
  | idle
  | opening
  | closing
deriving Repr

structure Step where
  selector : Selector
  isNegated : Bool
  command : Command
deriving Repr

/-- Where a text stops being a list of commands, by what is left behind that place. -/
structure Fault where
  left : Nat
  message : String

/-- What has been read, and the bytes behind it. -/
abbrev Read (α : Type) := α × List UInt8

def byteOf (c : Char) : UInt8 :=
  UInt8.ofNat c.toNat

def isByte (c : Char) (bs : List UInt8) : Bool :=
  bs.head? == some (byteOf c)

def isBlank (b : UInt8) : Bool :=
  b == 32 || b == 9

def skipBlanks (bs : List UInt8) : List UInt8 :=
  bs.dropWhile isBlank

def skipSpace (bs : List UInt8) : List UInt8 :=
  bs.dropWhile fun b => isBlank b || b == 10 || b == byteOf ';'

/-- A text with the quotes that messages put around it. -/
def quoted (text : String) : String :=
  "\x60" ++ text ++ "'"

/-- The end of a set in brackets, which can have its closing bracket first. -/
def behindSet (bs : List UInt8) : List UInt8 :=
  let bs := if isByte '^' bs then bs.drop 1 else bs
  let bs := if isByte ']' bs then bs.drop 1 else bs
  bs.dropWhile fun b => b != byteOf ']' && b != 10

/-- How many bytes at the front are a set in brackets without its closing bracket. -/
def setLength (bs : List UInt8) : Nat :=
  if isByte '[' bs then
    let rest := behindSet (bs.drop 1)
    if isByte ']' rest then bs.length - rest.length else 0
  else 0

/-- The text up to an unprotected mark. A protected mark loses its backslash. In an expression a
mark in brackets is a member of the set. The first argument counts the bytes of such a set. -/
def until? (isRegex : Bool) (mark : UInt8) :
    Nat → List UInt8 → Option (List UInt8 × List UInt8)
  | _, [] => none
  | held + 1, b :: bs =>
    (until? isRegex mark held bs).map fun (text, rest) => (b :: text, rest)
  | 0, 92 :: b :: bs =>
    (until? isRegex mark 0 bs).map fun (text, rest) =>
      (if b = mark then b :: text else 92 :: b :: text, rest)
  | 0, b :: bs =>
    if b = mark then some ([], bs)
    else
      let held := if isRegex then setLength (b :: bs) - 1 else 0
      (until? isRegex mark held bs).map fun (text, rest) => (b :: text, rest)

/-- An expression of which nothing may be left out; an empty one is the last that was used. The
place of a fault is behind the command. -/
def regex (style : Regex.Style) (ignoresCase isRowWise : Bool) (text behind : List UInt8) :
    Except Fault (Option Regex) :=
  if text.isEmpty then .ok none
  else
    match Regex.parse style text with
    | .ok r =>
      let r := if ignoresCase then r.ignoringCase else r
      .ok (some (if isRowWise then r.rowWise else r))
    | .error fault => .error ⟨behind.length, fault.message⟩

def patternAddress (style : Regex.Style) (mark : UInt8) (bs : List UInt8) :
    Except Fault (Read Address) :=
  match until? true mark 0 bs with
  | none => .error ⟨0, "unterminated address regex"⟩
  | some (text, rest) => do
    let flags := rest.takeWhile fun b => b == byteOf 'I' || b == byteOf 'M'
    let rest := rest.drop flags.length
    let has (c : Char) : Bool := flags.contains (byteOf c)
    return (.pattern (← regex style (has 'I') (has 'M') text rest), rest)

/-- An address, if there is one. -/
def address (style : Regex.Style) (bs : List UInt8) : Except Fault (Read (Option Address)) :=
  match bs with
  | 47 :: bs => (patternAddress style 47 bs).map fun (a, rest) => (some a, rest)
  | 92 :: mark :: bs => (patternAddress style mark bs).map fun (a, rest) => (some a, rest)
  | 36 :: bs => .ok (some .last, bs)
  | _ =>
    match Regex.takeNumber bs with
    | (some n, rest) =>
      if isByte '~' rest then
        let (step, rest) := Regex.takeNumber (rest.drop 1)
        .ok (some (.stepped n (step.getD 0)), rest)
      else .ok (some (.line n), rest)
    | (none, _) => .ok (none, bs)

/-- Line zero is the start of a range that may end on the first line, and nothing else. -/
def checkZero (selector : Selector) (rest : List UInt8) : Except Fault Selector :=
  match selector with
  | .range (.line 0) (.pattern r) => .ok (.upTo (.pattern r))
  | .one (.line 0) | .range (.line 0) _ | .extent (.line 0) _ | .multiple (.line 0) _ =>
    .error ⟨rest.length - 1, "invalid usage of line address 0"⟩
  | selector => .ok selector

def selector (style : Regex.Style) (bs : List UInt8) : Except Fault (Read Selector) := do
  if isByte '+' bs || isByte '~' bs then
    throw ⟨bs.length - 2, "invalid usage of +N or ~N as first address"⟩
  match ← address style bs with
  | (none, rest) => return (.all, rest)
  | (some first, rest) =>
    let rest := skipBlanks rest
    if !isByte ',' rest then return (← checkZero (.one first) rest, rest)
    else
      let rest := skipBlanks (rest.drop 1)
      let unexpected : Fault := ⟨rest.length - 1, "unexpected " ++ quoted ","⟩
      if isByte '+' rest then
        let (n, rest) := Regex.takeNumber (rest.drop 1)
        return (← checkZero (.extent first (n.getD 0)) rest, rest)
      else if isByte '~' rest then
        let (n, rest) := Regex.takeNumber (rest.drop 1)
        return (← checkZero (.multiple first (n.getD 0)) rest, rest)
      else
        match ← address style rest with
        | (some second, rest) => return (← checkZero (.range first second) rest, rest)
        | (none, _) => throw unexpected

def casings : List (Char × Part) :=
  [ ('U', .casing .upper false), ('L', .casing .lower false), ('E', .casing .keep false),
    ('u', .casing .upper true), ('l', .casing .lower true) ]

def addText (b : UInt8) : List Part → List Part
  | .text bs :: parts => .text (b :: bs) :: parts
  | parts => .text [b] :: parts

/-- The parts of a replacement. The first argument bounds the length. -/
def replacementFrom : Nat → List UInt8 → List Part
  | 0, _ | _, [] => []
  | bound + 1, 92 :: b :: bs =>
    let c := Char.ofNat b.toNat
    match casings.lookup c, Regex.code? c bs with
    | some part, _ => part :: replacementFrom bound bs
    | none, some (code, rest) => addText code (replacementFrom bound rest)
    | none, none =>
      if c.isDigit then .group (c.toNat - '0'.toNat) :: replacementFrom bound bs
      else addText b (replacementFrom bound bs)
  | bound + 1, b :: bs =>
    if b = byteOf '&' then .group 0 :: replacementFrom bound bs
    else addText b (replacementFrom bound bs)

def replacement (bs : List UInt8) : List Part :=
  replacementFrom (bs.length + 1) bs

/-- The rest of a line as the name of a file, and what follows. -/
def filePath (bs : List UInt8) : Except Fault (String × List UInt8) :=
  let bs := skipBlanks bs
  let own := bs.takeWhile (· != 10)
  if own.isEmpty then .error ⟨bs.length, "missing filename in r/R/w/W commands"⟩
  else .ok (Text.decode ⟨own.toArray⟩, bs.drop own.length)

structure Flags where
  number : Option Nat
  isGlobal : Bool
  prints : Bool
  ignoresCase : Bool
  isRowWise : Bool
  file : Option String

def Flags.start : Flags :=
  ⟨none, false, false, false, false, none⟩

/-- The first argument bounds the length. -/
def flags : Nat → Flags → List UInt8 → Except Fault (Flags × List UInt8)
  | 0, fs, bs => .ok (fs, bs)
  | _, fs, [] => .ok (fs, [])
  | bound + 1, fs, b :: bs =>
    let multiple (name : String) : Except Fault (Flags × List UInt8) :=
      .error ⟨bs.length, "multiple " ++ name ++ " options to " ++ quoted "s" ++ " command"⟩
    match Char.ofNat b.toNat with
    | 'g' =>
      if fs.isGlobal then multiple (quoted "g") else flags bound { fs with isGlobal := true } bs
    | 'p' => if fs.prints then multiple (quoted "p") else flags bound { fs with prints := true } bs
    | 'i' | 'I' => flags bound { fs with ignoresCase := true } bs
    | 'm' | 'M' => flags bound { fs with isRowWise := true } bs
    | 'w' => (filePath bs).map fun (path, rest) => ({ fs with file := some path }, rest)
    | c =>
      if c.isDigit then
        let (number, rest) := Regex.takeNumber (b :: bs)
        if fs.number.isSome then multiple "number" else flags bound { fs with number } rest
      else .ok (fs, b :: bs)

/-- Whether a command may end in front of the text. -/
def isSeparated (rest : List UInt8) : Bool :=
  let rest := skipBlanks rest
  rest.isEmpty || isByte ';' rest || isByte '\n' rest || isByte '\x7d' rest || isByte '#' rest

/-- The two texts of a command, each with the mark behind it. -/
def twoTexts (name : Char) (bs : List UInt8) :
    Except Fault (List UInt8 × List UInt8 × List UInt8) :=
  let fault : Fault := ⟨0, "unterminated " ++ quoted (String.singleton name) ++ " command"⟩
  match bs with
  | [] => .error fault
  | mark :: bs =>
    match until? (name == 's') mark 0 bs with
    | none => .error fault
    | some (first, rest) =>
      match until? false mark 0 rest with
      | none => .error fault
      | some (second, rest) => .ok (first, second, rest)

def highestGroup (parts : List Part) : Nat :=
  parts.foldl
    (fun most part =>
      match part with
      | .group number => max most number
      | _ => most)
    0

def substitution (style : Regex.Style) (bs : List UInt8) : Except Fault (Read Command) := do
  let (pattern, text, rest) ← twoTexts 's' bs
  let (fs, rest) ← flags rest.length .start rest
  let option := quoted "s"
  if fs.number = some 0 then
    throw ⟨rest.length, "number option to " ++ option ++ " command may not be zero"⟩
  if !isSeparated rest then throw ⟨rest.length - 1, "unknown option to " ++ option⟩
  let r ← regex style fs.ignoresCase fs.isRowWise pattern rest
  let parts := replacement text
  let highest := highestGroup parts
  if r.any fun r => r.groupCount < highest then
    throw ⟨rest.length, "invalid reference \\" ++ toString highest ++ " on " ++ option
      ++ " command's RHS"⟩
  let number := fs.number.getD 1
  return (.substitute ⟨r, parts, number, fs.isGlobal, fs.prints, fs.file⟩, rest)

def unescaped : List UInt8 → List UInt8
  | 92 :: b :: bs =>
    let plain := ([('n', (10 : UInt8)), ('t', 9), ('r', 13), ('f', 12), ('v', 11), ('a', 7)]).lookup
      (Char.ofNat b.toNat)
    plain.getD b :: unescaped bs
  | b :: bs => b :: unescaped bs
  | [] => []

def transliteration (bs : List UInt8) : Except Fault (Read Command) := do
  let (source, target, rest) ← twoTexts 'y' bs
  let (source, target) := (unescaped source, unescaped target)
  if source.length = target.length then return (.transliterate source target, rest)
  else
    throw ⟨rest.length, "strings for " ++ quoted "y" ++ " command are different lengths"⟩

/-- A text up to the end of its line; a backslash takes the next line in. -/
def lineText : List UInt8 → List UInt8 × List UInt8
  | [] => ([], [])
  | 92 :: b :: bs =>
    let (text, rest) := lineText bs
    (b :: text, rest)
  | b :: bs =>
    if b = 10 then ([], bs)
    else
      let (text, rest) := lineText bs
      (b :: text, rest)

/-- A backslash keeps the blanks in front of the text. -/
def textArgument (bs : List UInt8) : List UInt8 × List UInt8 :=
  let bs := skipBlanks bs
  let bs := if ([92, 10] : List UInt8).isPrefixOf bs then bs.drop 2
    else if isByte '\\' bs then bs.drop 1
    else bs
  lineText bs

/-- The name behind a command that jumps. -/
def name (bs : List UInt8) : List UInt8 × List UInt8 :=
  let bs := skipBlanks bs
  let text := bs.takeWhile fun b => b != 10 && b != byteOf ';' && b != byteOf '\x7d'
  (text.reverse.dropWhile isBlank |>.reverse, bs.drop text.length)

def simpleCommands : List (Char × Command) :=
  [ ('d', .delete), ('D', .deleteFirst), ('p', .print), ('P', .printFirst), ('=', .lineNumber),
    ('n', .next), ('N', .join), ('h', .hold), ('H', .holdMore), ('g', .fetch), ('G', .fetchMore),
    ('x', .exchange), ('z', .clear), ('F', .fileName), ('\x7b', .opening), ('\x7d', .closing) ]

/-- Commands that take a text, which ends with its line. -/
def textCommand (build : List UInt8 → Command) (rest : List UInt8) : Except Fault (Read Command) :=
  if (skipBlanks rest).isEmpty then
    .error ⟨0, "expected \\ after " ++ quoted "a" ++ ", " ++ quoted "c" ++ " or " ++ quoted "i"⟩
  else
    let (text, rest) := textArgument rest
    .ok (build text, rest)

def nameCommand (build : List UInt8 → Command) (rest : List UInt8) : Except Fault (Read Command) :=
  let (text, rest) := name rest
  .ok (build text, rest)

def command (style : Regex.Style) (bs : List UInt8) : Except Fault (Read Command) :=
  match bs with
  | [] => .error ⟨0, "missing command"⟩
  | b :: rest =>
    let c := Char.ofNat b.toNat
    match simpleCommands.lookup c with
    | some command => .ok (command, rest)
    | none =>
      match c with
      | 's' => substitution style rest
      | 'y' => transliteration rest
      | 'l' =>
        let (width, rest) := Regex.takeNumber (skipBlanks rest)
        .ok (.show width, rest)
      | 'v' => .ok (.idle, rest.dropWhile fun b => b != 10 && b != byteOf ';')
      | 'r' => (filePath rest).map fun (path, rest) => (.read path, rest)
      | 'R' => (filePath rest).map fun (path, rest) => (.readLine path, rest)
      | 'w' => (filePath rest).map fun (path, rest) => (.write path, rest)
      | 'W' => (filePath rest).map fun (path, rest) => (.writeFirst path, rest)
      | 'q' | 'Q' =>
        let (status, rest) := Regex.takeNumber (skipBlanks rest)
        .ok (.quit (c = 'q') (status.getD 0), rest)
      | 'a' => textCommand .append rest
      | 'i' => textCommand .insert rest
      | 'c' => textCommand .change rest
      | ':' =>
        let (text, rest) := name rest
        if text.isEmpty then .error ⟨rest.length, "\":\" lacks a label"⟩
        else .ok (.label text, rest)
      | 'b' => nameCommand .branch rest
      | 't' => nameCommand (.branchOn true) rest
      | 'T' => nameCommand (.branchOn false) rest
      | _ => .error ⟨rest.length, "unknown command: " ++ quoted (String.singleton c)⟩

/-- Whether another command may follow at once. -/
def endsItself (command : Command) : Bool :=
  match command with
  | .opening | .append _ | .insert _ | .change _ => true
  | .read _ | .readLine _ | .write _ | .writeFirst _ => true
  | _ => false

def addressFault? (selector : Selector) (command : Command) : Option String :=
  match selector, command with
  | .all, _ => none
  | _, .label _ => some ": doesn't want any addresses"
  | .one _, _ => none
  | _, .quit _ _ => some "command only uses one address"
  | _, _ => none

/-- How many groups are open behind a command. -/
def depthBehind (depth : Nat) (command : Command) : Option Nat :=
  match command, depth with
  | .opening, _ => some (depth + 1)
  | .closing, 0 => none
  | .closing, depth + 1 => some depth
  | _, _ => some depth

/-- The steps of a text. The first argument bounds the length. -/
def steps (style : Regex.Style) (whole : Nat) : Nat → Nat → List UInt8 → Except Fault (List Step)
  | 0, _, _ => .ok []
  | bound + 1, depth, bs => do
    let bs := skipSpace bs
    if bs.isEmpty then
      if depth = 0 then return [] else throw ⟨whole, "unmatched " ++ quoted "\x7b"⟩
    else if isByte '#' bs then steps style whole bound depth (bs.dropWhile (· != 10))
    else
      let (selector, rest) ← selector style bs
      let rest := skipBlanks rest
      let isNegated := isByte '!' rest
      let rest := if isNegated then skipBlanks (rest.drop 1) else rest
      if isNegated && isByte '!' rest then throw ⟨rest.length - 1, "multiple " ++ quoted "!" ++ "s"⟩
      if isByte '#' rest && selector matches .one _ then
        throw ⟨rest.length - 1, "comments don't accept any addresses"⟩
      let (command, behind) ← command style rest
      if let some message := addressFault? selector command then
        throw ⟨match command with
          | .label _ => rest.length - 1
          | _ => behind.length, message⟩
      match depthBehind depth command with
      | none => throw ⟨behind.length, "unexpected " ++ quoted "\x7d"⟩
      | some depth =>
        if endsItself command || isSeparated behind then
          return ⟨selector, isNegated, command⟩ :: (← steps style whole bound depth behind)
        else
          throw ⟨(skipBlanks behind).length - 1, "extra characters after command"⟩

/-- The names that jumps need and that no step has. -/
def missingLabel? (steps : List Step) : Option (List UInt8) :=
  steps.findSome? fun step =>
    let wanted := match step.command with
      | .branch name | .branchOn _ name => name
      | _ => []
    let isThere := wanted.isEmpty || steps.any fun other =>
      match other.command with
      | .label own => own == wanted
      | _ => false
    if isThere then none else some wanted

def parse (style : Regex.Style) (text : List UInt8) : Except Fault (List Step) :=
  steps style text.length (text.length + 1) 0 text

end DtoGen.Sed

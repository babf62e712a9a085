import DtoGen.Machine.Regex.Notation
import DtoGen.Machine.Tool.Input

namespace DtoGen.Tool

/-- What has been written so far. -/
structure Copying where
  /-- The number of the next line. -/
  number : Nat
  /-- Whether the last line still has no end. -/
  isOpen : Bool
  /-- Whether the last line was empty. -/
  isBlank : Bool
  output : List Bytes

/-- A byte that is no plain character as it is shown. -/
def shownByte (b : UInt8) : Bytes :=
  let low (b : UInt8) : Bytes :=
    if b < 32 then [94, b + 64] else if b = 127 then [94, 63] else [b]
  if b < 128 then low b else [77, 45] ++ low (b - 128)

/-- A line with what is not plain made visible, as the options want it. -/
def revealed (a : Arguments) (line : Line) : Bytes :=
  let showsEnds := a.hasAny ["E", "A", "e"]
  let showsTabs := a.hasAny ["T", "A", "t"]
  let showsRest := a.hasAny ["v", "A", "e", "t"]
  let endsInReturn := showsEnds && line.hasEnd && line.bytes.getLast? == some 13
  let body := if endsInReturn && !showsRest then line.bytes.dropLast else line.bytes
  let text := body.flatMap fun b =>
    if b = 9 then if showsTabs then [94, 73] else [9]
    else if showsRest then shownByte b
    else [b]
  let text := if endsInReturn && !showsRest then text ++ [94, 77] else text
  if !line.hasEnd then text else if showsEnds then text ++ [36, 10] else text ++ [10]

def copyLine (a : Arguments) (state : Copying) (line : Line) : Copying :=
  let isEmpty := line.bytes.isEmpty && line.hasEnd && !state.isOpen
  if isEmpty && state.isBlank && a.has "s" then state
  else
    let isCounted := !state.isOpen && if a.has "b" then !isEmpty else a.has "n"
    let number := if isCounted then padLeft 6 (toString state.number) ++ "\t" else ""
    { number := if isCounted then state.number + 1 else state.number
      isOpen := !line.hasEnd
      isBlank := isEmpty
      output := revealed a line :: textBytes number :: state.output }

/-- Whether an operand is the file that the tool writes, with something in it. -/
def isOwnOutput (operand : String) (shell : Shell) : Bool :=
  match shell.outputs.lookup 1, shell.tree.locate? ⟨operand⟩ with
  | some (.file path), some place =>
    shell.tree.locate? path == some place
      && (shell.tree.readBytes? path).any fun content => !content.isEmpty
  | _, _ => false

/-- Copies each operand when its turn comes. -/
def concatenate : Shell.Command :=
  withArguments (grammar ["A|show-all", "b|number-nonblank", "e", "E|show-ends", "n|number",
      "s|squeeze-blank", "t", "T|show-tabs", "u", "v|show-nonprinting"]) 1 fun a shell =>
    let start : Copying := ⟨1, false, false, []⟩
    let step (state : Copying × Shell) (operand : String) : Copying × Shell :=
      let (copying, shell) := state
      if isOwnOutput operand shell then (copying, fail (becauseOf operand "input file is output file") 1 shell)
      else
        match content? .plain operand shell with
        | (none, shell) => (copying, shell)
        | (some content, shell) =>
          if a.options.all fun option => option.1 == "u" then (copying, shell.write content)
          else
            let copying := (cutLines 10 content.toList).foldl (copyLine a) copying
            let text := ofBytes copying.output.reverse.flatten
            ({ copying with output := [] }, shell.write text)
    ((orInput a.operands).foldl step (start, shell)).2

/-- The lines in the reverse order. A separator may stand in front of what it belongs to. -/
def reversed (isBefore : Bool) (separator text : Bytes) : Bytes :=
  let size := separator.length
  let rec records : Nat → Bytes → Bytes → List Bytes
    | 0, own, rest => [own.reverse ++ rest]
    | bound + 1, own, rest =>
      match rest with
      | [] => if own.isEmpty then [] else [own.reverse]
      | b :: bs =>
        if separator.isPrefixOf rest then
          if isBefore then
            (if own.isEmpty then [] else [own.reverse])
              ++ records bound separator.reverse (rest.drop size)
          else (own.reverse ++ separator) :: records bound [] (rest.drop size)
        else records bound (b :: own) bs
  (records (text.length + 1) [] text).reverse.flatten

def reverseLines : Shell.Command :=
  let wording : Wording := {
    closed := fun operand reason =>
      "failed to open " ++ quoted operand ++ " for reading: " ++ reason
    directory := fun operand => operand ++ ": read error: Invalid argument"
  }
  withArguments (grammar ["b|before", "r|regex", "s|separator="]) 1 fun a shell =>
    let separator := textBytes ((a.value? "s").getD "\n")
    let (texts, shell) := contents wording (orInput a.operands) shell
    shell.write (ofBytes (texts.flatMap fun entry =>
      reversed (a.has "b") separator entry.2.toList))

/-- Each line from its last character to its first one. -/
def reverseCharacters : Shell.Command :=
  let wording : Wording := {
    closed := fun operand reason => "cannot open " ++ operand ++ ": " ++ reason
    directory := fun operand => operand ++ ": Is a directory"
  }
  withArguments (grammar ["0|zero"]) 1 fun a shell =>
    let ending : UInt8 := if a.has "0" then 0 else 10
    let (texts, shell) := contents wording (orInput a.operands) shell
    let lines := cutLines ending (texts.flatMap fun entry => entry.2.toList)
    shell.write (ofBytes (lines.flatMap fun line =>
      line.bytes.reverse ++ if line.hasEnd then [ending] else []))

inductive Numbering
  | all
  | filled
  | nothing
  | fitting (r : Regex)

def numbering? (text : String) : Option Numbering :=
  match text.toList with
  | ['a'] => some .all
  | ['t'] => some .filled
  | ['n'] => some .nothing
  | 'p' :: cs => (Regex.ofBytes? false (textBytes (String.ofList cs))).map .fitting
  | _ => none

/-- The three parts of a page. -/
inductive Section
  | header
  | body
  | footer
deriving DecidableEq, Repr

/-- The part of a page that a line opens. -/
def sectionOf? (mark : Bytes) (line : Bytes) : Option Section :=
  if line = mark ++ mark ++ mark then some .header
  else if line = mark ++ mark then some .body
  else if line = mark then some .footer
  else none

structure LineNumbers where
  styles : Section → Numbering
  mark : Bytes
  start : Int
  step : Int
  width : Nat
  separator : String
  /-- Whether blanks stand behind the number, or zeros in front of it. -/
  isLeft : Bool
  isZeroed : Bool
  keepsCounting : Bool
  /-- How many empty lines in a row count as one. -/
  blanks : Nat

def LineNumbers.shown (n : LineNumbers) (i : Int) : String :=
  let text := toString i
  let fill := n.width - text.length
  if n.isLeft then text ++ String.ofList (List.replicate fill ' ')
  else if n.isZeroed then
    let sign := if i < 0 then "-" else ""
    sign ++ String.ofList (List.replicate fill '0') ++ toString i.natAbs
  else padLeft n.width text

structure NumberingState where
  number : Int
  part : Section
  blanks : Nat
  output : List Bytes

def numberLine (n : LineNumbers) (state : NumberingState) (line : Bytes) : NumberingState :=
  match sectionOf? n.mark line with
  | some s =>
    { state with
      number := if n.keepsCounting then state.number else n.start
      part := s
      output := [10] :: state.output }
  | none =>
    let blanks := if line.isEmpty then state.blanks + 1 else 0
    let isCounted :=
      match n.styles state.part with
      | .all => !line.isEmpty || blanks % n.blanks == 0
      | .filled => !line.isEmpty
      | .nothing => false
      | .fitting r => r.matchesLine line
    let front :=
      if isCounted then n.shown state.number ++ n.separator
      else String.ofList (List.replicate (n.width + n.separator.length) ' ')
    { state with
      number := if isCounted then state.number + n.step else state.number
      blanks
      output := (textBytes front ++ line ++ [10]) :: state.output }

def numberLines : Shell.Command :=
  withArguments (grammar ["b|body-numbering=", "h|header-numbering=", "f|footer-numbering=",
      "d|section-delimiter=", "i|line-increment=", "l|join-blank-lines=", "n|number-format=",
      "p|no-renumber", "s|number-separator=", "v|starting-line-number=", "w|number-width="])
    1 fun a shell =>
    let style (option kind default : String) : Except String Numbering :=
      let text := (a.value? option).getD default
      match numbering? text with
      | some style => .ok style
      | none => .error ("invalid " ++ kind ++ " numbering style: " ++ quoted text)
    let number (option kind default : String) : Except String Int :=
      let text := (a.value? option).getD default
      match text.toInt? with
      | some i => .ok i
      | none => .error ("invalid " ++ kind ++ ": " ++ quoted text)
    let form := (a.value? "n").getD "rn"
    let settings : Except String LineNumbers := do
      let header ← style "h" "header" "n"
      let body ← style "b" "body" "t"
      let footer ← style "f" "footer" "n"
      let start ← number "v" "starting line number" "1"
      let step ← number "i" "line number increment" "1"
      let width ← number "w" "line number field width" "6"
      let blanks ← number "l" "line number of blank lines" "1"
      if !(["ln", "rn", "rz"].contains form) then
        throw ("invalid line number format: " ++ quoted form)
      if width ≤ 0 then
        throw ("invalid line number field width: " ++ quoted ((a.value? "w").getD ""))
      let mark := textBytes ((a.value? "d").getD "\\:")
      let mark := if mark.length = 1 then mark ++ [byteOf ':'] else mark
      return {
        styles := fun s => match s with
          | .header => header
          | .body => body
          | .footer => footer
        mark, start, step
        width := width.toNat
        separator := (a.value? "s").getD "\t"
        isLeft := form = "ln"
        isZeroed := form = "rz"
        keepsCounting := a.has "p"
        blanks := max blanks.toNat 1 }
    match settings with
    | .error message =>
      if message.startsWith "invalid line number format" || message.contains "style" then
        misuse message 1 shell
      else fail message 1 shell
    | .ok n =>
      let (texts, shell) := contents .plain (orInput a.operands) shell
      let lines := bareLines (texts.flatMap fun entry => entry.2.toList)
      let state := lines.foldl (numberLine n) ⟨n.start, .body, 0, []⟩
      shell.write (ofBytes state.output.reverse.flatten)

structure Count where
  sign : Option Char
  size : Nat

def count? (text : String) : Option Count :=
  match text.toList with
  | '-' :: ds => (sizeOf? (String.ofList ds)).map (⟨some '-', ·⟩)
  | '+' :: ds => (sizeOf? (String.ofList ds)).map (⟨some '+', ·⟩)
  | _ => (sizeOf? text).map (⟨none, ·⟩)

/-- The first units of a text, or all but the last ones. -/
def firstUnits {α : Type} (count : Count) (units : List α) : List α :=
  if count.sign = some '-' then units.take (units.length - count.size)
  else units.take count.size

/-- The last units of a text, or those from a number on. -/
def lastUnits {α : Type} (count : Count) (units : List α) : List α :=
  if count.sign = some '+' then units.drop (count.size - 1)
  else units.drop (units.length - count.size)

/-- An argument such as `-5c` stands for `-c 5`. -/
def spellCount (arguments : List String) : List String :=
  match arguments with
  | first :: rest =>
    match first.toList with
    | '-' :: c :: cs =>
      let digits := (c :: cs).takeWhile Char.isDigit
      let letters := (c :: cs).drop digits.length
      if !digits.isEmpty && letters.all ['c', 'l', 'q', 'v', 'b', 'k', 'm'].contains then
        let isBytes := letters.any ['c', 'b', 'k', 'm'].contains
        let unit := letters.filter ['b', 'k', 'm'].contains
        let unit := unit.map fun c => if c = 'm' then 'M' else c
        (if isBytes then "-c" else "-n") :: String.ofList (digits ++ unit)
          :: (letters.filter ['q', 'v'].contains).map (fun c => "-" ++ String.singleton c) ++ rest
      else first :: rest
    | _ => first :: rest
  | [] => []

/-- A tool that keeps some lines, or some bytes. What it has not used of the input is left. -/
structure PartTool where
  lines : Count → List Bytes → List Bytes
  bytes : Count → Bytes → Bytes
  grammar : Grammar
  isHead : Bool

def PartTool.part (tool : PartTool) (isBytes : Bool) (ending : UInt8) (count : Count)
    (content : Bytes) : Bytes :=
  if isBytes then tool.bytes count content
  else
    let lines := (cutLines ending content).map fun line =>
      if line.hasEnd then line.bytes ++ [ending] else line.bytes
    (tool.lines count lines).flatten

def PartTool.run (tool : PartTool) : Shell.Command := fun arguments =>
  withArguments tool.grammar 1 (fun a shell =>
    let last := a.options.reverse.find? fun option => option.1 == "n" || option.1 == "c"
    let (isBytes, text) :=
      match last with
      | some (option, text) => (option == "c", text)
      | none => (false, "10")
    match count? text with
    | none =>
      let kind := if isBytes then "bytes" else "lines"
      fail ("invalid number of " ++ kind ++ ": " ++ quoted text) 1 shell
    | some count =>
      let ending : UInt8 := if a.has "z" then 0 else 10
      let shown := (a.operands.length > 1 || a.has "v") && !a.has "q"
      let step (state : Bool × Shell) (operand : String) : Bool × Shell :=
        let (isFirst, shell) := state
        let title := (if isFirst then "" else "\n") ++ "==> " ++ titleOf operand ++ " <==\n"
        let isDirectory := (shell.tree.find? ⟨operand⟩).any Entry.isDirectory
        let start := inputStart shell
        let (shell, isFirst) :=
          if shown && isDirectory then (shell.say title, false) else (shell, isFirst)
        match content? .reading operand shell with
        | (none, shell) => (isFirst, shell)
        | (some content, shell) =>
          let part := tool.part isBytes ending count content.toList
          let shell := if shown then shell.say title else shell
          let shell := shell.write (ofBytes part)
          let isInput := operand = "-" && tool.isHead && count.sign != some '-'
          (false, if isInput then giveBack part.length start shell else shell)
      ((orInput a.operands).foldl step (true, shell)).2)
    (spellCount arguments)

def head : Shell.Command :=
  PartTool.run {
    lines := firstUnits
    bytes := firstUnits
    grammar := grammar ["n|lines=", "c|bytes=", "q|quiet|silent", "v|verbose",
      "z|zero-terminated"]
    isHead := true
  }

def tail : Shell.Command :=
  PartTool.run {
    lines := lastUnits
    bytes := lastUnits
    grammar := grammar ["n|lines=", "c|bytes=", "q|quiet|silent", "v|verbose",
      "z|zero-terminated", "f|follow?", "F", "retry", "s|sleep-interval=", "pid="]
    isHead := false
  }

/-- The units of a list in groups of one size. The first argument bounds the number of groups. -/
def groupsOfSize {α : Type} (size : Nat) : Nat → List α → List (List α)
  | 0, _ => []
  | bound + 1, xs =>
    if xs.isEmpty then [] else xs.take size :: groupsOfSize size bound (xs.drop size)

def pieceEnding (isNumeric : Bool) : Nat → Nat → List Char
  | 0, _ => []
  | width + 1, n =>
    let base := if isNumeric then 10 else 26
    let first := if isNumeric then '0' else 'a'
    pieceEnding isNumeric width (n / base) ++ [Char.ofNat (first.toNat + n % base)]

/-- So many pieces of nearly one size, the last with what is left. -/
def evenPieces (count : Nat) (text : Bytes) : List Bytes :=
  let size := text.length / count
  (List.range count).map fun i =>
    let rest := text.drop (i * size)
    if i + 1 = count then rest else rest.take size

def split : Shell.Command := fun arguments =>
  withArguments (grammar ["l|lines=", "b|bytes=", "n|number=", "d|numeric-suffixes?",
      "a|suffix-length=", "additional-suffix=", "verbose", "e|elide-empty-files", "C|line-bytes=",
      "t|separator="]) 1 (fun a shell =>
    let (content, shell) := content? .reading (a.operands.headD "-") shell
    match content with
    | none => shell
    | some content =>
      let text := content.toList
      let bound := text.length + 1
      let pieces : Except String (List Bytes) :=
        match a.value? "b", a.value? "n" with
        | some size, _ =>
          match sizeOf? size with
          | some (n + 1) => .ok (groupsOfSize (n + 1) bound text)
          | _ => .error ("invalid number of bytes: " ++ quoted size)
        | none, some count =>
          match count.toNat? with
          | some (n + 1) => .ok (evenPieces (n + 1) text)
          | _ => .error ("invalid number of chunks: " ++ quoted count)
        | none, none =>
          let size := (a.value? "l").getD "1000"
          match size.toNat? with
          | some (n + 1) =>
            .ok ((groupsOfSize (n + 1) bound (linesOf text)).map fun lines => lines.flatten)
          | _ => .error ("invalid number of lines: " ++ quoted size)
      match pieces with
      | .error message => fail message 1 shell
      | .ok pieces =>
        let front := (a.operands[1]?).getD "x"
        let width := (a.number? "a").getD 2
        let start := ((a.value? "d").bind String.toNat?).getD 0
        pieces.zipIdx.foldl
          (fun shell (piece, n) =>
            let ending := String.ofList (pieceEnding (a.has "d") width (n + start))
            let path := front ++ ending ++ (a.value? "additional-suffix").getD ""
            let shell :=
              if a.has "verbose" then shell.say ("creating file " ++ quoted path ++ "\n") else shell
            match shell.tree.writeBytes ⟨path⟩ (ofBytes piece) with
            | (true, tree) => { shell with tree }
            | (false, _) => fail (becauseOf path (shell.tree.absence ⟨path⟩)) 1 shell)
          shell)
    (arguments.map fun argument =>
      match argument.toList with
      | '-' :: c :: cs =>
        if c.isDigit && cs.all Char.isDigit then "-l" ++ String.ofList (c :: cs) else argument
      | _ => argument)

end DtoGen.Tool

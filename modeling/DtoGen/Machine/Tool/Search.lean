import DtoGen.Machine.Pattern
import DtoGen.Machine.Regex.Rich
import DtoGen.Machine.Tool.Listing

namespace DtoGen.Tool

inductive SearchKind
  | basic
  | extended
  | fixed
  | rich
deriving DecidableEq, Repr

def searchKind? (a : Arguments) : Option SearchKind :=
  let kinds := (["G", "E", "F", "P"].filter fun option => a.has option)
  match kinds with
  | [] | ["G"] => some .basic
  | ["E"] => some .extended
  | ["F"] => some .fixed
  | ["P"] => some .rich
  | _ => none

def fixedRegex (text : Bytes) : Regex :=
  text.foldr (fun b r => .sequence (.set false [⟨b, b⟩]) r) .empty

def wordRegex : Regex :=
  .set false Regex.wordRanges

/-- An expression that has to fill the line, or to be a word. -/
def bounded (a : Arguments) (r : Regex) : Regex :=
  if a.has "x" then .sequence .lineStart (.sequence r .lineEnd)
  else if a.has "w" then
    .sequence (.back true wordRegex) (.sequence r (.ahead true wordRegex))
  else r

def anyRegex : List Regex → Regex
  | [] => .set false []
  | [r] => r
  | r :: rs => .either r (anyRegex rs)

def searchRegex (a : Arguments) (kind : SearchKind) (lines : List String) :
    Except String Regex := do
  let one (line : String) : Except String Regex :=
    let bs := textBytes line
    match kind with
    | .fixed => .ok (fixedRegex bs)
    | .basic => (Regex.parse (.search false) bs).mapError Regex.Fault.message
    | .extended => (Regex.parse (.search true) bs).mapError Regex.Fault.message
    | .rich => (Regex.Rich.parse bs).mapError Regex.Rich.Fault.message
  if kind = .rich && 1 < lines.length then
    throw "the -P option only supports a single pattern"
  let r := anyRegex (← lines.mapM one)
  return bounded a (if a.has "i" then r.ignoringCase else r)

structure SearchLine where
  number : Nat
  /-- How many bytes stand in front of the line. -/
  offset : Nat
  bytes : Bytes
  isFound : Bool

structure Search where
  arguments : Arguments
  find : Regex.Place → Option (Regex.Place × Regex.Place)
  ending : UInt8
  showsNames : Bool
  isColoured : Bool
  before : Nat
  after : Nat
  hasContext : Bool
  most : Option Nat

namespace Search

def has (option : String) (s : Search) : Bool :=
  s.arguments.has option

def coloured (s : Search) (code : String) (text : Bytes) : Bytes :=
  if s.isColoured then
    textBytes ("\x1b[" ++ code ++ "m\x1b[K") ++ text ++ textBytes "\x1b[m\x1b[K"
  else text

def lines (s : Search) (text : Bytes) : List SearchLine :=
  let step (state : Nat × Nat × List SearchLine) (line : Line) :=
    let (number, offset, lines) := state
    let isFound := (s.find ⟨[], line.bytes, []⟩).isSome != s.has "v"
    (number + 1, offset + line.bytes.length + 1, ⟨number, offset, line.bytes, isFound⟩ :: lines)
  ((cutLines s.ending text).foldl step (1, 0, [])).2.2.reverse

/-- All matches in a line that are not empty, with their places. The first argument bounds their
number. -/
def matchesIn (s : Search) : Nat → Regex.Place → List (Nat × Bytes)
  | 0, _ => []
  | bound + 1, p =>
    match s.find p with
    | none => []
    | some (start, stop) =>
      if start.position = stop.position then
        if stop.ahead.isEmpty then [] else matchesIn s bound (stop.advance 1)
      else (start.position, start.since stop) :: matchesIn s bound stop

/-- What stands in front of a line: the name of the file, its number and its place. -/
def front (s : Search) (name : String) (line : SearchLine) (offset : Nat) (mark : Char) : Bytes :=
  let mark := s.coloured "36" [byteOf mark]
  let nameMark := if s.has "Z" then [0] else mark
  let number (n : Nat) : Bytes := s.coloured "32" (textBytes (toString n)) ++ mark
  (if s.showsNames then s.coloured "35" (textBytes name) ++ nameMark else [])
    ++ (if s.has "n" then number line.number else [])
    ++ if s.has "b" then number offset else []

def painted (s : Search) (line : SearchLine) : Bytes :=
  let matched := s.matchesIn (line.bytes.length + 1) ⟨[], line.bytes, []⟩
  if !s.isColoured || line.isFound == s.has "v" then line.bytes
  else
    let (text, place) := matched.foldl
      (fun (state : Bytes × Nat) (start, text) =>
        let (done, place) := state
        (done ++ (line.bytes.drop place).take (start - place) ++ s.coloured "01;31" text,
          start + text.length))
      ([], 0)
    text ++ line.bytes.drop place

def foundText (s : Search) (name : String) (line : SearchLine) : Bytes :=
  if s.has "o" then
    if s.has "v" then []
    else
      (s.matchesIn (line.bytes.length + 1) ⟨[], line.bytes, []⟩).flatMap fun (start, text) =>
        s.front name line (line.offset + start) ':' ++ s.coloured "01;31" text ++ [s.ending]
  else s.front name line line.offset ':' ++ s.painted line ++ [s.ending]

def contextText (s : Search) (name : String) (line : SearchLine) : Bytes :=
  if s.has "o" then []
  else s.front name line line.offset '-' ++ s.painted line ++ [s.ending]

def separator (s : Search) : Bytes :=
  if s.has "no-group-separator" || !s.hasContext then []
  else
    let mark := (s.arguments.value? "group-separator").getD "--"
    s.coloured "36" (textBytes mark) ++ [10]

/-- The lines that were found, up to the most that are wanted, and the number of the last one. -/
def chosen (s : Search) (lines : List SearchLine) : List SearchLine :=
  let found := lines.filter SearchLine.isFound
  s.most.elim found found.take

/-- The lines with their context. Groups that do not touch are told apart. -/
def report (s : Search) (name : String) (lines : List SearchLine) (isFirst : Bool) : Bytes :=
  let found := (s.chosen lines).map SearchLine.number
  let last := found.getLastD 0
  let isLimited := s.most.isSome
  let next := ((lines.find? fun line => last < line.number && line.isFound).map
    SearchLine.number).getD (lines.length + 1)
  let isShown (n : Nat) : Bool :=
    found.any fun m => m - s.before ≤ n && n ≤ m + s.after
  let isCut (n : Nat) : Bool := isLimited && last < n && next ≤ n
  let shown := lines.filter fun line => isShown line.number && !isCut line.number
  let step (state : Option Nat × Bytes) (line : SearchLine) : Option Nat × Bytes :=
    let (before, text) := state
    let apart := match before with
      | none => !isFirst
      | some n => n + 1 != line.number
    let own := if found.contains line.number then s.foundText name line else s.contextText name line
    (some line.number, text ++ (if apart then s.separator else []) ++ own)
  (shown.foldl step (none, [])).2

end Search

structure SearchState where
  isFound : Bool
  failed : Bool
  hasOutput : Bool

def searchName (a : Arguments) (operand : String) : String :=
  if operand = "-" then (a.value? "label").getD "(standard input)" else operand

def searchText (s : Search) (operand : String) (text : Bytes) (state : SearchState)
    (shell : Shell) : SearchState × Shell :=
  let name := searchName s.arguments operand
  let isBinary := !s.arguments.has "a" && s.ending != 0 && text.contains 0
    && s.arguments.value? "binary-files" != some "text"
  if isBinary && (s.has "I" || s.arguments.value? "binary-files" == some "without-match") then
    (state, shell)
  else
    let lines := s.lines text
    let found := s.chosen lines
    let isFound := !found.isEmpty
    let listed (isListed : Bool) : SearchState × Shell :=
      let ending : UInt8 := if s.has "Z" then 0 else 10
      let line := s.coloured "35" (textBytes name) ++ [ending]
      ({ state with isFound := state.isFound || isListed },
        if isListed then shell.write (ofBytes line) else shell)
    if s.has "q" then ({ state with isFound := state.isFound || isFound }, shell)
    else if s.has "L" then listed !isFound
    else if s.has "l" then listed isFound
    else
      let state := { state with isFound := state.isFound || isFound }
      if s.has "c" then
        let mark : Bytes := if s.has "Z" then [0] else s.coloured "36" [58]
        let front := if s.showsNames then s.coloured "35" (textBytes name) ++ mark else []
        (state, shell.write (ofBytes (front ++ textBytes (toString found.length ++ "\n"))))
      else if isBinary then
        (state,
          if isFound then shell.warn (shell.name ++ ": " ++ name ++ ": binary file matches")
          else shell)
      else
        let text := s.report name lines (!state.hasOutput)
        ({ state with hasOutput := state.hasOutput || !text.isEmpty }, shell.write (ofBytes text))

/-- How much of the standard input is used up when a search ends early. -/
def usedLength (s : Search) (text : Bytes) : Option Nat :=
  let lines := s.lines text
  let wanted := if s.has "q" || s.has "l" then some 1 else s.most
  match wanted with
  | none => none
  | some most =>
    let found := (lines.filter SearchLine.isFound).take most
    if found.length < most then none
    else some ((found.getLast?.map fun line => line.offset + line.bytes.length + 1).getD 0)

def searchOperand (s : Search) (operand : String) (state : SearchState) (shell : Shell) :
    SearchState × Shell :=
  let silent := s.has "s"
  let isDirectory := operand != "-" && (shell.tree.find? ⟨operand⟩).any Entry.isDirectory
  let start := inputStart shell
  if state.isFound && s.has "q" then (state, shell)
  else if isDirectory && s.arguments.value? "d" = some "skip" then (state, shell)
  else
    let isOutput := operand != "-" && isOwnOutputFile operand shell
    if isOutput && !s.has "q" && !s.has "l" then
      ({ state with failed := true },
        shell.warn (shell.name ++ ": " ++ operand ++ ": input file is also the output"))
    else
      let quiet (shell : Shell) : Shell :=
        if silent then { shell with outputs := shell.outputs.filter fun o => o.1 != 2 } else shell
      match content? .plain operand (quiet shell) with
      | (none, result) =>
        ({ state with failed := true }, { result with outputs := shell.outputs })
      | (some content, result) =>
        let shell := { result with outputs := shell.outputs }
        let text := content.toList
        let (state, shell) := searchText s operand text state shell
        match usedLength s text with
        | some used =>
          (state, if operand = "-" then giveBack (min used text.length) start shell else shell)
        | none => (state, shell)
where
  isOwnOutputFile (operand : String) (shell : Shell) : Bool :=
    match shell.outputs.lookup 1, shell.tree.locate? ⟨operand⟩ with
    | some (.file path), some place => shell.tree.locate? path == some place
    | _, _ => false

/-- Whether the name of a file is wanted in a directory that is gone through. -/
def isWantedFile (a : Arguments) (name : String) : Bool :=
  let fits (pattern : String) : Bool :=
    Pattern.matchesText (.ofText pattern) name.toList
  let included := a.values "include"
  (included.isEmpty || included.any fits) && !(a.values "exclude").any fits

/-- The files below an operand. The first argument bounds how deep they are. -/
def filesBelow (a : Arguments) (tree : FileTree) : Nat → String → String → List String
  | 0, _, _ => []
  | bound + 1, path, name =>
    match tree.find? ⟨path⟩ with
    | some .directory =>
      let isExcluded := (a.values "exclude-dir").any fun pattern =>
        Pattern.matchesText (.ofText pattern) name.toList
      if isExcluded then []
      else
        (tree.names ⟨path⟩).flatMap fun name =>
          let inner := if path = "" then name
            else if path.endsWith "/" then path ++ name else path ++ "/" ++ name
          match tree.findAt? ⟨inner⟩ with
          | some (.link _) => if a.has "R" then filesBelow a tree bound inner name else []
          | _ => filesBelow a tree bound inner name
    | some (.device _) => []
    | some _ => if isWantedFile a name then [path] else []
    | none => [path]

def searchDepth : Nat := 64

/-- The operands, with the files in the place of directories if this is asked for. -/
def searchOperands (a : Arguments) (operands : List String) (tree : FileTree) : List String :=
  if !a.hasAny ["r", "R"] then
    (orInput operands).filter fun operand =>
      operand = "-" || (tree.find? ⟨operand⟩).any Entry.isDirectory
        || isWantedFile a (lastStep operand)
  else if operands.isEmpty then
    (tree.names ⟨"."⟩).flatMap fun name =>
      match tree.findAt? ⟨name⟩ with
      | some (.link _) => if a.has "R" then filesBelow a tree searchDepth name name else []
      | _ => filesBelow a tree searchDepth name name
  else operands.flatMap fun operand =>
    if operand = "-" then ["-"] else filesBelow a tree searchDepth operand (lastStep operand)

def grepUsage : String :=
  "Usage: grep [OPTION]... PATTERNS [FILE]..."

def grepHint : String :=
  "Try 'grep --help' for more information."

def grepGrammar : Grammar :=
  grammar ["E|extended-regexp", "F|fixed-strings", "G|basic-regexp", "P|perl-regexp", "e|regexp=",
    "f|file=", "i|y|ignore-case", "no-ignore-case", "w|word-regexp", "x|line-regexp",
    "z|null-data", "s|no-messages", "v|invert-match", "V|version", "m|max-count=",
    "b|byte-offset", "n|line-number", "line-buffered", "H|with-filename", "h|no-filename",
    "label=", "o|only-matching", "q|quiet|silent", "binary-files=", "a|text", "I",
    "d|directories=", "D|devices=", "r|recursive", "R|dereference-recursive", "include=",
    "exclude=", "exclude-from=", "exclude-dir=", "L|files-without-match", "l|files-with-matches",
    "c|count", "T|initial-tab", "Z|null", "B|before-context=", "A|after-context=", "C|context=",
    "color|colour?", "U|binary", "group-separator=", "no-group-separator"]

/-- An argument such as `-3` stands for `-C 3`. -/
def spellContext (arguments : List String) : List String :=
  let front := arguments.takeWhile (· != "--")
  front.map (fun argument =>
    match argument.toList with
    | '-' :: c :: cs => if c.isDigit then "-C" ++ String.ofList (c :: cs) else argument
    | _ => argument) ++ arguments.drop front.length

def grepPatterns (a : Arguments) (shell : Shell) : Except String (List String × List String) := do
  let fromFile (path : String) : Except String (List String) :=
    let content := if path = "-" then .ok (takeAll 0 shell).1 else (fileContent path shell).1
    match content with
    | .ok content => .ok ((bareLines content.toList).map shownText)
    | .error reason => .error (becauseOf path reason)
  match a.has "e" || a.has "f", a.operands with
  | false, [] => throw ""
  | false, first :: operands => return (first.splitOn "\n", operands)
  | true, operands =>
    let own := (a.values "e").flatMap fun text => text.splitOn "\n"
    let files ← (a.values "f").mapM fromFile
    return (own ++ files.flatten, operands)

def contextLength (a : Arguments) (option : String) : Except String (Option Nat) :=
  match a.value? option with
  | none => .ok none
  | some text =>
    match text.toNat? with
    | some n => .ok (some n)
    | none => .error (text ++ ": invalid context length argument")

def grepWith (extra : List (String × String)) : Shell.Command := fun arguments shell =>
  let usage (shell : Shell) : Shell := ((shell.warn grepUsage).warn grepHint).finish 2
  match parse grepGrammar (spellContext arguments) with
  | .error fault => usage (fail fault.message 2 shell)
  | .ok a =>
    let a := { a with options := a.options ++ extra }
    let shell := shell.finish 0
    match searchKind? a with
    | none => fail "conflicting matchers specified" 2 shell
    | some kind =>
      match grepPatterns a shell with
      | .error "" => usage shell
      | .error message => fail message 2 shell
      | .ok (lines, operands) =>
        let settings : Except String (Regex × Option Nat × Option Nat × Option Nat) := do
          let before ← contextLength a "B"
          let after ← contextLength a "A"
          let both ← contextLength a "C"
          if (a.value? "m").any fun text => text.toInt?.isNone then throw "invalid max count"
          return (← searchRegex a kind lines, before.or both, after.or both, both)
        match settings with
        | .error message => fail message 2 shell
        | .ok (r, before, after, _) =>
          let shell :=
            if kind = .extended then
              lines.foldl
                (fun shell line =>
                  (Regex.idleSigns (.search true) (textBytes line)).foldl
                    (fun shell sign =>
                      shell.warn (shell.name ++ ": warning: " ++ sign
                        ++ " at start of expression"))
                    shell)
                shell
            else shell
          let targets := searchOperands a operands shell.tree
          let isMany := 1 < targets.length || a.hasAny ["r", "R"]
            && (operands.isEmpty || operands.any fun operand =>
              (shell.tree.find? ⟨operand⟩).any Entry.isDirectory)
          let s : Search := {
            arguments := a
            find := if kind = .rich then r.findFirst else r.find
            ending := if a.has "z" then 0 else 10
            showsNames := (isMany || a.has "H") && !a.has "h"
            isColoured := ["always", "yes", "force"].contains ((a.value? "color").getD "")
            before := before.getD 0
            after := after.getD 0
            hasContext := before.isSome || after.isSome
            most := ((a.value? "m").bind String.toNat?)
          }
          let (state, shell) := targets.foldl
            (fun (state, shell) operand => searchOperand s operand state shell)
            ((⟨false, false, false⟩ : SearchState), shell)
          let status :=
            if state.failed && !(state.isFound && a.has "q") then 2
            else if state.isFound then 0 else 1
          shell.finish status

end DtoGen.Tool

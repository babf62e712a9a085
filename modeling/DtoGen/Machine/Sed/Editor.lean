import DtoGen.Machine.Sed

namespace DtoGen.Sed

structure Line where
  bytes : List UInt8
  hasEnd : Bool

def linesOf (ending : UInt8) (text : List UInt8) : List Line :=
  match text.splitOn ending with
  | [] => []
  | pieces =>
    let last := pieces.getLastD []
    pieces.dropLast.map (⟨·, true⟩) ++ if last.isEmpty then [] else [⟨last, false⟩]

/-- What a run of the editor is given beside its steps. -/
structure Setting where
  /-- Lines are not written by themselves. -/
  isQuiet : Bool
  ending : UInt8
  /-- How wide lines are that are shown. -/
  width : Nat
  fileName : String
  /-- The contents of files. -/
  content? : String → Option (List UInt8)

inductive Pending
  | line (text : List UInt8)
  /-- As it is, without a line end of its own. -/
  | raw (text : List UInt8)

structure Editor where
  current : Line
  held : Line
  rest : List Line
  number : Nat
  output : List (List UInt8)
  /-- Whether the text that was written last still needs its line end. -/
  isOpen : Bool
  /-- Text for the end of the cycle. -/
  pending : List Pending
  wasReplaced : Bool
  lastPattern : Option Regex
  /-- The steps whose range is open, with the line where it ends if that is known. -/
  inRange : List (Nat × Option Nat)
  status : Option Nat
  /-- Whether the line is written at the end of the cycle. -/
  prints : Bool
  /-- What was written to files, the last first. -/
  written : List (String × List UInt8)
  /-- What is left of files that are read line by line. -/
  opened : List (String × List Line)

namespace Editor

def writeWith (ending : UInt8) (line : Line) (e : Editor) : Editor :=
  let start : List (List UInt8) := if e.isOpen then [[10]] else []
  let stop : List (List UInt8) := if line.hasEnd then [[ending]] else []
  { e with output := stop ++ line.bytes :: start ++ e.output, isOpen := !line.hasEnd }

def writeRaw (text : List UInt8) (e : Editor) : Editor :=
  let start : List (List UInt8) := if e.isOpen then [[10]] else []
  { e with output := text :: start ++ e.output, isOpen := false }

/-- Writes a line to a file. One path means the output, without a line end that is missing there. -/
def writeTo (ending : UInt8) (path : String) (line : Line) (e : Editor) : Editor :=
  let text := line.bytes ++ if line.hasEnd then [ending] else []
  if path = "/dev/stdout" then { e with output := text :: e.output }
  else { e with written := (path, text) :: e.written }

def isLast (e : Editor) : Bool :=
  e.rest.isEmpty

def patternFor (r : Option Regex) (e : Editor) : Regex × Editor :=
  match r.or e.lastPattern with
  | some r => (r, { e with lastPattern := some r })
  | none => (.empty, e)

def meets (address : Address) (e : Editor) : Bool × Editor :=
  match address with
  | .line n => (e.number == n, e)
  | .last => (e.isLast, e)
  | .stepped first step =>
    (if step = 0 then e.number == first
      else first ≤ e.number && (e.number - first) % step == 0, e)
  | .pattern r =>
    let (r, e) := e.patternFor r
    (r.matchesLine e.current.bytes, e)

/-- Whether a range ends on the line where it starts. -/
def endsAtOnce (second : Address) (e : Editor) : Bool :=
  match second with
  | .line n => n ≤ e.number
  | .last => e.isLast
  | .stepped _ _ | .pattern _ => false

def openRange (index : Nat) (stop : Option Nat) (e : Editor) : Editor :=
  { e with inRange := (index, stop) :: e.inRange }

def closeRange (index : Nat) (e : Editor) : Editor :=
  { e with inRange := e.inRange.filter fun entry => entry.1 != index }

def selects (index : Nat) (selector : Selector) (e : Editor) : Bool × Editor :=
  match selector, e.inRange.lookup index with
  | .all, _ => (true, e)
  | .one address, _ => e.meets address
  | .upTo second, none =>
    if e.number != 1 then (false, e)
    else
      let (stops, e) := e.meets second
      (true, if stops then e else e.openRange index none)
  | .range first second, none =>
    let (starts, e) := e.meets first
    (starts, if starts && !e.endsAtOnce second then e.openRange index none else e)
  | .range _ (.line n), some _ =>
    if n < e.number then (false, e.closeRange index)
    else (true, if n = e.number then e.closeRange index else e)
  | .range _ second, some _ | .upTo second, some _ =>
    let (stops, e) := e.meets second
    (true, if stops then e.closeRange index else e)
  | .extent first count, none =>
    let (starts, e) := e.meets first
    (starts, if starts && count > 0 then e.openRange index (some (e.number + count)) else e)
  | .extent _ _, some stop | .multiple _ _, some stop =>
    (true, if stop.any (· ≤ e.number) then e.closeRange index else e)
  | .multiple first step, none =>
    let (starts, e) := e.meets first
    let stop := if step = 0 then e.number else (e.number + step - 1) / step * step
    (starts, if starts && e.number < stop then e.openRange index (some stop) else e)

end Editor

def upperByte (b : UInt8) : UInt8 :=
  if 97 ≤ b && b ≤ 122 then b - 32 else b

def lowerByte (b : UInt8) : UInt8 :=
  if 65 ≤ b && b ≤ 90 then b + 32 else b

def Casing.apply (casing : Casing) (b : UInt8) : UInt8 :=
  match casing with
  | upper => upperByte b
  | lower => lowerByte b
  | keep => b

/-- Text in the letter case that is in force. -/
def cased (once : Option Casing) (always : Casing) : List UInt8 → List UInt8
  | [] => []
  | b :: bs => (once.getD always).apply b :: bs.map always.apply

/-- The text of a replacement, the letter case in force at its front. -/
def fill (taken : Nat → List UInt8) (once : Option Casing) (always : Casing) :
    List Part → List UInt8
  | [] => []
  | .casing casing true :: parts => fill taken (some casing) always parts
  | .casing casing false :: parts => fill taken none casing parts
  | part :: parts =>
    let own := match part with
      | .text bs => bs
      | .group number => taken number
      | .casing _ _ => []
    let following := if own.isEmpty then once else none
    cased once always own ++ fill taken following always parts

namespace Substitution

/-- Replaces matches from a place on; `count` have been found before. The first argument bounds the
number of matches. An empty match right behind another match does not count. -/
def replace (s : Substitution) (r : Regex) :
    Nat → Nat → Option Nat → Regex.Place → List UInt8 × Bool
  | 0, _, _, p => (p.ahead, false)
  | bound + 1, count, lastEnd, p =>
    match r.find { p with groups := [] } with
    | none => (p.ahead, false)
    | some (start, stop) =>
      let between := p.since start
      let isEmpty := start.position == stop.position
      let step (head : List UInt8) (wasReplaced : Bool) (count : Nat) :=
        if wasReplaced && !s.isGlobal then (head ++ stop.ahead, true)
        else if isEmpty then
          match stop.ahead with
          | [] => (head, wasReplaced)
          | b :: _ =>
            let (tail, more) := replace s r bound count lastEnd (stop.advance 1)
            (head ++ b :: tail, wasReplaced || more)
        else
          let (tail, more) := replace s r bound count (some stop.position) stop
          (head ++ tail, wasReplaced || more)
      if isEmpty && lastEnd = some start.position then step between false count
      else
        let whole := start.since stop
        let taken (number : Nat) : List UInt8 :=
          if number = 0 then whole else (stop.groups.lookup number).getD []
        if s.number ≤ count + 1 then
          step (between ++ fill taken none .keep s.replacement) true (count + 1)
        else step (between ++ whole) false (count + 1)

def run (ending : UInt8) (s : Substitution) (e : Editor) : Editor :=
  let (r, e) := e.patternFor s.pattern
  let line := e.current.bytes
  let (text, wasReplaced) := s.replace r (2 * line.length + 2) 0 none ⟨[], line, []⟩
  if wasReplaced then
    let e := { e with current := { e.current with bytes := text }, wasReplaced := true }
    let e := if s.prints then e.writeWith ending e.current else e
    match s.file with
    | some path => e.writeTo ending path e.current
    | none => e
  else e

end Substitution

/-- What comes after a command: the next step, another one, or the end of the cycle. -/
inductive Follow
  | next
  | jump (index : Nat)
  | over
  /-- Starts the commands again without reading a line. -/
  | again

def labelIndex? (steps : List Step) (name : List UInt8) : Option Nat :=
  steps.findIdx? fun step =>
    match step.command with
    | .label own => own == name
    | _ => false

def followLabel (steps : List Step) (name : List UInt8) : Follow :=
  if name.isEmpty then .over else (labelIndex? steps name).elim .over .jump

def behindGroup : Nat → Nat → List Step → Nat
  | index, _, [] => index
  | index, depth, step :: steps =>
    match step.command with
    | .opening => behindGroup (index + 1) (depth + 1) steps
    | .closing => if depth = 0 then index + 1 else behindGroup (index + 1) (depth - 1) steps
    | _ => behindGroup (index + 1) depth steps

def octalDigits (b : UInt8) : List UInt8 :=
  [b / 64, b / 8 % 8, b % 8].map fun digit => digit + 48

/-- Bytes as they are shown where they have to be told apart. -/
def shownByte (b : UInt8) : List UInt8 :=
  let escapes : List (UInt8 × Char) :=
    [(92, '\\'), (7, 'a'), (8, 'b'), (9, 't'), (10, 'n'), (11, 'v'), (12, 'f'), (13, 'r')]
  match escapes.lookup b with
  | some c => [92, byteOf c]
  | none => if 32 ≤ b && b < 127 then [b] else 92 :: octalDigits b

/-- Lines of at most so many bytes, all but the last one with a backslash behind them. -/
def folded (most : Nat) : Nat → List UInt8 → List (List UInt8) → List UInt8
  | _, line, [] => line ++ [36]
  | width, line, piece :: pieces =>
    if width + piece.length > most && width > 0 then
      line ++ 92 :: 10 :: folded most piece.length piece pieces
    else folded most (width + piece.length) (line ++ piece) pieces

def shown (width : Nat) (bs : List UInt8) : List UInt8 :=
  let pieces := bs.map shownByte
  if width ≤ 1 then pieces.flatten ++ [36] else folded (width - 1) 0 [] pieces

def transliterate (source target : List UInt8) (b : UInt8) : UInt8 :=
  ((source.zip target).lookup b).getD b

def firstLine (ending : UInt8) (bs : List UInt8) : List UInt8 :=
  bs.takeWhile (· != ending)

namespace Editor

def setText (bs : List UInt8) (e : Editor) : Editor :=
  { e with current := { e.current with bytes := bs } }

/-- Takes the next line in place of the current one, or behind it. -/
def advance (ending : UInt8) (joins : Bool) (e : Editor) : Option Editor :=
  match e.rest with
  | [] => none
  | line :: rest =>
    let bytes := if joins then e.current.bytes ++ ending :: line.bytes else line.bytes
    some { e with current := { line with bytes }, rest, number := e.number + 1 }

def flush (e : Editor) : Editor :=
  let put (e : Editor) : Pending → Editor
    | .line text => e.writeWith 10 ⟨text, true⟩
    | .raw text => if text.isEmpty then e else e.writeRaw text
  { e.pending.foldl put e with pending := [] }

/-- A line with another one behind it, which tells whether a line end follows. -/
def joined (ending : UInt8) (line other : Line) : Line :=
  ⟨line.bytes ++ ending :: other.bytes, other.hasEnd⟩

/-- The next line of a file that is read line by line. -/
def takeLine (setting : Setting) (path : String) (e : Editor) : Option Line × Editor :=
  let lines := (e.opened.lookup path).getD
    (((setting.content? path).map (linesOf setting.ending)).getD [])
  let others := e.opened.filter fun entry => entry.1 != path
  (lines.head?, { e with opened := (path, lines.drop 1) :: others })

/-- Runs one command. `isOver` says that the range of the command ends here. -/
def perform (setting : Setting) (steps : List Step) (isOver : Bool) (command : Command)
    (e : Editor) : Editor × Follow :=
  let ending := setting.ending
  match command with
  | .substitute s => (s.run ending e, .next)
  | .transliterate source target =>
    (e.setText (e.current.bytes.map (transliterate source target)), .next)
  | .delete => ({ e with prints := false }, .over)
  | .deleteFirst =>
    if e.current.bytes.contains ending then
      (e.setText ((e.current.bytes.dropWhile (· != ending)).drop 1), .again)
    else ({ e with prints := false }, .over)
  | .print => (e.writeWith ending e.current, .next)
  | .printFirst => (e.writeWith ending ⟨firstLine ending e.current.bytes, true⟩, .next)
  | .lineNumber => (e.writeWith 10 ⟨(toString e.number).toUTF8.toList, true⟩, .next)
  | .fileName => (e.writeWith 10 ⟨setting.fileName.toUTF8.toList, true⟩, .next)
  | .quit prints status => ({ e with status := some status, prints := e.prints && prints }, .over)
  | .append text => ({ e with pending := e.pending ++ [.line text] }, .next)
  | .read path =>
    let text := (setting.content? path).getD []
    ({ e with pending := e.pending ++ [.raw text] }, .next)
  | .readLine path =>
    match e.takeLine setting path with
    | (some line, e) => ({ e with pending := e.pending ++ [.line line.bytes] }, .next)
    | (none, e) => (e, .next)
  | .write path => (e.writeTo ending path e.current, .next)
  | .writeFirst path => (e.writeTo ending path ⟨firstLine ending e.current.bytes, true⟩, .next)
  | .insert text => (e.writeWith 10 ⟨text, true⟩, .next)
  | .change text =>
    let e := if isOver then e.writeWith 10 ⟨text, true⟩ else e
    ({ e with prints := false }, .over)
  | .next =>
    if e.isLast then ({ e with status := some 0 }, .over)
    else
      let e := (if setting.isQuiet then e else e.writeWith ending e.current).flush
      ((e.advance ending false).getD e, .next)
  | .join =>
    if e.isLast then ({ e with status := some 0 }, .over)
    else ((e.flush.advance ending true).getD e, .next)
  | .hold => ({ e with held := e.current }, .next)
  | .holdMore => ({ e with held := joined ending e.held e.current }, .next)
  | .fetch => ({ e with current := e.held }, .next)
  | .fetchMore => ({ e with current := joined ending e.current e.held }, .next)
  | .exchange => ({ e with current := e.held, held := e.current }, .next)
  | .show width =>
    (e.writeWith 10 ⟨shown (width.getD setting.width) e.current.bytes, true⟩, .next)
  | .clear => (e.setText [], .next)
  | .label _ | .opening | .closing | .idle => (e, .next)
  | .branch name => (e, followLabel steps name)
  | .branchOn wasReplaced name =>
    ({ e with wasReplaced := false },
      if e.wasReplaced = wasReplaced then followLabel steps name else .next)

/-- Runs the steps from an index on. The first argument bounds their number. -/
def cycle (setting : Setting) (steps : List Step) : Nat → Nat → Editor → Editor
  | 0, _, e => e
  | bound + 1, index, e =>
    match steps[index]? with
    | none => e
    | some step =>
      let (isSelected, e) := e.selects index step.selector
      if isSelected = step.isNegated then
        match step.command with
        | .opening =>
          cycle setting steps bound (behindGroup (index + 1) 0 (steps.drop (index + 1))) e
        | _ => cycle setting steps bound (index + 1) e
      else
        let isOver := step.isNegated || (e.inRange.lookup index).isNone
        match e.perform setting steps isOver step.command with
        | (e, .next) => cycle setting steps bound (index + 1) e
        | (e, .jump index) => cycle setting steps bound index e
        | (e, .over) => e
        | (e, .again) => cycle setting steps bound 0 e

/-- How many steps one line may take. -/
def patience : Nat := 1000000

/-- Works through all lines. The first argument bounds their number. -/
def work (setting : Setting) (steps : List Step) : Nat → Editor → Editor
  | 0, e => e
  | bound + 1, e =>
    match e.advance setting.ending false with
    | none => e
    | some e =>
      let e := cycle setting steps patience 0 { e with prints := true, wasReplaced := false }
      let e :=
        (if e.prints && !setting.isQuiet then e.writeWith setting.ending e.current else e).flush
      if e.status.isSome then e else work setting steps bound e

end Editor

structure Outcome where
  output : List UInt8
  /-- What was written to files, in order. -/
  written : List (String × List UInt8)
  /-- The status, if the script has ended the run, and how many lines were left then. -/
  status : Option Nat
  left : List Line

def run (setting : Setting) (steps : List Step) (text : List UInt8) : Outcome :=
  let lines := linesOf setting.ending text
  let e : Editor := {
    current := ⟨[], true⟩
    held := ⟨[], true⟩
    rest := lines
    number := 0
    output := []
    isOpen := false
    pending := []
    wasReplaced := false
    lastPattern := none
    inRange := []
    status := none
    prints := true
    written := []
    opened := []
  }
  let e := e.work setting steps (lines.length + 1)
  ⟨e.output.reverse.flatten, e.written.reverse, e.status, e.rest⟩

def textOfLines (ending : UInt8) (lines : List Line) : List UInt8 :=
  lines.flatMap fun line => line.bytes ++ if line.hasEnd then [ending] else []

end DtoGen.Sed

import DtoGen.Machine.Tool.Input

namespace DtoGen.Tool

/-- Numbers from a first to a last one; without the last one, all that follow. -/
structure Span where
  first : Nat
  last : Option Nat
deriving DecidableEq, Repr

namespace Span

def holds (n : Nat) (span : Span) : Bool :=
  span.first ≤ n && span.last.all (n ≤ ·)

end Span

/-- How a choice of numbers is told about. -/
structure Choice where
  unit : String
  position : String

def fieldChoice : Choice :=
  ⟨"field", "fields are numbered from 1"⟩

def byteChoice : Choice :=
  ⟨"byte/character", "byte/character positions are numbered from 1"⟩

def Choice.rangeFault (choice : Choice) : String :=
  if choice.unit = "field" then "invalid field range" else "invalid byte or character range"

def Choice.valueFault (choice : Choice) (text : String) : String :=
  if choice.unit = "field" then "invalid field value " ++ quoted text
  else "invalid byte/character position " ++ quoted text

/-- One range of a choice such as `2-4`. -/
def span? (choice : Choice) (text : String) : Except String Span :=
  let number (text : String) : Except String Nat :=
    match text.toNat? with
    | some 0 => .error choice.position
    | some n => .ok n
    | none => .error (choice.valueFault text)
  match text.splitOn "-" with
  | [""] => .error choice.position
  | [one] => do
    let n ← number one
    return ⟨n, some n⟩
  | ["", ""] => .error "invalid range with no endpoint: -"
  | ["", last] => do return ⟨1, some (← number last)⟩
  | [first, ""] => do return ⟨← number first, none⟩
  | [first, last] => do
    let n ← number first
    let m ← number last
    if m < n then throw "invalid decreasing range" else return ⟨n, some m⟩
  | _ => .error choice.rangeFault

/-- The ranges of a choice such as `1-3,5-`. -/
def spans? (choice : Choice) (text : String) : Except String (List Span) :=
  ((text.replace " " ",").splitOn ",").mapM (span? choice)

def isChosen (spans : List Span) (isComplement : Bool) (n : Nat) : Bool :=
  (spans.any (Span.holds n)) != isComplement

def chosen {α : Type} (isChosen : Nat → Bool) (xs : List α) : List α :=
  ((xs.zipIdx 1).filter fun entry => isChosen entry.2).map Prod.fst

/-- The chosen bytes of a line, with a mark between those that stand apart. -/
def cutBytes (isChosen : Nat → Bool) (starts : Nat → Bool) (mark : Bytes) (line : Bytes) : Bytes :=
  let picked := (line.zipIdx 1).filter fun entry => isChosen entry.2
  (picked.zipIdx).flatMap fun ((b, n), place) =>
    if place != 0 && starts n then mark ++ [b] else [b]

def cutFields (isChosen : Nat → Bool) (delimiter : UInt8) (mark : Bytes) (line : Bytes) : Bytes :=
  if line.contains delimiter then
    mark.intercalate (chosen isChosen (line.splitOn delimiter))
  else line

/-- Whether a number opens a range that does not touch the one before. -/
def startsSpan (spans : List Span) (isComplement : Bool) (n : Nat) : Bool :=
  if isComplement then !isChosen spans true (n - 1)
  else
    (spans.any fun span => span.first = n) && !(spans.any fun span =>
      span.first < n && span.last.all (n ≤ ·))

def cut : Shell.Command :=
  withArguments (grammar ["b|bytes=", "c|characters=", "f|fields=", "d|delimiter=", "n",
      "s|only-delimited", "z|zero-terminated", "complement", "output-delimiter="]) 1 fun a shell =>
    let lists := a.options.filter fun option => ["b", "c", "f"].contains option.1
    let delimiterText := (a.value? "d").map textBytes
    match lists with
    | [] => misuse "you must specify a list of bytes, characters, or fields" 1 shell
    | _ :: _ :: _ => misuse "only one list may be specified" 1 shell
    | [(option, list)] =>
      let isFields := option = "f"
      if delimiterText.any fun bs => 1 < bs.length then
        misuse "the delimiter must be a single character" 1 shell
      else if !isFields && a.has "d" then
        misuse "an input delimiter may be specified only when operating on fields" 1 shell
      else if !isFields && a.has "s" then
        misuse ("suppressing non-delimited lines makes sense\n\tonly when operating on fields")
          1 shell
      else
        match spans? (if isFields then fieldChoice else byteChoice) list with
        | .error message => misuse message 1 shell
        | .ok spans =>
          let ending : UInt8 := if a.has "z" then 0 else 10
          let delimiter := (delimiterText.getD [9]).headD 0
          let isComplement := a.has "complement"
          let isChosen := isChosen spans isComplement
          let (texts, shell) := contents .plain (orInput a.operands) shell
          let lines := texts.flatMap fun entry => (cutLines ending entry.2.toList).map Line.bytes
          let lines :=
            if isFields then
              let mark := ((a.value? "output-delimiter").map textBytes).getD [delimiter]
              let kept := if a.has "s" then lines.filter (·.contains delimiter) else lines
              kept.map (cutFields isChosen delimiter mark)
            else
              let mark := ((a.value? "output-delimiter").map textBytes).getD []
              lines.map (cutBytes isChosen (startsSpan spans isComplement) mark)
          shell.write (ofBytes (lines.flatMap (· ++ [ending])))

/-- A list of delimiters, some of them written with a backslash; none stands for itself. -/
def delimiters : List Char → List Bytes
  | '\\' :: c :: cs =>
    let escapes : List (Char × Bytes) :=
      [('n', [10]), ('t', [9]), ('\\', [92]), ('0', []), ('b', [8]), ('f', [12]), ('r', [13]),
        ('v', [11])]
    ((escapes.lookup c).getD (textBytes (String.singleton c))) :: delimiters cs
  | c :: cs => textBytes (String.singleton c) :: delimiters cs
  | [] => []

/-- Joins lines by delimiters, which are used in turn. -/
def joinLines (delimiters : List Bytes) (ending : UInt8) (lines : List Bytes) : Bytes :=
  let joined := lines.zipIdx.flatMap fun (line, n) =>
    let mark := (delimiters[(n - 1) % delimiters.length]?).getD []
    if n = 0 then line else mark ++ line
  joined ++ [ending]

/-- Takes one line for each column, as long as a column has one left. Columns of one input share
its lines. The first argument bounds the rows. -/
def pasteRows (columns : List String) : Nat → List (String × List Bytes) → List (List Bytes)
  | 0, _ => []
  | bound + 1, texts =>
    let take (state : List Bytes × List (String × List Bytes) × Bool) (column : String) :=
      let (row, texts, isAny) := state
      match (texts.lookup column).getD [] with
      | line :: lines =>
        let texts := texts.map fun entry => if entry.1 = column then (column, lines) else entry
        (row ++ [line], texts, true)
      | [] => (row ++ [[]], texts, isAny)
    let (row, texts, isAny) := columns.foldl take ([], texts, false)
    if isAny then row :: pasteRows columns bound texts else []

def paste : Shell.Command :=
  withArguments (grammar ["s|serial", "d|delimiters=", "z|zero-terminated"]) 1 fun a shell =>
    let ending : UInt8 := if a.has "z" then 0 else 10
    let marks := delimiters ((a.value? "d").getD "\t").toList
    let marks := if marks.isEmpty then [[]] else marks
    let columns := orInput a.operands
    let (texts, shell) := contents .plain columns.eraseDups shell
    let lined := texts.map fun (name, content) =>
      (name, (cutLines ending content.toList).map Line.bytes)
    let total := (lined.map fun entry => entry.2.length).foldl (· + ·) 1
    if shell.status != 0 && !a.has "s" then shell
    else
      let rows :=
        if a.has "s" then columns.filterMap fun column => lined.lookup column
        else pasteRows columns total lined
      let rows := if a.has "s" then rows.map fun row => if row.isEmpty then [[]] else row else rows
      shell.write (ofBytes (rows.flatMap (joinLines marks ending)))

/-- The fields of a line: between delimiters, or between blanks. -/
def joinFields (delimiter : Option UInt8) (line : Bytes) : List Bytes :=
  match delimiter with
  | some b => line.splitOn b
  | none => (line.splitOnP fun b => b == 32 || b == 9).filter fun field => !field.isEmpty

/-- One side of a join: the number of its key field, and whether lines without a partner are
written. -/
structure JoinSide where
  key : Nat
  showsSingle : Bool

structure Joining where
  delimiter : Option UInt8
  ignoresCase : Bool
  left : JoinSide
  right : JoinSide
  showsPairs : Bool
  /-- The columns of the output: a side and a field, or the key. -/
  columns : Option (List (Option (Bool × Nat)))
  empty : Bytes

namespace Joining

def fold (j : Joining) (bs : Bytes) : Bytes :=
  if j.ignoresCase then bs.map fun b => if 65 ≤ b && b ≤ 90 then b + 32 else b else bs

def keyOf (side : JoinSide) (fields : List Bytes) : Bytes :=
  (fields[side.key - 1]?).getD []

def others (side : JoinSide) (fields : List Bytes) : List Bytes :=
  ((fields.zipIdx 1).filter fun entry => entry.2 != side.key).map Prod.fst

/-- A line of the output, from one side or both. -/
def line (j : Joining) (left right : Option (List Bytes)) : Bytes :=
  let mark : Bytes := [j.delimiter.getD 32]
  let key := (left.map (keyOf j.left)).getD ((right.map (keyOf j.right)).getD [])
  let field (fields : Option (List Bytes)) (n : Nat) : Bytes :=
    match (fields.getD [])[n - 1]? with
    | some field => if field.isEmpty then j.empty else field
    | none => j.empty
  let fields :=
    match j.columns with
    | some columns => columns.map fun column =>
      match column with
      | none => key
      | some (true, n) => field left n
      | some (false, n) => field right n
    | none => key :: (left.map (others j.left)).getD [] ++ (right.map (others j.right)).getD []
  mark.intercalate fields ++ [10]

/-- The first argument bounds the number of lines. -/
def rows (j : Joining) : Nat → List (List Bytes) → List (List Bytes) → List Bytes
  | 0, _, _ => []
  | bound + 1, left, right =>
    let single (own : List Bytes) (isLeft : Bool) : List Bytes :=
      if isLeft then if j.left.showsSingle then [j.line (some own) none] else []
      else if j.right.showsSingle then [j.line none (some own)] else []
    match left, right with
    | [], [] => []
    | x :: left, [] => single x true ++ rows j bound left []
    | [], y :: right => single y false ++ rows j bound [] right
    | x :: left, y :: right =>
      let a := j.fold (keyOf j.left x)
      let b := j.fold (keyOf j.right y)
      if a = b then
        let lefts := x :: left.takeWhile fun z => j.fold (keyOf j.left z) == a
        let rights := y :: right.takeWhile fun z => j.fold (keyOf j.right z) == a
        let pairs := if j.showsPairs then lefts.flatMap fun x => rights.map fun y =>
            j.line (some x) (some y) else []
        pairs ++ rows j bound (left.drop (lefts.length - 1)) (right.drop (rights.length - 1))
      else if decide (a < b) then single x true ++ rows j bound left (y :: right)
      else single y false ++ rows j bound (x :: left) right

end Joining

def joinColumns? (text : String) : Option (List (Option (Bool × Nat))) :=
  ((text.replace " " ",").splitOn ",").mapM fun (part : String) =>
    match part.splitOn "." with
    | ["0"] => some none
    | ["1", n] => n.toNat?.map fun n => some (true, n)
    | ["2", n] => n.toNat?.map fun n => some (false, n)
    | _ => none

def join : Shell.Command :=
  withArguments (grammar ["1=", "2=", "j=", "t=", "a=", "v=", "e=", "o=", "i|ignore-case", "header",
      "check-order", "nocheck-order", "z|zero-terminated"]) 1 fun a shell =>
    match a.operands with
    | [first, second] =>
      let key (option : String) : Nat := ((a.number? option).or (a.number? "j")).getD 1
      let singles := a.values "a" ++ a.values "v"
      let (one, shell) := content? .plain first shell
      let (two, shell) := content? .plain second shell
      match one, two with
      | some one, some two =>
        let delimiter := (a.value? "t").bind fun text => (textBytes text).head?
        let columns := (a.value? "o").bind joinColumns?
        let j : Joining := {
          delimiter
          ignoresCase := a.has "i"
          left := ⟨key "1", singles.contains "1"⟩
          right := ⟨key "2", singles.contains "2"⟩
          showsPairs := !a.has "v"
          columns
          empty := textBytes ((a.value? "e").getD "")
        }
        let left := (bareLines one.toList).map (joinFields delimiter)
        let right := (bareLines two.toList).map (joinFields delimiter)
        let (head, left, right) :=
          match a.has "header", left, right with
          | true, x :: left, y :: right => ([j.line (some x) (some y)], left, right)
          | _, left, right => ([], left, right)
        let rows := head ++ j.rows (left.length + right.length + 1) left right
        shell.write (ofBytes rows.flatten)
      | _, _ => shell
    | [] => misuse "missing operand" 1 shell
    | [only] => misuse ("missing operand after " ++ quoted only) 1 shell
    | _ :: _ :: extra :: _ => extraOperand extra shell

/-- Where tabs lead to: every so many columns, or to columns of a list and then a single step. -/
def tabStops? (text : String) : Option (List Nat) :=
  ((text.replace " " ",").splitOn ",").mapM String.toNat?

/-- The first column behind a column where a tab leads. -/
def nextStop (stops : List Nat) (column : Nat) : Nat :=
  match stops with
  | [size] => if size = 0 then column + 1 else (column / size + 1) * size
  | stops => (stops.find? (column < ·)).getD (column + 1)

def columnBehind (stops : List Nat) (column : Nat) (b : UInt8) : Nat :=
  if b = 9 then nextStop stops column else if b = 8 then column - 1
  else if b = 10 then 0 else column + 1

/-- Tabs as blanks; with `isInitial` only those in front of everything else. -/
def expandLine (stops : List Nat) (isInitial : Bool) : Nat → Bytes → Bytes
  | _, [] => []
  | column, b :: bs =>
    let next := columnBehind stops column b
    let own := if b = 9 then List.replicate (next - column) 32 else [b]
    let isText := b != 9 && b != 32 && b != 8
    if isInitial && isText then b :: bs
    else own ++ expandLine stops isInitial next bs

/-- An argument such as `-4` stands for `-t 4`. -/
def spellWidth (option : String) (arguments : List String) : List String :=
  arguments.map fun argument =>
    match argument.toList with
    | '-' :: c :: cs => if c.isDigit then option ++ String.ofList (c :: cs) else argument
    | _ => argument

def badTabs (text : String) (shell : Shell) : Shell :=
  let wrong := text.toList.dropWhile fun c => c.isDigit || c == ',' || c == ' '
  fail ("tab size contains invalid character(s): " ++ quoted (String.ofList wrong)) 1 shell

def expand : Shell.Command := fun arguments =>
  withArguments (grammar ["t|tabs=", "i|initial"]) 1 (fun a shell =>
    let text := ",".intercalate (a.values "t")
    match if text = "" then some [8] else tabStops? text with
    | none => badTabs text shell
    | some stops =>
      if stops.contains 0 then fail "tab size cannot be 0" 1 shell
      else
        let (texts, shell) := contents .plain (orInput a.operands) shell
        let lines := linesOf (texts.flatMap fun entry => entry.2.toList)
        shell.write (ofBytes (lines.flatMap (expandLine stops (a.has "i") 0))))
    (spellWidth "-t" arguments)

/-- Blanks as tabs where these lead as far. Of a single blank in front of a stop nothing is
saved. -/
def unexpandFrom (stops : List Nat) (isAll : Bool) : Nat → Nat → Bytes → Bytes → Bytes
  | _, _, held, [] => held.reverse
  | column, start, held, b :: bs =>
    if b = 32 || b = 9 then
      let next := columnBehind stops column b
      let isPast := match stops with
        | [_] => false
        | stops => stops.all (· ≤ column)
      if isPast then held.reverse ++ b :: bs
      else if b = 9 then 9 :: unexpandFrom stops isAll next next [] bs
      else
        let reaches := nextStop stops column == next
        if reaches && 1 < next - start then
          9 :: unexpandFrom stops isAll next next [] bs
        else if reaches then
          match bs with
          | 32 :: _ | 9 :: _ => 9 :: unexpandFrom stops isAll next next [] bs
          | _ => held.reverse ++ 32 :: unexpandFrom stops isAll next next [] bs
        else unexpandFrom stops isAll next start (32 :: held) bs
    else if isAll then
      let next := columnBehind stops column b
      held.reverse ++ b :: unexpandFrom stops isAll next next [] bs
    else held.reverse ++ b :: bs

def unexpand : Shell.Command := fun arguments =>
  withArguments (grammar ["t|tabs=", "a|all", "first-only"]) 1 (fun a shell =>
    let text := ",".intercalate (a.values "t")
    match if text = "" then some [8] else tabStops? text with
    | none => badTabs text shell
    | some stops =>
      if stops.contains 0 then fail "tab size cannot be 0" 1 shell
      else
        let isAll := a.hasAny ["a", "t"] && !a.has "first-only"
        let (texts, shell) := contents .plain (orInput a.operands) shell
        let lines := linesOf (texts.flatMap fun entry => entry.2.toList)
        shell.write (ofBytes (lines.flatMap (unexpandFrom stops isAll 0 0 []))))
    (spellWidth "-t" arguments)

/-- The column behind a byte, where a line that is folded has come to. -/
def foldColumn (countsBytes : Bool) (column : Nat) (b : UInt8) : Nat :=
  if countsBytes then column + 1
  else if b = 13 then 0
  else columnBehind [8] column b

/-- A line in pieces of a width. At a blank it is broken rather than elsewhere, if this is asked
for; the first argument bounds the number of pieces. -/
def foldLine (width : Nat) (countsBytes atBlanks : Bool) : Nat → Bytes → List Bytes
  | 0, _ => []
  | bound + 1, line =>
    let step (state : Nat × Nat × Bool) (b : UInt8) : Nat × Nat × Bool :=
      let (column, taken, isOver) := state
      let next := foldColumn countsBytes column b
      if isOver || (width < next && taken != 0) then (column, taken, true)
      else (next, taken + 1, false)
    let (_, taken, isOver) := line.foldl step (0, 0, false)
    if !isOver then [line]
    else
      let front := line.take taken
      let back := front.reverse.dropWhile fun b => b != 32 && b != 9
      let size := if atBlanks && !back.isEmpty then back.length else taken
      line.take size :: foldLine width countsBytes atBlanks bound (line.drop size)

def fold : Shell.Command := fun arguments =>
  withArguments (grammar ["w|width=", "s|spaces", "b|bytes"]) 1 (fun a shell =>
    let text := (a.value? "w").getD "80"
    match text.toNat? with
    | some (width + 1) =>
      let (texts, shell) := contents .plain (orInput a.operands) shell
      let lines := cutLines 10 (texts.flatMap fun entry => entry.2.toList)
      shell.write (ofBytes (lines.flatMap fun line =>
        let pieces := foldLine (width + 1) (a.has "b") (a.has "s") (line.bytes.length + 1)
          line.bytes
        ([10] : Bytes).intercalate pieces ++ if line.hasEnd then [10] else []))
    | _ => fail ("invalid number of columns: " ++ quoted text) 1 shell)
    (spellWidth "-w" arguments)

end DtoGen.Tool

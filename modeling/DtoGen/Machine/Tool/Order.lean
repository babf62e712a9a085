import DtoGen.Machine.Tool.Column
import DtoGen.Decimal.Numeral

namespace DtoGen.Tool

/-- The order of two texts by their bytes. -/
def byBytes : Bytes → Bytes → Ordering
  | [], [] => .eq
  | [], _ :: _ => .lt
  | _ :: _, [] => .gt
  | x :: a, y :: b => if x = y then byBytes a b else if x < y then .lt else .gt

def isDigit (b : UInt8) : Bool :=
  48 ≤ b && b ≤ 57

def isLetter (b : UInt8) : Bool :=
  (65 ≤ b && b ≤ 90) || (97 ≤ b && b ≤ 122)

def isBlankByte (b : UInt8) : Bool :=
  b == 32 || b == 9 || b == 10

def upperByte (b : UInt8) : UInt8 :=
  if 97 ≤ b && b ≤ 122 then b - 32 else b

def naturalOf (ds : Bytes) : Nat :=
  ds.foldl (fun n d => n * 10 + (d.toNat - 48)) 0

/-- A number with a sign, as a whole and a fraction of digits. -/
structure Amount where
  isNegative : Bool
  whole : Nat
  fraction : Bytes
  /-- What follows the number. -/
  rest : Bytes

/-- The number in front of a text. No number is a zero. -/
def amountOf (text : Bytes) : Amount :=
  let text := text.dropWhile isBlankByte
  let isNegative := text.head? == some 45
  let text := if isNegative then text.drop 1 else text
  let digits := text.takeWhile isDigit
  let rest := text.drop digits.length
  let fraction := if rest.head? = some 46 then (rest.drop 1).takeWhile isDigit else []
  let rest := if rest.head? = some 46 then rest.drop (fraction.length + 1) else rest
  let fraction := (fraction.reverse.dropWhile (· == 48)).reverse
  let whole := naturalOf digits
  ⟨isNegative && (whole != 0 || !fraction.isEmpty), whole, fraction, rest⟩

def Amount.compareSize (a b : Amount) : Ordering :=
  (compare a.whole b.whole).then (byBytes a.fraction b.fraction)

def byAmount (x y : Bytes) : Ordering :=
  let a := amountOf x
  let b := amountOf y
  match a.isNegative, b.isNegative with
  | true, false => .lt
  | false, true => .gt
  | false, false => a.compareSize b
  | true, true => b.compareSize a

def unitRank (a : Amount) : Nat :=
  match a.rest with
  | b :: _ =>
    let units := "KMGTPEZYRQ".toList
    let c := if b = 107 then 'K' else Char.ofNat b.toNat
    if a.whole = 0 && a.fraction.isEmpty then 0
    else (units.findIdx? (· == c)).elim 0 (· + 1)
  | [] => 0

/-- Numbers with units, the units first. -/
def byUnits (x y : Bytes) : Ordering :=
  let a := amountOf x
  let b := amountOf y
  let ranked (a b : Amount) : Ordering := (compare (unitRank a) (unitRank b)).then (a.compareSize b)
  match a.isNegative, b.isNegative with
  | true, false => .lt
  | false, true => .gt
  | false, false => ranked a b
  | true, true => ranked b a

/-- Numbers of any notation. What is none comes first. -/
def byNumeral (x y : Bytes) : Ordering :=
  let number (text : Bytes) : Option Numeral :=
    (Numeral.read? (text.map fun b => Char.ofNat b.toNat)).map fun entry =>
      entry.1.rounded Numeral.extendedBits
  let rank : Option Numeral → Nat
    | none => 0
    | some (.nan _) => 1
    | some (.infinite true) => 2
    | some (.finite _ _ _) => 3
    | some (.infinite false) => 4
  match number x, number y with
  | some (.finite s n d), some (.finite t m e) =>
    let value (isNegative : Bool) (n : Nat) : Int := if isNegative then -(n : Int) else n
    compare (value s (n * e)) (value t (m * d))
  | a, b => compare (rank a) (rank b)

def monthRank (text : Bytes) : Nat :=
  let name := ((text.dropWhile isBlankByte).take 3).map upperByte
  let months := ["JAN", "FEB", "MAR", "APR", "MAY", "JUN", "JUL", "AUG", "SEP", "OCT", "NOV", "DEC"]
  (months.findIdx? fun month => textBytes month == name).elim 0 (· + 1)

/-- The rank of a byte among the parts of a version that are no numbers. -/
def versionRank (b : Option UInt8) : Int :=
  match b with
  | none => 0
  | some b =>
    if isDigit b then 0
    else if b = 126 then -1
    else if isLetter b then b.toNat
    else b.toNat + 256

/-- Versions, whose numbers count as numbers. The first argument bounds the length. -/
def byVersionFrom : Nat → Bytes → Bytes → Ordering
  | 0, _, _ => .eq
  | bound + 1, x, y =>
    let isText (b : Option UInt8) : Bool := b.any fun b => !isDigit b
    if x.isEmpty && y.isEmpty then .eq
    else if isText x.head? || isText y.head? then
      let a := versionRank x.head?
      let b := versionRank y.head?
      if a = b then
        byVersionFrom bound (if isText x.head? then x.drop 1 else x)
          (if isText y.head? then y.drop 1 else y)
      else compare a b
    else
      let a := x.takeWhile isDigit
      let b := y.takeWhile isDigit
      (compare (naturalOf a) (naturalOf b)).then
        (byVersionFrom bound (x.drop a.length) (y.drop b.length))

/-- A name without its endings such as `.tar.gz`. -/
def withoutEndings (name : Bytes) : Bytes :=
  let isEnding (part : Bytes) : Bool :=
    match part with
    | b :: bs => (isLetter b || b == 126) && bs.all fun b => isLetter b || isDigit b || b == 126
    | [] => false
  let parts := name.splitOn 46
  let kept := (parts.reverse.dropWhile isEnding).reverse
  let endings := parts.drop kept.length
  if kept.isEmpty then ([46] : Bytes).intercalate (parts.take 1)
  else if endings.isEmpty then name
  else ([46] : Bytes).intercalate kept

def byVersion (x y : Bytes) : Ordering :=
  if x = y then .eq
  else
    let rank (text : Bytes) : Nat :=
      if text.isEmpty then 0 else if text = [46] then 1 else if text = [46, 46] then 2
      else if text.head? = some 46 then 3 else 4
    (compare (rank x) (rank y)).then <|
      let bound := 2 * (x.length + y.length) + 2
      let a := withoutEndings x
      let b := withoutEndings y
      (byVersionFrom bound a b).then (byVersionFrom bound x y)

/-- A place in a line: fields and then characters that are left out. -/
structure KeyPlace where
  fields : Nat
  characters : Nat
deriving DecidableEq, Repr

structure SortKey where
  start : Option KeyPlace
  /-- The end; without characters, the whole field belongs to the key. -/
  stop : Option KeyPlace
  letters : List Char
  /-- Whether blanks in front of the start, and of the end, are left out. -/
  skipsStart : Bool
  skipsStop : Bool
deriving DecidableEq, Repr

namespace SortKey

def has (letter : Char) (key : SortKey) : Bool :=
  key.letters.contains letter

end SortKey

/-- The text behind so many fields. `keepsMark` says that the separator behind the last field is
kept. -/
def behindFields (separator : Option UInt8) (keepsMark : Bool) : Nat → Bytes → Bytes
  | 0, text => text
  | n + 1, text =>
    match separator with
    | some mark =>
      let rest := text.dropWhile (· != mark)
      if n = 0 && keepsMark then rest else behindFields separator keepsMark n (rest.drop 1)
    | none =>
      behindFields separator keepsMark n
        ((text.dropWhile isBlankByte).dropWhile fun b => !isBlankByte b)

def SortKey.text (key : SortKey) (separator : Option UInt8) (line : Bytes) : Bytes :=
  let skip (isOn : Bool) (text : Bytes) : Bytes := if isOn then text.dropWhile isBlankByte else text
  let start := key.start.getD ⟨0, 0⟩
  let behindStart := (skip key.skipsStart (behindFields separator false start.fields line)).drop
    start.characters
  let left : Nat :=
    match key.stop with
    | none => 0
    | some stop =>
      if stop.characters = 0 then (behindFields separator true (stop.fields + 1) line).length
      else
        let behind := skip key.skipsStop (behindFields separator false stop.fields line)
        (behind.drop stop.characters).length
  behindStart.take (behindStart.length - left)

/-- A text as the letters of a key want it compared. -/
def SortKey.prepared (key : SortKey) (text : Bytes) : Bytes :=
  let text :=
    if key.has 'd' then text.filter fun b => isBlankByte b || isDigit b || isLetter b
    else if key.has 'i' then text.filter fun b => 32 ≤ b && b < 127
    else text
  if key.has 'f' then text.map upperByte else text

def SortKey.compare (key : SortKey) (separator : Option UInt8) (x y : Bytes) : Ordering :=
  let a := key.prepared (key.text separator x)
  let b := key.prepared (key.text separator y)
  let order :=
    if key.has 'n' then byAmount a b
    else if key.has 'h' then byUnits a b
    else if key.has 'g' then byNumeral a b
    else if key.has 'M' then Ord.compare (monthRank a) (monthRank b)
    else if key.has 'V' then byVersion a b
    else byBytes a b
  if key.has 'r' then order.swap else order

def keyLetters : List Char :=
  ['b', 'd', 'f', 'g', 'h', 'i', 'M', 'n', 'r', 'R', 'V']

def keyNumber? (kind whole : String) (cs : List Char) : Except String (Nat × List Char) :=
  let ds := cs.takeWhile Char.isDigit
  match (String.ofList ds).toNat? with
  | some n => .ok (n, cs.drop ds.length)
  | none =>
    .error ("invalid number " ++ kind ++ ": invalid count at start of " ++ quoted whole)

/-- A key such as `2,3nr`. -/
def sortKey? (text : String) : Except String SortKey := do
  let badField (reason : String) : String :=
    reason ++ ": invalid field specification " ++ quoted text
  let (field, rest) ← keyNumber? "at field start" text text.toList
  if field = 0 then throw (badField "field number is zero")
  let (character, rest) ←
    match rest with
    | '.' :: cs => keyNumber? "after '.'" (String.ofList cs) cs
    | rest => pure (1, rest)
  if character = 0 then throw (badField "character offset is zero")
  let own := rest.takeWhile keyLetters.contains
  let start : KeyPlace := ⟨field - 1, character - 1⟩
  match rest.drop own.length with
  | [] => return ⟨some start, none, own.filter (· != 'b'), own.contains 'b', false⟩
  | ',' :: cs =>
    let (field, rest) ← keyNumber? "after ','" (String.ofList cs) cs
    if field = 0 then throw (badField "field number is zero")
    let (character, rest) ←
      match rest with
      | '.' :: cs => keyNumber? "after '.'" (String.ofList cs) cs
      | rest => pure (0, rest)
    let more := rest.takeWhile keyLetters.contains
    if more.length = rest.length then
      let letters := (own ++ more).filter (· != 'b')
      return ⟨some start, some ⟨field - 1, character⟩, letters, own.contains 'b', more.contains 'b'⟩
    else throw (badField "stray character in field spec")
  | _ => throw (badField "stray character in field spec")

structure SortPlan where
  keys : List SortKey
  separator : Option UInt8
  reverses : Bool
  isUnique : Bool
  isStable : Bool

def SortPlan.compare (plan : SortPlan) (x y : Bytes) : Ordering :=
  let byKeys := plan.keys.foldl
    (fun (order : Ordering) key => order.then (key.compare plan.separator x y)) .eq
  if plan.keys != [] && (byKeys != .eq || plan.isUnique || plan.isStable) then byKeys
  else if plan.reverses then (byBytes x y).swap else byBytes x y

/-- Takes the smaller first line of two sorted lists. The first argument bounds their length. -/
def mergeLines (plan : SortPlan) : Nat → List Bytes → List Bytes → List Bytes
  | 0, xs, ys => xs ++ ys
  | _, [], ys => ys
  | _, xs, [] => xs
  | bound + 1, x :: xs, y :: ys =>
    if plan.compare x y != .gt then x :: mergeLines plan bound xs (y :: ys)
    else y :: mergeLines plan bound (x :: xs) ys

/-- The first line of each run of equal ones. -/
def firstOfRuns (plan : SortPlan) (lines : List Bytes) : List Bytes :=
  (lines.splitBy fun x y => plan.compare x y == .eq).filterMap List.head?

/-- The first line that is not behind the one before, with its number. -/
def disorder? (plan : SortPlan) (lines : List Bytes) : Option (Bytes × Nat) :=
  (((lines.zip (lines.drop 1)).zipIdx 2).find? fun ((x, y), _) =>
    match plan.compare x y with
    | .gt => true
    | .eq => plan.isUnique
    | .lt => false).map fun ((_, y), n) => (y, n)

def sortGrammar : Grammar :=
  grammar ["b|ignore-leading-blanks", "d|dictionary-order", "f|ignore-case",
    "g|general-numeric-sort", "i|ignore-nonprinting", "M|month-sort", "h|human-numeric-sort",
    "n|numeric-sort", "R|random-sort", "r|reverse", "V|version-sort", "c|check?", "C", "m|merge",
    "k|key=", "o|output=", "s|stable", "S|buffer-size=", "t|field-separator=",
    "T|temporary-directory=", "u|unique", "z|zero-terminated", "parallel=", "debug",
    "batch-size=", "sort=", "random-source=", "files0-from=", "compress-program="]

/-- Letters for the words behind the option `sort`. -/
def orderWords : List (String × Char) :=
  [ ("general-numeric", 'g'), ("human-numeric", 'h'), ("month", 'M'), ("numeric", 'n'),
    ("random", 'R'), ("version", 'V') ]

/-- Letters that cannot stand together. -/
def rivalLetters : List Char :=
  ['g', 'h', 'n', 'M', 'R', 'V']

def separatorOf? (a : Arguments) : Except String (Option UInt8) :=
  match a.value? "t" with
  | none => .ok none
  | some "" => .error "empty tab"
  | some "\\0" => .ok (some 0)
  | some text =>
    match textBytes text with
    | [b] => .ok (some b)
    | _ => .error ("multi-character tab " ++ quoted text)

/-- A key that says nothing of its own follows the options. -/
def inheriting (letters : List Char) (skips : Bool) (key : SortKey) : SortKey :=
  if key.letters.isEmpty && !key.skipsStart && !key.skipsStop then
    { key with letters, skipsStart := skips, skipsStop := skips }
  else key

def sortPlan? (a : Arguments) : Except String SortPlan := do
  let separator ← separatorOf? a
  let keys ← (a.values "k").mapM sortKey?
  let word := (a.value? "sort").bind fun name => orderWords.lookup name
  let letters := (keyLetters.filter fun c => a.has (String.singleton c)) ++ word.toList
  let own := letters.filter (· != 'b')
  let skips := letters.contains 'b'
  let isPlain := (own.filter (· != 'r')).isEmpty && !skips
  let keys := keys.map (inheriting own skips)
  let keys :=
    if keys.isEmpty && !isPlain then [⟨none, none, own, skips, skips⟩] else keys
  match keys.find? fun key => 1 < (key.letters.filter rivalLetters.contains).eraseDups.length with
  | some key =>
    let rivals := "dfghinMRV".toList.filter fun c => rivalLetters.contains c && key.has c
    throw ("options '-" ++ String.ofList rivals ++ "' are incompatible")
  | none =>
    return ⟨keys, separator, letters.contains 'r', a.has "u", a.has "s"⟩

def sort : Shell.Command :=
  let wording : Wording := {
    closed := fun operand reason => "cannot read: " ++ operand ++ ": " ++ reason
    directory := fun operand => "read failed: " ++ operand ++ ": " ++ isDirectoryText
  }
  withArguments sortGrammar 2 fun a shell =>
    let checks := a.hasAny ["c", "C"]
    match sortPlan? a, checks, a.operands with
    | .error message, _, _ => fail message 2 shell
    | .ok _, true, _ :: extra :: _ =>
      fail ("extra operand " ++ quoted extra ++ " not allowed with -"
        ++ if a.has "C" then "C" else "c") 2 shell
    | .ok plan, _, _ =>
      let ending : UInt8 := if a.has "z" then 0 else 10
      let operands := orInput a.operands
      let missing := operands.find? fun operand =>
        operand != "-" && (Condition.find? shell operand).isNone
      match missing with
      | some operand =>
        fail (wording.closed operand (shell.tree.absence ⟨operand⟩)) 2 shell
      | none =>
        let (texts, shell) := contents wording operands shell
        if shell.status != 0 then shell.finish 2
        else
          let lists := texts.map fun entry => (cutLines ending entry.2.toList).map Line.bytes
          let lines := lists.flatten
          if checks then
            match disorder? plan lines with
            | none => shell
            | some (line, n) =>
              if a.has "C" || ["quiet", "silent"].contains ((a.value? "c").getD "") then
                shell.finish 1
              else
                fail (operands.headD "-" ++ ":" ++ toString n ++ ": disorder: "
                  ++ shownText line) 1 shell
          else
            let merged :=
              if a.has "m" then lists.foldl (mergeLines plan (lines.length + 1)) []
              else lines.mergeSort fun x y => plan.compare x y != .gt
            let result := if a.has "u" then firstOfRuns plan merged else merged
            let text := ofBytes (result.flatMap (· ++ [ending]))
            match a.value? "o" with
            | none => shell.write text
            | some path =>
              match shell.tree.writeBytes ⟨path⟩ text with
              | (true, tree) => { shell with tree }
              | (false, _) =>
                fail ("open failed: " ++ path ++ ": " ++ shell.tree.absence ⟨path⟩) 2 shell

/-- An argument such as `-1` stands for `-f 1`. -/
def uniq : Shell.Command := fun arguments =>
  let known := grammar ["c|count", "d|repeated", "D", "all-repeated?", "u|unique", "i|ignore-case",
    "f|skip-fields=", "s|skip-chars=", "w|check-chars=", "z|zero-terminated", "group?"]
  withArguments known 1 (fun a shell =>
    match a.operands with
    | _ :: _ :: extra :: _ => extraOperand extra shell
    | operands =>
      let badNumber := ["f", "s", "w"].find? fun option =>
        (a.value? option).any fun text => text.toNat?.isNone
      match badNumber with
      | some option =>
        let kind := match option with
          | "f" => "fields to skip"
          | "s" => "bytes to skip"
          | _ => "bytes to compare"
        fail (((a.value? option).getD "") ++ ": invalid number of " ++ kind) 1 shell
      | none =>
        match content? .plain (operands.headD "-") shell with
        | (none, shell) => shell
        | (some content, shell) =>
          let ending : UInt8 := if a.has "z" then 0 else 10
          let lines := (cutLines ending content.toList).map Line.bytes
          let compared (line : Bytes) : Bytes :=
            let text := behindFields none false ((a.number? "f").getD 0) line
            let text := text.drop ((a.number? "s").getD 0)
            let text := (a.number? "w").elim text text.take
            if a.has "i" then text.map upperByte else text
          let runs := lines.splitBy fun x y => compared x == compared y
          let text :=
            if a.has "group" then
              ([ending] : Bytes).intercalate (runs.map fun run => run.flatMap (· ++ [ending]))
            else if a.hasAny ["D", "all-repeated"] then
              let kept := runs.filter fun run => 1 < run.length
              let mark : Bytes := match a.value? "all-repeated" with
                | some "separate" => [ending]
                | _ => []
              let body := mark.intercalate (kept.map fun run => run.flatMap (· ++ [ending]))
              if a.value? "all-repeated" = some "prepend" then
                kept.flatMap fun run => ending :: run.flatMap (· ++ [ending])
              else body
            else
              let kept := runs.filter fun run =>
                !(a.has "d" && run.length = 1) && !(a.has "u" && run.length != 1)
              kept.flatMap fun run =>
                let count := if a.has "c" then padLeft 7 (toString run.length) ++ " " else ""
                textBytes count ++ run.headD [] ++ [ending]
          match operands[1]? with
          | none | some "-" => shell.write (ofBytes text)
          | some path =>
            match shell.tree.writeBytes ⟨path⟩ (ofBytes text) with
            | (true, tree) => { shell with tree }
            | (false, _) => fail (becauseOf path (shell.tree.absence ⟨path⟩)) 1 shell)
    (arguments.map fun argument =>
      match argument.toList with
      | '-' :: c :: cs => if c.isDigit then "-f" ++ String.ofList (c :: cs) else argument
      | _ => argument)

structure Comparison where
  output : List Bytes
  counts : Nat × Nat × Nat
  /-- Whether a line without a partner has been seen. -/
  isUneven : Bool
  /-- The lists that are not in order. -/
  unsorted : List Nat

/-- How the lines of both lists are written: what stands in front of each of the three columns, if
it is shown. -/
structure CommStyle where
  fronts : List (Option Bytes)
  ending : UInt8
  checks : Bool
  always : Bool

namespace Comparison

def look (style : CommStyle) (list : Nat) (line : Bytes) (rest : List Bytes) (c : Comparison) :
    Comparison :=
  match rest with
  | next :: _ =>
    let isBad := byBytes line next == .gt
    if isBad && style.checks && (style.always || c.isUneven) && !c.unsorted.contains list then
      { c with unsorted := c.unsorted ++ [list] }
    else c
  | [] => c

def put (style : CommStyle) (column : Nat) (line : Bytes) (c : Comparison) : Comparison :=
  match (style.fronts[column]?).join with
  | some front => { c with output := (front ++ line ++ [style.ending]) :: c.output }
  | none => c

/-- The first argument bounds the number of lines. -/
def run (style : CommStyle) : Nat → List Bytes → List Bytes → Comparison → Comparison
  | 0, _, _, c => c
  | bound + 1, left, right, c =>
    let (one, two, both) := c.counts
    let leftOnly (x : Bytes) (left : List Bytes) : Comparison :=
      let c := { c.put style 0 x with counts := (one + 1, two, both), isUneven := true }
      run style bound left right (c.look style 1 x left)
    let rightOnly (y : Bytes) (right : List Bytes) : Comparison :=
      let c := { c.put style 1 y with counts := (one, two + 1, both), isUneven := true }
      run style bound left right (c.look style 2 y right)
    match left, right with
    | [], [] => c
    | x :: left, [] => leftOnly x left
    | [], y :: right => rightOnly y right
    | x :: left', y :: right' =>
      match byBytes x y with
      | .lt => leftOnly x left'
      | .gt => rightOnly y right'
      | .eq =>
        let c := { c.put style 2 x with counts := (one, two, both + 1) }
        run style bound left' right' ((c.look style 1 x left').look style 2 y right')

end Comparison

def comm : Shell.Command :=
  withOperands (grammar ["1", "2", "3", "check-order", "nocheck-order", "output-delimiter=",
      "total", "z|zero-terminated"]) 2 (some 2) fun a shell =>
    let (one, shell) := content? .plain (a.operands.headD "-") shell
    let (two, shell) := content? .plain ((a.operands[1]?).getD "-") shell
    match one, two with
    | some one, some two =>
      let ending : UInt8 := if a.has "z" then 0 else 10
      let mark := textBytes ((a.value? "output-delimiter").getD "\t")
      let second := if a.has "1" then [] else mark
      let third := second ++ if a.has "2" then [] else mark
      let front (option : String) (text : Bytes) : Option Bytes :=
        if a.has option then none else some text
      let style : CommStyle := {
        fronts := [front "1" [], front "2" second, front "3" third]
        ending
        checks := !a.has "nocheck-order"
        always := a.has "check-order"
      }
      let left := (cutLines ending one.toList).map Line.bytes
      let right := (cutLines ending two.toList).map Line.bytes
      let result := Comparison.run style (left.length + right.length + 1) left right
        ⟨[], (0, 0, 0), false, []⟩
      let (x, y, z) := result.counts
      let total := textBytes (toString x) ++ mark ++ textBytes (toString y) ++ mark
        ++ textBytes (toString z) ++ mark ++ textBytes "total" ++ [ending]
      let text := result.output.reverse.flatten ++ if a.has "total" then total else []
      let shell := result.unsorted.foldl
        (fun shell n => fail ("file " ++ toString n ++ " is not in sorted order") 1 shell)
        (shell.write (ofBytes text))
      if result.unsorted.isEmpty || style.always then shell
      else fail "input is not in sorted order" 1 shell
    | _, _ => shell

structure Precedence where
  item : Bytes
  /-- How many items have to come before. -/
  waits : Nat
  /-- What comes behind, the last that was named first. -/
  followers : List Bytes

def addPair (first second : Bytes) (all : List Precedence) : List Precedence :=
  let known (item : Bytes) (all : List Precedence) : List Precedence :=
    if all.any fun p => p.item == item then all else all ++ [⟨item, 0, []⟩]
  let all := known second (known first all)
  if first = second then all
  else all.map fun p =>
    if p.item = first then { p with followers := second :: p.followers }
    else if p.item = second then { p with waits := p.waits + 1 }
    else p

/-- Takes one item after the other for which nothing is left to wait. The first argument bounds
their number. -/
def inPrecedence : Nat → List Bytes → List Precedence → List Bytes × List Precedence
  | 0, _, all => ([], all)
  | _, [], all => ([], all)
  | bound + 1, item :: queue, all =>
    let followers := ((all.find? fun p => p.item == item).map Precedence.followers).getD []
    let all := all.filter fun p => p.item != item
    let step (state : List Bytes × List Precedence) (follower : Bytes) :=
      let (queue, all) := state
      let all := all.map fun p => if p.item = follower then { p with waits := p.waits - 1 } else p
      let isFree := all.any fun p => p.item == follower && p.waits == 0
      (if isFree then queue ++ [follower] else queue, all)
    let (queue, all) := followers.foldl step (queue, all)
    let (rest, left) := inPrecedence bound queue all
    (item :: rest, left)

def tsort : Shell.Command :=
  withOperands (grammar ["w"]) 0 (some 1) fun a shell =>
    let operand := a.operands.headD "-"
    match content? .plain operand shell with
    | (none, shell) => shell
    | (some content, shell) =>
      let words := (content.toList.splitOnP isBlankByte).filter fun word => !word.isEmpty
      if words.length % 2 = 1 then
        fail (operand ++ ": input contains an odd number of tokens") 1 shell
      else
        let pairs := groupsOf words
        let all := pairs.foldl (fun all pair => addPair pair.1 pair.2 all) []
        let sorted := all.mergeSort fun p q => byBytes p.item q.item != .gt
        let free := (sorted.filter fun p => p.waits == 0).map Precedence.item
        let (items, left) := inPrecedence (all.length + 1) free sorted
        let shell := shell.write (unlines items)
        if left.isEmpty then shell
        else
          let shell := fail (operand ++ ": input contains a loop:") 1 shell
          let told := left.foldl
            (fun shell p => shell.warn (shell.name ++ ": " ++ shownText p.item)) shell
          told.write (unlines (left.map Precedence.item))
where
  groupsOf : List Bytes → List (Bytes × Bytes)
    | x :: y :: rest => (x, y) :: groupsOf rest
    | _ => []

end DtoGen.Tool

import DtoGen.Machine.Awk.Value

namespace DtoGen.Awk

/-- Why a format cannot be followed to its end. -/
inductive FormatFault
  | missingValue
  /-- No directive is known by the letter, counting directives from one. -/
  | unknown (number : Nat)

structure Printed where
  output : ByteArray
  fault : Option FormatFault

/-- Whole numbers beyond this have no form of their own. -/
def wholeLimit : Nat :=
  Nat.pow 2 64

/-- A number cut to a whole one that the directives for whole numbers can show. -/
def wholeOf : Numeral → Int
  | .nan _ => -(largestWhole : Int)
  | .infinite true => -(largestWhole : Int)
  | .infinite false => (wholeLimit : Int) - 1
  | .finite isNegative num den =>
    if isNegative then -((min (num / den) largestWhole : Nat) : Int)
    else (min (num / den) (wholeLimit - 1) : Nat)

/-- The character that a value stands for: by its number, or the first one of its text. -/
def characterOf (v : Value) : Bytes :=
  match v with
  | .text bs => [bs.headD 0]
  | v =>
    match v.asNumber? with
    | some number => [UInt8.ofNat (wholeOf number % 256).toNat]
    | none => [(v.toText []).headD 0]

/-- A value as a directive shows it, if its letter is known. -/
def shownBy (format : Bytes) (d : Directive) (v : Value) : Option ByteArray :=
  match d.letter with
  | 'd' | 'i' =>
    let i := wholeOf v.toNumber
    some (({ d with letter := 'd' } : Directive).whole (decide (i < 0)) i.natAbs)
  | 'o' | 'x' | 'X' | 'u' =>
    some (d.whole false ((wholeOf v.toNumber) % (wholeLimit : Int)).toNat)
  | 'e' | 'E' | 'f' | 'F' | 'g' | 'G' => some (d.number v.toNumber)
  | 'c' => some (d.padded ⟨(characterOf v).toArray⟩)
  | 's' => some (d.text ⟨(v.toText format).toArray⟩)
  | _ => none

/-- A width or a precision, which may be a value itself. -/
def readSize (values : List Value) : List Char → Option (Option Int × List Value × List Char)
  | '*' :: cs =>
    match values with
    | v :: values => some (some (wholeOf v.toNumber), values, cs)
    | [] => none
  | cs =>
    let ds := cs.takeWhile Char.isDigit
    let n := (String.ofList ds).toNat?
    some (n.map fun n => (n : Int), values, cs.drop ds.length)

/-- A directive behind its sign, with the values and the characters behind it. -/
def readDirective (values : List Value) (cs : List Char) :
    Option (Directive × List Value × List Char) := do
  let flags := cs.takeWhile Directive.flagChars.contains
  let (width, values, cs) ← readSize values (cs.drop flags.length)
  let width := width.getD 0
  let flags := if width < 0 then '-' :: flags else flags
  let (precision, values, cs) ←
    match cs with
    | '.' :: cs => (readSize values cs).map fun (n, values, cs) => (some (n.getD 0), values, cs)
    | cs => some (none, values, cs)
  let cs := cs.dropWhile fun c => c == 'l' || c == 'h'
  let precision := (precision.filter (0 ≤ ·)).map Int.toNat
  return (⟨flags, width.natAbs, precision, cs.headD '\x00'⟩, values, cs.drop 1)

/-- Follows a format. The first argument bounds its length, and `number` counts directives. -/
def printFrom (format : Bytes) : Nat → Nat → List Value → List Char → ByteArray → Printed
  | 0, _, _, _, output => ⟨output, none⟩
  | _, _, _, [], output => ⟨output, none⟩
  | bound + 1, number, values, '%' :: '%' :: cs, output =>
    printFrom format bound number values cs (output.push 37)
  | bound + 1, number, values, '%' :: cs, output =>
    match readDirective values cs with
    | none => ⟨output, some .missingValue⟩
    | some (d, values, rest) =>
      match shownBy format d (values.headD .unset), values with
      | none, _ => ⟨output, some (.unknown number)⟩
      | some _, [] => ⟨output, some .missingValue⟩
      | some text, _ :: values => printFrom format bound (number + 1) values rest (output ++ text)
  | bound + 1, number, values, c :: cs, output =>
    printFrom format bound number values cs (output.push (UInt8.ofNat c.toNat))

def printBy (convert template : Bytes) (values : List Value) : Printed :=
  printFrom convert (template.length + 1) 1 values (charsOf template) ByteArray.empty

/-- What is put in the place of a match, where a mark stands for the match itself. -/
def replacement (found : Bytes) : Bytes → Bytes
  | [] => []
  | 92 :: 92 :: bs => 92 :: replacement found bs
  | 92 :: 38 :: bs => 38 :: replacement found bs
  | 38 :: bs => found ++ replacement found bs
  | b :: bs => b :: replacement found bs

/-- Replaces matches and counts them. An empty match right behind another one does not count. The
first argument bounds the number of matches. -/
def replaceFrom (e : Regex) (template : Bytes) : Nat → Bool → Bytes → Bytes → Bytes × Nat
  | 0, _, _, bs => (bs, 0)
  | bound + 1, isBehindMatch, behind, bs =>
    match firstMatch e behind bs with
    | none => (bs, 0)
    | some (front, found, rest) =>
      let passed := found.reverse ++ front.reverse ++ behind
      let piece := front ++ replacement found template
      if found.isEmpty then
        let (piece, added) :=
          if isBehindMatch && front.isEmpty then (front, 0) else (piece, 1)
        match rest with
        | [] => (piece, added)
        | b :: rest =>
          let (text, count) := replaceFrom e template bound false (b :: passed) rest
          (piece ++ b :: text, count + added)
      else
        let (text, count) := replaceFrom e template bound true passed rest
        (piece ++ text, count + 1)

def replaceAll (e : Regex) (template bs : Bytes) : Bytes × Nat :=
  replaceFrom e template (bs.length + 2) false [] bs

def replaceFirst (e : Regex) (template bs : Bytes) : Bytes × Nat :=
  match firstMatch e [] bs with
  | none => (bs, 0)
  | some (front, found, rest) => (front ++ replacement found template ++ rest, 1)

/-- The nearest whole number, a half to the even one. -/
def nearest : Numeral → Numeral
  | .finite s num den => .finite s (Binary64.roundQuotient num den) 1
  | number => number

/-- Whether a position is between two limits, the second one outside. -/
def isWithin (first stop : Numeral) (n : Nat) : Bool :=
  let position := Numeral.ofNat n
  (first.order? position).any (· != .gt) && (position.order? stop).any (· == .lt)

/-- The part of a text from a position on, with a length. -/
def partOf (bs : Bytes) (first : Numeral) (length : Option Numeral) : Bytes :=
  let start := nearest first
  let stop := length.elim (.infinite false) fun length => nearest (first.plus length)
  ((bs.zipIdx 1).filter fun entry => isWithin start stop entry.2).map Prod.fst

/-- Where a text is in another one, counted from one. The first number is where the search is. -/
def placeOf (part : Bytes) : Nat → Bytes → Nat
  | _, [] => 0
  | n, b :: bs => if part.isPrefixOf (b :: bs) then n else placeOf part (n + 1) bs

def indexOf (bs part : Bytes) : Nat :=
  if part.isEmpty then 1 else placeOf part 1 bs

def recased (change : Char → Char) (bs : Bytes) : Bytes :=
  bs.map fun b => if b < 128 then UInt8.ofNat (change (Char.ofNat b.toNat)).toNat else b

end DtoGen.Awk

import DtoGen.Decimal.Arithmetic
import DtoGen.Machine.Awk.Token
import DtoGen.Machine.Format
import DtoGen.Machine.Regex.Notation

namespace DtoGen.Awk

inductive Value
  | unset
  | number (value : Numeral)
  | text (bytes : Bytes)
  /-- A text from outside. -/
  | input (bytes : Bytes)
deriving DecidableEq, Repr

def shownText (bs : Bytes) : String :=
  Text.decode ⟨bs.toArray⟩

def ofText (text : String) : Bytes :=
  text.toUTF8.toList

def isSpace (b : UInt8) : Bool :=
  b == 32 || 9 ≤ b && b ≤ 13

def charsOf (bs : Bytes) : List Char :=
  bs.map fun b => Char.ofNat b.toNat

/-- The number at the front of a text, and what follows it. -/
def leadingNumber? (bs : Bytes) : Option (Numeral × List Char) :=
  let cs := charsOf (bs.dropWhile isSpace)
  match cs with
  | '-' :: cs => Numeral.decimal? true cs
  | '+' :: cs => Numeral.decimal? false cs
  | cs => Numeral.decimal? false cs

def numberOf (bs : Bytes) : Numeral :=
  ((leadingNumber? bs).map fun found => found.1.rounded Numeral.doubleBits).getD .zero

/-- Whether a text is nothing but a number, blanks aside. -/
def looksLikeNumber (bs : Bytes) : Bool :=
  (leadingNumber? bs).any fun found => found.2.all Char.isWhitespace

/-- Whole numbers up to here are written with all their digits. -/
def largestWhole : Nat :=
  Nat.pow 2 63

def numberText (format : Bytes) (value : Numeral) : Bytes :=
  match charsOf format with
  | '%' :: cs =>
    let flags := cs.takeWhile Directive.flagChars.contains
    let cs := cs.drop flags.length
    let width := cs.takeWhile Char.isDigit
    let cs := cs.drop width.length
    let (precision, cs) : Option Nat × List Char :=
      match cs with
      | '.' :: cs =>
        let ds := cs.takeWhile Char.isDigit
        (some ((String.ofList ds).toNat?.getD 0), cs.drop ds.length)
      | cs => (none, cs)
    match cs with
    | [letter] =>
      let d : Directive := ⟨flags, (String.ofList width).toNat?.getD 0, precision, letter⟩
      if letter = 'd' || letter = 'i' then
        let i := value.toInt?.getD 0
        (d.whole (i < 0) i.natAbs).toList
      else (d.number value).toList
    | _ => format
  | _ => format

/-- A number as a text: all digits of a whole number, and otherwise what the format makes of it. -/
def textOfNumber (format : Bytes) (value : Numeral) : Bytes :=
  match value with
  | .finite s a b =>
    if a % b = 0 && a / b ≤ largestWhole then
      ofText ((if s && a != 0 then "-" else "") ++ toString (a / b))
    else numberText format value
  | .infinite s => ofText (if s then "-inf" else "inf")
  | .nan s => ofText (if s then "-nan" else "nan")

namespace Value

def toNumber : Value → Numeral
  | unset => .zero
  | number value => value
  | text bs | input bs => numberOf bs

def toText (format : Bytes) : Value → Bytes
  | unset => []
  | number value => textOfNumber format value
  | text bs | input bs => bs

def isTrue : Value → Bool
  | unset => false
  | number value => !value.isZero
  | text bs => !bs.isEmpty
  | input bs => if looksLikeNumber bs then !(numberOf bs).isZero else !bs.isEmpty

/-- The number that a value is compared as, where it is compared as one. -/
def asNumber? : Value → Option Numeral
  | unset => some .zero
  | number value => some value
  | text _ => none
  | input bs => if looksLikeNumber bs then some (numberOf bs) else none

def ofNat (n : Nat) : Value :=
  number (.ofNat n)

def ofBool (b : Bool) : Value :=
  ofNat (if b then 1 else 0)

end Value

def holdsOf (comparison : Comparison) (order : Ordering) : Bool :=
  match comparison with
  | .less => order == .lt
  | .atMost => order != .gt
  | .equal => order == .eq
  | .different => order != .eq
  | .greater => order == .gt
  | .atLeast => order != .lt

def orderOfBytes : Bytes → Bytes → Ordering
  | [], [] => .eq
  | [], _ :: _ => .lt
  | _ :: _, [] => .gt
  | a :: as, b :: bs => if a < b then .lt else if b < a then .gt else orderOfBytes as bs

/-- Compares numbers where both values are numbers, and texts otherwise. -/
def compareValues (format : Bytes) (comparison : Comparison) (left right : Value) : Bool :=
  match left.asNumber?, right.asNumber? with
  | some a, some b =>
    match a.order? b with
    | some order => holdsOf comparison order
    | none => comparison == .different
  | _, _ => holdsOf comparison (orderOfBytes (left.toText format) (right.toText format))

def applied : Operator → Numeral → Numeral → Numeral
  | .add => .plus
  | .subtract => .minus
  | .multiply => .times
  | .divide => .dividedBy
  | .modulo => .remainder
  | .power => .raised

def expressionSigns : Bytes :=
  ofText "\\.[]()*+?|^$"

/-- The characters of a set, with escapes read. The first argument bounds the length; the answer
ends behind the closing bracket. -/
def setMembers : Nat → Bool → Bytes → Option (Bytes × Bytes)
  | 0, _, _ | _, _, [] => none
  | bound + 1, isFirst, b :: bs =>
    if b = 93 && !isFirst then some ([], bs)
    else if b = 92 then
      match bs with
      | c :: rest =>
        let (piece, rest) :=
          match escaped (charsOf (c :: rest)) with
          | (b :: _ :: _, left) =>
            if b = 92 then ([c], rest) else ([], (c :: rest).drop (rest.length + 1 - left.length))
          | (piece, left) => (piece, (c :: rest).drop (rest.length + 1 - left.length))
        (setMembers bound false rest).map fun (members, rest) => (piece ++ members, rest)
      | [] => none
    else if b = 91 && bs.head? = some 58 then
      let name := bs.takeWhile (· != 93)
      (setMembers bound false (bs.drop (name.length + 1))).map fun (members, rest) =>
        (b :: name ++ 93 :: members, rest)
    else (setMembers bound false bs).map fun (members, rest) => (b :: members, rest)

/-- A set as it is written without escapes: a closing bracket comes first. -/
def setText (isNegated : Bool) (members : Bytes) : Bytes :=
  let hasClosing := members.contains 93 && !(members.contains 91)
  let others := if hasClosing then members.filter (· != 93) else members
  91 :: (if isNegated then [94] else []) ++ (if hasClosing then [93] else []) ++ others ++ [93]

/-- A regular expression in the notation that the matcher reads: without counts in braces, and
without escapes for single characters. The first argument bounds the length. -/
def plainNotation : Nat → Bytes → Bytes
  | 0, bs => bs
  | _, [] => []
  | bound + 1, 92 :: c :: rest =>
    match escaped (charsOf (c :: rest)) with
    | ([b], left) =>
      let rest := (c :: rest).drop (rest.length + 1 - left.length)
      (if expressionSigns.contains b then [92, b] else [b]) ++ plainNotation bound rest
    | _ => (if expressionSigns.contains c then [92, c] else [c]) ++ plainNotation bound rest
  | bound + 1, 91 :: bs =>
    let isNegated := bs.head? == some 94
    match setMembers (bs.length + 1) true (if isNegated then bs.drop 1 else bs) with
    | some (members, rest) => setText isNegated members ++ plainNotation bound rest
    | none => [92, 91] ++ plainNotation bound bs
  | bound + 1, b :: bs =>
    if b = 123 || b = 125 then 92 :: b :: plainNotation bound bs else b :: plainNotation bound bs

def expressionOf (source : Bytes) : Except String Regex :=
  match Regex.parse (.search true) (plainNotation (source.length + 1) source) with
  | .ok e => .ok e
  | .error fault => .error fault.message

/-- Where the first match starts, its length, and what follows it. -/
def firstMatch (e : Regex) (behind ahead : Bytes) : Option (Bytes × Bytes × Bytes) :=
  (e.find ⟨behind, ahead, []⟩).map fun (start, stop) =>
    (ahead.take (start.position - behind.length), start.since stop, stop.ahead)

def matchesText (e : Regex) (bs : Bytes) : Bool :=
  (e.find ⟨[], bs, []⟩).isSome

inductive Separator
  | blanks
  | nothing
  | expression (e : Regex)

def separatorOf (source : Bytes) : Except String Separator :=
  match source with
  | [32] => .ok .blanks
  | [] => .ok .nothing
  | [b] =>
    (expressionOf (if expressionSigns.contains b then [92, b] else [b])).map .expression
  | source => (expressionOf source).map .expression

def wordsOf : Bytes → List Bytes
  | [] => []
  | b :: bs =>
    if isSpace b then wordsOf bs
    else
      match bs, wordsOf bs with
      | [], _ => [[b]]
      | c :: _, words =>
        if isSpace c then [b] :: words
        else
          match words with
          | word :: words => (b :: word) :: words
          | [] => [[b]]

/-- The parts of a text between matches. The first argument bounds their number. -/
def partsBetween (e : Regex) : Nat → Bytes → Bytes → List Bytes
  | 0, _, bs => [bs]
  | bound + 1, behind, bs =>
    match firstMatch e behind bs with
    | none => [bs]
    | some (front, found, rest) =>
      if found.isEmpty then [bs]
      else front :: partsBetween e bound (found.reverse ++ front.reverse ++ behind) rest

def splitBy (separator : Separator) (bs : Bytes) : List Bytes :=
  if bs.isEmpty then []
  else
    match separator with
    | .blanks => wordsOf bs
    | .nothing => bs.map fun b => [b]
    | .expression e => partsBetween e (bs.length + 1) [] bs

/-- An entry with its key, and whether the key came as a number. -/
structure Entry where
  key : Bytes
  isNumber : Bool
  value : Value

/-- The entries, a later one first. -/
abbrev Table := List Entry

namespace Table

def find? (key : Bytes) (table : Table) : Option Value :=
  (List.find? (fun entry => entry.key == key) table).map Entry.value

def replaced (key : Bytes) (value : Value) : Table → Option Table
  | [] => none
  | entry :: table =>
    if entry.key == key then some ({ entry with value } :: table)
    else (replaced key value table).map (entry :: ·)

def put (key : Bytes) (isNumber : Bool) (value : Value) (table : Table) : Table :=
  (replaced key value table).getD (⟨key, isNumber, value⟩ :: table)

def erase (key : Bytes) (table : Table) : Table :=
  table.filter fun entry => entry.key != key

def bucketCount : Nat := 64

def hashStep (hash : UInt32) (b : UInt8) : UInt32 :=
  (hash ^^^ b.toUInt32) * 16777619

def bucket (key : Bytes) : Nat :=
  (key.foldl hashStep 2166136261).toNat % bucketCount

/-- The keys in the order in which a loop goes through them. Keys that came as numbers are put in
front of their buckets when the loop starts, in the order of their own buckets. -/
def keys (table : Table) : List Bytes :=
  let (numbers, texts) := table.partition Entry.isNumber
  let place (entry : Entry) : Nat :=
    ((numberOf entry.key).toInt?.getD 0).toNat % bucketCount
  let numbers := (numbers.mergeSort fun a b => decide (place a ≤ place b)).reverse
  let all := (numbers ++ texts).map Entry.key
  all.mergeSort fun a b => decide (bucket a ≤ bucket b)

end Table

end DtoGen.Awk

import DtoGen.Machine.Format
import DtoGen.Machine.Regex.Notation
import DtoGen.Machine.Tool.Order

namespace DtoGen.Tool

/-- A number with how it was written: how many digits stand behind the point, and how wide it is
without them. -/
structure SeriesNumber where
  value : Numeral
  places : Option Nat
  width : Nat

/-- A number of a series. One with an exponent has as many places as it needs. -/
def seriesNumber? (text : String) : Option SeriesNumber :=
  let cs := (text.toList.dropWhile Char.isWhitespace)
  let unsigned := if cs.head? = some '+' then cs.drop 1 else cs
  match Numeral.read? cs with
  | some (value, []) =>
    let isPlain := unsigned.all fun c => c.isDigit || c == '.' || c == '-'
    let isHex := unsigned.any fun c => c == 'x' || c == 'X'
    let mantissa := unsigned.takeWhile fun c => c != 'e' && c != 'E'
    let fraction := (mantissa.dropWhile (· != '.')).drop 1
    let hasPoint := mantissa.contains '.'
    let exponent := (Numeral.exponent 'e' (unsigned.drop mantissa.length)).1
    let places : Nat := ((fraction.length : Int) - exponent).toNat
    let width : Nat :=
      mantissa.length
        - (if hasPoint && fraction.isEmpty then 1 else 0)
        + (if hasPoint && (mantissa.head? == some '.' || (mantissa.take 2) == ['-', '.']) then 1
          else 0)
    if isHex then
      match value with
      | .finite isNegative n 1 =>
        some ⟨value, some 0, (toString n).length + if isNegative then 1 else 0⟩
      | _ => some ⟨value, none, 0⟩
    else if isPlain then some ⟨value, some fraction.length, width⟩
    else some ⟨value, some places, width⟩
  | _ => none

/-- A number as a signed quotient. -/
structure Fraction where
  num : Int
  den : Nat

def Fraction.ofNumeral? : Numeral → Option Fraction
  | .finite isNegative n d => some ⟨if isNegative then -(n : Int) else n, d⟩
  | _ => none

def Fraction.toNumeral (f : Fraction) : Numeral :=
  .finite (f.num < 0) f.num.natAbs f.den

/-- The numbers from a first one on, by steps, that are not past the last one. The first argument
bounds how many there are. -/
def series (first step last : Fraction) : Nat → Nat → List Fraction
  | 0, _ => []
  | bound + 1, i =>
    let x : Fraction := ⟨first.num * step.den + i * step.num * first.den, first.den * step.den⟩
    let isPast :=
      if step.num < 0 then x.num * last.den < last.num * x.den
      else last.num * x.den < x.num * last.den
    if isPast then [] else x :: series first step last bound (i + 1)

/-- A format with one directive: what stands in front of it, the directive, and what follows. -/
def seriesFormat? (text : String) : Except String (String × Directive × String) :=
  let whole := "format " ++ quoted text
  let rec literal : Nat → List Char → List Char × List Char
    | 0, cs => ([], cs)
    | _, [] => ([], [])
    | bound + 1, '%' :: '%' :: cs =>
      let (text, rest) := literal bound cs
      ('%' :: text, rest)
    | _, '%' :: cs => ([], '%' :: cs)
    | bound + 1, c :: cs =>
      let (text, rest) := literal bound cs
      (c :: text, rest)
  let (front, rest) := literal (text.length + 1) text.toList
  match rest with
  | '%' :: cs =>
    let flags := cs.takeWhile fun c => Directive.flagChars.contains c || c == '\''
    let cs := cs.drop flags.length
    let width := cs.takeWhile Char.isDigit
    let cs := cs.drop width.length
    let hasPrecision := cs.head? == some '.'
    let cs := if hasPrecision then cs.drop 1 else cs
    let precision := if hasPrecision then cs.takeWhile Char.isDigit else []
    let cs := cs.drop precision.length
    let cs := if cs.head? = some 'L' then cs.drop 1 else cs
    match cs with
    | letter :: cs =>
      if !(['a', 'e', 'f', 'g', 'A', 'E', 'F', 'G'].contains letter) then
        .error (whole ++ " has unknown %" ++ String.singleton letter ++ " directive")
      else
        match literal (text.length + 1) cs with
        | (back, []) =>
          let precision :=
            if hasPrecision then some ((String.ofList precision).toNat?.getD 0) else none
          let d : Directive :=
            ⟨flags, ((String.ofList width).toNat?).getD 0, precision, letter⟩
          .ok (String.ofList front, d, String.ofList back)
        | _ => .error (whole ++ " has too many % directives")
    | [] => .error (whole ++ " ends in %")
  | _ => .error (whole ++ " has no % directive")

def seriesLimit : Nat := 200000

/-- Arguments below zero are no options. -/
def protectNumbers : List String → List String
  | [] => []
  | argument :: rest =>
    match argument.toList with
    | '-' :: c :: _ =>
      if c.isDigit || c = '.' then "--" :: argument :: rest
      else if argument = "-s" || argument = "-f" then
        match rest with
        | value :: rest => argument :: value :: protectNumbers rest
        | [] => [argument]
      else argument :: protectNumbers rest
    | _ => argument :: rest

def seq : Shell.Command := fun arguments =>
  withArguments (frontGrammar ["f|format=", "s|separator=", "w|equal-width"]) 1 (fun a shell =>
    match a.operands with
    | [] => misuse "missing operand" 1 shell
    | _ :: _ :: _ :: extra :: _ => extraOperand extra shell
    | operands =>
      match operands.find? fun text => (seriesNumber? text).isNone with
      | some text => misuse ("invalid floating point argument: " ++ quoted text) 1 shell
      | none =>
        let one : SeriesNumber := ⟨.ofNat 1, some 0, 1⟩
        let (first, step, last) :=
          match operands.filterMap seriesNumber? with
          | [last] => (one, one, last)
          | [first, last] => (first, one, last)
          | [first, step, last] => (first, step, last)
          | _ => (one, one, one)
        let isNan (n : SeriesNumber) : Bool :=
          match n.value with
          | .nan _ => true
          | _ => false
        let nan := (operands.zip (operands.filterMap seriesNumber?)).find? fun e => isNan e.2
        let format := (a.value? "f").map seriesFormat?
        match nan, format with
        | some (text, _), _ =>
          misuse ("invalid 'not-a-number' argument: " ++ quoted text) 1 shell
        | none, some (.error message) => fail message 1 shell
        | none, format =>
          if a.has "w" && a.has "f" then
            misuse "format string may not be specified when printing equal width strings" 1 shell
          else
            match Fraction.ofNumeral? first.value, Fraction.ofNumeral? step.value with
            | some start, some stride =>
              if stride.num = 0 then
                misuse ("invalid Zero increment value: " ++ quoted ((operands[1]?).getD "")) 1 shell
              else
                let goal := (Fraction.ofNumeral? last.value).getD
                  ⟨if last.value.isNegative then -1 else Nat.pow 10 30, 1⟩
                let numbers := series start stride goal seriesLimit 0
                let places :=
                  match first.places, step.places with
                  | some n, some m => some (max n m)
                  | _, _ => none
                let width (n : SeriesNumber) : Nat :=
                  let own := n.places.getD 0
                  let most := places.getD 0
                  if own = 0 then n.width + if most = 0 then 0 else most + 1
                  else n.width + most - own
                let least := if a.has "w" then max (width first) (width last) else 0
                let shown (f : Fraction) : String :=
                  match format, places with
                  | some (.ok (front, d, back)), _ =>
                    front ++ shownText (d.number f.toNumeral).toList ++ back
                  | _, some n =>
                    let d : Directive := ⟨['0'], least, some n, 'f'⟩
                    shownText (d.number f.toNumeral).toList
                  | _, none =>
                    let d : Directive := ⟨[], 0, none, 'g'⟩
                    shownText (d.number f.toNumeral).toList
                if numbers.isEmpty then shell
                else
                  shell.say (((a.value? "s").getD "\n").intercalate (numbers.map shown) ++ "\n")
            | _, _ => shell)
    (protectNumbers arguments)

/-- The prime factors of a number, from a divisor on. The first argument bounds the divisors. -/
def factorsFrom : Nat → Nat → Nat → List Nat
  | 0, _, n => if n ≤ 1 then [] else [n]
  | bound + 1, d, n =>
    if n ≤ 1 then []
    else if n < d * d then [n]
    else if n % d = 0 then d :: factorsFrom bound d (n / d)
    else factorsFrom bound (if d = 2 then 3 else d + 2) n

def factorLimit : Nat := 4000000

def factorOne (text : String) (shell : Shell) : Shell :=
  match text.toNat? with
  | some n =>
    let factors := if n = 0 then [] else factorsFrom factorLimit 2 n
    shell.say (toString n ++ ":" ++ String.join (factors.map fun f => " " ++ toString f) ++ "\n")
  | none => fail (quoted text ++ " is not a valid positive integer") 1 shell

def factor : Shell.Command :=
  withArguments (grammar ["h|exponents"]) 1 fun a shell =>
    if a.operands.isEmpty then
      let (content, shell) := takeAll 0 shell
      let words := (content.toList.splitOnP isBlankByte).filter fun word => !word.isEmpty
      words.foldl (fun shell word => factorOne (shownText word) shell) shell
    else a.operands.foldl (fun shell text => factorOne text shell) shell

namespace Expression

inductive Fault
  | form (message : String)
  | notInteger
  | zeroDivision
  | badRegex

def Fault.message : Fault → String
  | form message => "syntax error: " ++ message
  | notInteger => "non-integer argument"
  | zeroDivision => "division by zero"
  | badRegex => "Invalid regular expression"

/-- A value, the words behind it, and the last word that was used. -/
structure Reading where
  value : String
  rest : List String
  last : String

abbrev Read := Except Fault Reading

def isNull (text : String) : Bool :=
  let cs := text.toList
  let ds := if cs.head? = some '-' then cs.drop 1 else cs
  text = "" || (!ds.isEmpty && ds.all (· == '0'))

def integer? (text : String) : Except Fault Int :=
  match text.toList with
  | '-' :: c :: cs => match (String.ofList (c :: cs)).toNat? with
    | some n => .ok (-(n : Int))
    | none => .error .notInteger
  | _ => match text.toNat? with
    | some n => .ok n
    | none => .error .notInteger

def truth (isTrue : Bool) : String :=
  if isTrue then "1" else "0"

/-- What an expression finds at the start of a text: the first group, or the length. -/
def matched (text pattern : String) : Except Fault String :=
  match Regex.ofBytes? false (textBytes pattern) with
  | none => .error .badRegex
  | some r =>
    let found := r.longest ⟨[], textBytes text, []⟩
    if r.groupCount = 0 then .ok (toString ((found.map Regex.Place.position).getD 0))
    else .ok ((found.bind fun p => p.groups.lookup 1).elim "" shownText)

def compareWords (operator left right : String) : String :=
  let order :=
    match integer? left, integer? right with
    | .ok a, .ok b => compare a b
    | _, _ => byBytes (textBytes left) (textBytes right)
  truth (match operator with
    | "<" => order == .lt
    | "<=" => order != .gt
    | "=" | "==" => order == .eq
    | "!=" => order != .eq
    | ">=" => order != .lt
    | _ => order == .gt)

def arithmetic (operator left right : String) : Except Fault String := do
  let a ← integer? left
  let b ← integer? right
  match operator with
  | "+" => return toString (a + b)
  | "-" => return toString (a - b)
  | "*" => return toString (a * b)
  | "/" => if b = 0 then throw .zeroDivision else return toString (Int.tdiv a b)
  | _ => if b = 0 then throw .zeroDivision else return toString (Int.tmod a b)

def substring (text start length : String) : String :=
  match integer? start, integer? length with
  | .ok s, .ok n =>
    if s ≤ 0 || n ≤ 0 then "" else String.ofList ((text.toList.drop (s.toNat - 1)).take n.toNat)
  | _, _ => ""

def indexOf (text members : String) : String :=
  toString ((text.toList.findIdx? members.toList.contains).elim 0 (· + 1))

/-- The operators from the weakest to the strongest; those of one row bind alike. -/
def rows : List (List String) :=
  [["|"], ["&"], ["<", "<=", "=", "==", "!=", ">=", ">"], ["+", "-"], ["*", "/", "%"], [":"]]

def missing (last : String) : Fault :=
  .form ("missing argument after " ++ quoted last)

mutual

/-- An expression whose operators stand in the rows that are left. A part that does not count is
read without being worked out. The first argument bounds the number of words. -/
def operation (counts : Bool) : Nat → List (List String) → List String → String → Read
  | 0, _, _, last => .error (missing last)
  | bound + 1, [], words, last => operand counts bound words last
  | bound + 1, row :: others, words, last => do
    let first ← operation counts bound others words last
    chain counts bound row others first

/-- What follows a first value in one row of operators. -/
def chain (counts : Bool) : Nat → List String → List (List String) → Reading → Read
  | 0, _, _, first => .ok first
  | bound + 1, row, others, first =>
    match first.rest with
    | operator :: words =>
      if row.contains operator then do
        let skips :=
          match operator with
          | "|" => !isNull first.value
          | "&" => isNull first.value
          | _ => false
        let second ← operation (counts && !skips) bound others words operator
        let value ←
          if !counts then pure first.value
          else
            match operator with
            | "|" =>
              pure (if !isNull first.value then first.value
                else if isNull second.value then "0" else second.value)
            | "&" =>
              pure (if isNull first.value || isNull second.value then "0" else first.value)
            | ":" => matched first.value second.value
            | "+" | "-" | "*" | "/" | "%" => arithmetic operator first.value second.value
            | _ => pure (compareWords operator first.value second.value)
        chain counts bound row others { second with value }
      else .ok first
    | [] => .ok first

def operand (counts : Bool) : Nat → List String → String → Read
  | 0, _, last => .error (missing last)
  | bound + 1, words, last =>
    match words with
    | [] => .error (missing last)
    | "(" :: rest => do
      let inner ← operation counts bound rows rest "("
      match inner.rest with
      | ")" :: rest => return { inner with rest, last := ")" }
      | [] => throw (.form ("expecting ')' after " ++ quoted inner.last))
      | found :: _ => throw (.form ("expecting ')' instead of " ++ quoted found))
    | ")" :: _ => .error (.form "unexpected ')'")
    | "+" :: rest =>
      match rest with
      | word :: rest => .ok ⟨word, rest, word⟩
      | [] => .error (missing "+")
    | "length" :: rest => do
      let text ← operand counts bound rest "length"
      return { text with value := toString text.value.utf8ByteSize }
    | "match" :: rest => do
      let text ← operand counts bound rest "match"
      let pattern ← operand counts bound text.rest text.last
      let value ← if counts then matched text.value pattern.value else pure ""
      return { pattern with value }
    | "index" :: rest => do
      let text ← operand counts bound rest "index"
      let members ← operand counts bound text.rest text.last
      return { members with value := indexOf text.value members.value }
    | "substr" :: rest => do
      let text ← operand counts bound rest "substr"
      let start ← operand counts bound text.rest text.last
      let length ← operand counts bound start.rest start.last
      return { length with value := substring text.value start.value length.value }
    | word :: rest => .ok ⟨word, rest, word⟩

end

def evaluate (words : List String) : Except Fault String := do
  let result ← operation true (16 * words.length + 16) rows words ""
  match result.rest with
  | [] => return result.value
  | extra :: _ => throw (.form ("unexpected argument " ++ quoted extra))

end Expression

def expr : Shell.Command := fun arguments shell =>
  match if arguments.head? = some "--" then arguments.drop 1 else arguments with
  | [] => misuse "missing operand" 2 shell
  | words =>
    match Expression.evaluate words with
    | .ok value =>
      (shell.finish (if Expression.isNull value then 1 else 0)).say (value ++ "\n")
    | .error fault =>
      fail fault.message 2 shell

end DtoGen.Tool

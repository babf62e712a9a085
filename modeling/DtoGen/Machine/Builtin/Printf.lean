import DtoGen.Machine.Assignment
import DtoGen.Machine.Builtin.Echo
import DtoGen.Machine.Calendar
import DtoGen.Machine.Format
import DtoGen.Machine.Quoting

namespace DtoGen.Builtin

/-- What is wrong with a format or with its arguments. -/
inductive PrintfFault
  | badNumber (text : String) (isPartial : Bool)
  | outOfRange (text : String)
  | missingHexDigit
  | missingLetter (spelling : List Char)
  | badLetter (spelling : List Char) (letter : Char)

/-- What a format has written so far. -/
structure Printer where
  dialect : Dialect
  arguments : List String
  /-- Whether an argument has been taken. -/
  hasTaken : Bool
  output : ByteArray
  faults : List PrintfFault
  status : Nat
  ends : Bool

namespace Printer

def start (dialect : Dialect) (arguments : List String) : Printer :=
  ⟨dialect, arguments, false, ByteArray.empty, [], 0, false⟩

def add (text : ByteArray) (p : Printer) : Printer :=
  { p with output := p.output ++ text }

def take (p : Printer) : Option String × Printer :=
  (p.arguments.head?, { p with arguments := p.arguments.drop 1, hasTaken := true })

def complain (fault : PrintfFault) (p : Printer) : Printer :=
  { p with faults := p.faults ++ [fault], status := max p.status 1 }

def abort (fault : PrintfFault) (p : Printer) : Printer :=
  let status := match p.dialect with
    | .plain => 2
    | .extended => 1
  { p.complain fault with status, ends := true }

end Printer

/-- The number at the front of a text, and what follows it. -/
def leadingNumber (text : String) : Option Int × List Char :=
  let cs := text.toList.dropWhile (·.isWhitespace)
  let isNegative := cs.head? == some '-'
  let cs := if isNegative || cs.head? == some '+' then cs.drop 1 else cs
  let (base, digits) : Nat × List Char :=
    match cs with
    | '0' :: x :: d :: rest =>
      if (x == 'x' || x == 'X') && Numeral.isHexDigit d then (16, d :: rest) else (8, cs)
    | '0' :: _ => (8, cs)
    | _ => (10, cs)
  let ds := digits.takeWhile fun c => (Script.digitValue? base c).isSome
  let n : Int := (Numeral.valueOf base ds : Nat)
  if ds.isEmpty then (none, cs)
  else (some (if isNegative then -n else n), digits.drop ds.length)

/-- Tells that a number is too large. For one dialect this is no failure. -/
def outOfRange (text : String) (p : Printer) : Printer :=
  let told := p.complain (.outOfRange text)
  match p.dialect with
  | .plain => told
  | .extended => { told with status := p.status }

/-- A text as a number; a quote in front asks for the code of the next character. -/
def charCode? (text : String) : Option Nat :=
  match text.toList with
  | q :: rest =>
    if q == '\'' || q == '"' then
      some ((String.ofList rest).toUTF8.toList.headD 0).toNat
    else none
  | [] => none

/-- A whole number as an argument, within the limits. -/
def takeNumber (least greatest : Int) (p : Printer) : Int × Printer :=
  match p.take with
  | (none, p) => (0, p)
  | (some text, p) =>
    match charCode? text, leadingNumber text with
    | some code, _ => (code, p)
    | none, (some n, rest) =>
      let p := if rest.isEmpty then p else p.complain (.badNumber text true)
      if n < least then (least, outOfRange text p)
      else if greatest < n then (greatest, outOfRange text p)
      else (n, p)
    | none, (none, _) =>
      (0, if text = "" then p else p.complain (.badNumber text false))

def leastInt : Int := -9223372036854775808

def greatestInt : Int := 9223372036854775807

def greatestNat : Int := 18446744073709551615

def takeInt (p : Printer) : Int × Printer :=
  takeNumber leastInt greatestInt p

/-- Numbers below zero wrap around. -/
def takeNat (p : Printer) : Nat × Printer :=
  let (n, p) := takeNumber (-greatestNat) greatestNat p
  ((Int.emod n (Nat.pow 2 64)).toNat, p)

/-- A number with a fraction as an argument. -/
def takeNumeral (p : Printer) : Numeral × Printer :=
  let bits := match p.dialect with
    | .plain => Numeral.doubleBits
    | .extended => Numeral.extendedBits
  match p.take with
  | (none, p) => (.zero, p)
  | (some text, p) =>
    match charCode? text, Numeral.read? text.toList with
    | some code, _ => (.ofNat code, p)
    | none, some (number, rest) =>
      let p := if rest.isEmpty then p else p.complain (.badNumber text true)
      (number.rounded bits, p)
    | none, none =>
      (.zero, if text = "" then p else p.complain (.badNumber text false))

/-- A number in a directive; a star takes it from the arguments. -/
def starNumber (cs : List Char) (p : Printer) : Option Int × List Char × Printer :=
  match cs with
  | '*' :: cs =>
    let (n, p) := takeInt p
    (some n, cs, p)
  | _ =>
    let ds := cs.takeWhile Char.isDigit
    ((String.ofList ds).toNat?.map Int.ofNat, cs.drop ds.length, p)

def takeText (p : Printer) : ByteArray × Printer :=
  let (text, p) := p.take
  (Shell.bytes (text.getD ""), p)

def firstByte (text : ByteArray) : ByteArray :=
  if text.isEmpty then ⟨#[0]⟩ else text.extract 0 1

/-- Writes one argument, if the letter of the directive is known. -/
def writeDirective (d : Directive) (p : Printer) : Option Printer :=
  match d.letter with
  | 's' =>
    let (text, p) := takeText p
    some (p.add (d.text text))
  | 'c' =>
    let (text, p) := takeText p
    some (p.add (d.padded (firstByte text)))
  | 'b' =>
    let (text, p) := p.take
    let cs := (text.getD "").toList
    let (text, ends) := escapedText p.dialect .argument (cs.length + 1) cs
    some { p.add (d.text text) with ends }
  | 'q' | 'Q' =>
    match p.dialect with
    | .plain => none
    | .extended =>
      let (text, p) := p.take
      some (p.add (d.text (Shell.bytes (Quoting.reusable (text.getD "")))))
  | 'd' | 'i' =>
    let (n, p) := takeInt p
    some (p.add (d.whole (n < 0) n.natAbs))
  | 'u' | 'o' | 'x' | 'X' =>
    let (n, p) := takeNat p
    some (p.add (d.whole false n))
  | 'f' | 'e' | 'g' | 'F' | 'E' | 'G' =>
    let (number, p) := takeNumeral p
    some (p.add (d.number number))
  | _ => none

/-- What follows a percent sign, up to the letter. -/
def directive (cs : List Char) (p : Printer) : Directive × List Char × Printer :=
  let flags := cs.takeWhile fun c =>
    Directive.flagChars.contains c || (c == '\'' && p.dialect == .extended)
  let (width, cs, p) := starNumber (cs.drop flags.length) p
  let flags := if width.any (· < 0) then '-' :: flags else flags
  let (precision, cs, p) : Option Int × List Char × Printer :=
    match cs with
    | '.' :: cs =>
      let (n, cs, p) := starNumber cs p
      (some (n.getD 0), cs, p)
    | _ => (none, cs, p)
  let precision := (precision.filter fun n => 0 ≤ n).map Int.toNat
  let cs :=
    match p.dialect with
    | .plain => cs
    | .extended => cs.dropWhile ['l', 'h', 'j', 'z', 't', 'L'].contains
  (⟨flags, (width.getD 0).natAbs, precision, cs.headD ' '⟩, cs, p)

/-- The format between parentheses, and what follows the letter behind them. -/
def timeFormat? (cs : List Char) : Option (String × List Char) :=
  match cs with
  | '(' :: cs =>
    let body := cs.takeWhile (· != ')')
    match cs.drop body.length with
    | ')' :: 'T' :: rest => some (String.ofList body, rest)
    | _ => none
  | _ => none

/-- Writes a format once. The first argument bounds the length of the format. -/
def formatOnce : Nat → List Char → Printer → Printer
  | 0, _, p | _, [], p => p
  | bound + 1, '\\' :: cs, p =>
    let p := if p.dialect == .extended && cs.head? = some 'x'
        && (cs.tail.head?.bind (Script.digitValue? 16)).isNone then
        { p.complain .missingHexDigit with status := p.status }
      else p
    let (piece, rest) := escape p.dialect .format cs
    formatOnce bound rest (p.add piece)
  | bound + 1, '%' :: '%' :: cs, p => formatOnce bound cs (p.add (Shell.bytes "%"))
  | bound + 1, '%' :: cs, p =>
    let (d, rest, p) := directive cs p
    let spelling := cs.take (cs.length - rest.length)
    match rest, p.dialect, timeFormat? rest with
    | [], _, _ => p.abort (.missingLetter spelling)
    | _, .extended, some (format, rest) =>
      let (n, p) := if p.arguments.isEmpty then (0, p) else takeInt p
      let text := Calendar.format (if format = "" then "%X" else format) (Calendar.ofStamp n)
      formatOnce bound rest (p.add (d.text (Shell.bytes text)))
    | letter :: rest, _, _ =>
      match writeDirective d p with
      | some p => if p.ends then p else formatOnce bound rest p
      | none => p.abort (.badLetter spelling letter)
  | bound + 1, c :: cs, p =>
    let plain := (c :: cs).takeWhile fun c => c != '\\' && c != '%'
    formatOnce bound ((c :: cs).drop plain.length) (p.add (Shell.bytes (String.ofList plain)))

/-- Uses the format again as long as it takes arguments. The first argument bounds the rounds. -/
def formatAll (format : String) : Nat → Printer → Printer
  | 0, p => p
  | rounds + 1, p =>
    let p := formatOnce (format.length + 1) format.toList { p with hasTaken := false }
    if p.ends || p.arguments.isEmpty || !p.hasTaken then p else formatAll format rounds p

def badNumberText (text : String) : String :=
  let digits := text.toList.dropWhile fun c => c.isWhitespace || c == '-' || c == '+'
  match digits with
  | '0' :: x :: _ =>
    if x == 'x' || x == 'X' then text ++ ": invalid hex number"
    else if x.isDigit then text ++ ": invalid octal number"
    else text ++ ": invalid number"
  | _ => text ++ ": invalid number"

namespace PrintfFault

def plainMessage : PrintfFault → String
  | badNumber text isPartial =>
    text ++ if isPartial then ": not completely converted" else ": expected numeric value"
  | outOfRange text => text ++ ": Numerical result out of range"
  | missingHexDigit => "missing hex digit"
  | missingLetter _ => "missing format character"
  | badLetter spelling letter =>
    "%" ++ String.ofList (spelling ++ [letter]) ++ ": invalid directive"

def extendedMessage : PrintfFault → String
  | badNumber text _ => badNumberText text
  | outOfRange text => "warning: " ++ text ++ ": Numerical result out of range"
  | missingHexDigit => "missing hex digit for \\x"
  | missingLetter spelling => "\x60%" ++ String.ofList spelling ++ "': missing format character"
  | badLetter _ letter => "\x60" ++ String.singleton letter ++ "': invalid format character"

def message : Dialect → PrintfFault → String
  | .plain => plainMessage
  | .extended => extendedMessage

end PrintfFault

def printfUsage (shell : Shell) : Shell :=
  match shell.dialect with
  | .plain => shell.complain "usage: printf format [arg ...]" 2
  | .extended => (shell.finish 2).warn "printf: usage: printf [-v var] format [arguments]"

/-- Formats the arguments, and gives what is written to `deliver`. -/
def printfTo (deliver : ByteArray → Shell → Shell) (arguments : List String) (shell : Shell) :
    Shell :=
  let isMarked := arguments.head? = some "--"
  match if isMarked then arguments.drop 1 else arguments with
  | [] => printfUsage shell
  | format :: rest =>
    match if isMarked then [] else format.toList, shell.dialect with
    | '-' :: c :: _, .plain => shell.complain ("Illegal option -" ++ String.singleton c) 2
    | '-' :: c :: _, .extended =>
      printfUsage (shell.complain ("-" ++ String.singleton c ++ ": invalid option") 2)
    | _, dialect =>
      let p := formatAll format (rest.length + 1) (.start dialect rest)
      let shell := p.faults.foldl
        (fun shell fault => shell.complain (fault.message dialect) 0) shell
      deliver p.output (shell.finish p.status)

def placeName? (text : String) : Option (String × Option String) :=
  match Script.reference? .extended text.toList with
  | some (reference, []) =>
    if Script.isName reference.name.toList then some (reference.name, reference.subscript)
    else none
  | _ => none

def invalidName (text : String) (status : Nat) (shell : Shell) : Shell :=
  shell.complain ("\x60" ++ text ++ "': not a valid identifier") status

def printf : Shell.Command := fun arguments shell =>
  let write (content : ByteArray) (shell : Shell) : Shell := shell.write content
  let assign (target : String) (rest : List String) : Shell :=
    match placeName? target with
    | none => invalidName target 2 shell
    | some (name, subscript) =>
      let keep (content : ByteArray) (shell : Shell) : Shell :=
        let text := Text.decode ⟨(content.toList.takeWhile (· != 0)).toArray⟩
        shell.assignText name subscript false text
      printfTo keep rest shell
  match shell.dialect, arguments with
  | .extended, ["-v"] => printfUsage (shell.complain "-v: option requires an argument" 2)
  | .extended, "-v" :: target :: rest => assign target rest
  | _, first :: rest =>
    match shell.dialect, first.toList with
    | .extended, '-' :: 'v' :: c :: cs => assign (String.ofList (c :: cs)) rest
    | _, _ => printfTo write arguments shell
  | _, [] => printfTo write arguments shell

end DtoGen.Builtin

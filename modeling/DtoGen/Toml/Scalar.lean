import DtoGen.Toml.Value

namespace DtoGen.Toml

/-- A reader takes something from the front of a text and hands on the rest. -/
abbrev Parser (α : Type) := List Char → Option (α × List Char)

def isBareKeyChar (c : Char) : Bool :=
  c.isAlphanum || c == '_' || c == '-'

def isScalarChar (c : Char) : Bool :=
  isBareKeyChar c || c == '+' || c == '.' || c == ':'

def isDigitOf (base : Nat) (c : Char) : Bool :=
  match base with
  | 2 => c == '0' || c == '1'
  | 8 => '0' ≤ c && c ≤ '7'
  | 16 => c.isDigit || ('a' ≤ c && c ≤ 'f') || ('A' ≤ c && c ≤ 'F')
  | _ => c.isDigit

def digitValue (c : Char) : Nat :=
  if c.isDigit then c.toNat - '0'.toNat
  else if 'a' ≤ c then c.toNat - 'a'.toNat + 10
  else c.toNat - 'A'.toNat + 10

def natOf (base : Nat) (ds : List Char) : Nat :=
  ds.foldl (fun n d => n * base + digitValue d) 0

/-- Digits without their underscores; each underscore stands between two digits. -/
def digits? (base : Nat) : List Char → Option (List Char)
  | [] => none
  | [d] => if isDigitOf base d then some [d] else none
  | d :: '_' :: rest =>
    if isDigitOf base d then (digits? base rest).map (d :: ·) else none
  | d :: rest => if isDigitOf base d then (digits? base rest).map (d :: ·) else none

/-- Decimal digits without a leading zero. -/
def wholeDigits? (cs : List Char) : Option (List Char) :=
  match cs with
  | ['0'] => some cs
  | '0' :: _ => none
  | _ => digits? 10 cs

def splitSign : List Char → Bool × List Char
  | '-' :: cs => (true, cs)
  | '+' :: cs => (false, cs)
  | cs => (false, cs)

def signedInt (isNegative : Bool) (n : Nat) : Int :=
  if isNegative then -n else n

/-- Integers of any use fit 128 bits. -/
def integer? (cs : List Char) : Option Int := do
  let i : Int ← match cs with
    | '0' :: 'x' :: ds => (digits? 16 ds).map fun ds => (natOf 16 ds : Int)
    | '0' :: 'o' :: ds => (digits? 8 ds).map fun ds => (natOf 8 ds : Int)
    | '0' :: 'b' :: ds => (digits? 2 ds).map fun ds => (natOf 2 ds : Int)
    | _ =>
      let (isNegative, ds) := splitSign cs
      (wholeDigits? ds).map fun ds => signedInt isNegative (natOf 10 ds)
  if (-i).toNat ≤ Nat.pow 2 127 && i.toNat < Nat.pow 2 128 then some i else none

def isExponentMark (c : Char) : Bool :=
  c == 'e' || c == 'E'

/-- A whole part, then a fraction or an exponent or both. -/
def decimal? (cs : List Char) : Option (List Char × List Char × Int) := do
  let mantissa := cs.takeWhile fun c => !isExponentMark c
  let whole ← wholeDigits? (mantissa.takeWhile (· != '.'))
  let fraction ← match mantissa.dropWhile (· != '.') with
    | [] => some []
    | _ :: ds => digits? 10 ds
  match cs.dropWhile fun c => !isExponentMark c with
  | [] => if fraction.isEmpty then none else some (whole, fraction, 0)
  | _ :: exponent =>
    let (isNegative, ds) := splitSign exponent
    let ds ← digits? 10 ds
    some (whole, fraction, signedInt isNegative (natOf 10 ds))

/-- A number that is too large is no float. -/
def float? (cs : List Char) : Option Binary64 :=
  let (isNegative, cs) := splitSign cs
  match cs with
  | ['i', 'n', 'f'] => some (.infinite isNegative)
  | ['n', 'a', 'n'] => some .nan
  | _ => do
    let (whole, fraction, exponent) ← decimal? cs
    match Binary64.ofDecimal isNegative (natOf 10 (whole ++ fraction))
        (exponent - fraction.length) with
    | .infinite _ => none
    | x => some x

/-- Whether a stretch between underscores may have one in front. -/
def startsAsDigit (cs : List Char) : Bool :=
  cs.head?.any (isDigitOf 16)

/-- Whether a stretch between underscores may have one behind. -/
def endsAsDigit (cs : List Char) : Bool :=
  cs.getLast?.any (isDigitOf 16)

/-- Stretches that begin and end as numbers do at every underscore. -/
def isJoined : List (List Char) → Bool
  | first :: second :: rest => endsAsDigit first && startsAsDigit second && isJoined (second :: rest)
  | _ => true

/-- Whether the text is spelled as a number, so that only its value can be missing. Behind an
underscore the digits of any base pass. -/
def isNumeral (cs : List Char) : Bool :=
  match cs with
  | '0' :: 'x' :: ds => isRadixed 16 ds
  | '0' :: 'o' :: ds => isRadixed 8 ds
  | '0' :: 'b' :: ds => isRadixed 2 ds
  | _ =>
    let cs := (splitSign cs).2
    (decimal? cs).isSome || isWhole cs
where
  isRadixed (base : Nat) (ds : List Char) : Bool :=
    ds.isEmpty || (digits? base ds).isSome
  isWhole (cs : List Char) : Bool :=
    let first := cs.takeWhile Char.isDigit
    let rest := cs.drop first.length
    !first.isEmpty && first.head? != some '0' && (rest.isEmpty || rest.head? == some '_')
      && rest.all (fun c => c != '.' && !isExponentMark c) && isJoined (cs.splitOn '_')

/-- Exactly two digits, as a number between the bounds. -/
def twoDigits (low high : Nat) : Parser (List Char)
  | a :: b :: rest =>
    if a.isDigit && b.isDigit && low ≤ natOf 10 [a, b] && natOf 10 [a, b] ≤ high then
      some ([a, b], rest)
    else none
  | _ => none

def isLeapYear (year : Nat) : Bool :=
  year % 4 == 0 && (year % 100 != 0 || year % 400 == 0)

def daysIn (year month : Nat) : Nat :=
  match month with
  | 2 => if isLeapYear year then 29 else 28
  | 4 | 6 | 9 | 11 => 30
  | _ => 31

def mark (c : Char) : Parser Char
  | d :: rest => if c = d then some (c, rest) else none
  | [] => none

def date : Parser (List Char) := fun cs => do
  let year := cs.take 4
  if year.length = 4 && year.all Char.isDigit then
    let (_, rest) ← mark '-' (cs.drop 4)
    let (month, rest) ← twoDigits 1 12 rest
    let (_, rest) ← mark '-' rest
    let (day, rest) ← twoDigits 1 (daysIn (natOf 10 year) (natOf 10 month)) rest
    some (year ++ '-' :: month ++ '-' :: day, rest)
  else none

/-- Nine digits of a fraction count, and zeros at its end are dropped. -/
def fractionText (ds : List Char) : List Char :=
  match ((ds.take 9).reverse.dropWhile (· == '0')).reverse with
  | [] => []
  | ds => '.' :: ds

/-- A time may leave out its seconds. -/
def seconds : Parser (List Char)
  | ':' :: rest => do
    let (second, rest) ← twoDigits 0 60 rest
    match rest with
    | '.' :: rest =>
      match rest.takeWhile Char.isDigit with
      | [] => none
      | ds => some (':' :: second ++ fractionText ds, rest.dropWhile Char.isDigit)
    | _ => some (':' :: second, rest)
  | rest => some (":00".toList, rest)

def time : Parser (List Char) := fun cs => do
  let (hour, rest) ← twoDigits 0 23 cs
  let (_, rest) ← mark ':' rest
  let (minute, rest) ← twoDigits 0 59 rest
  let (second, rest) ← seconds rest
  some (hour ++ ':' :: minute ++ second, rest)

/-- No time has a negative distance of zero. -/
def signOf (sign : Char) (distance : List Char) : Char :=
  if distance = "00:00".toList then '+' else sign

def offset : Parser (List Char)
  | [] => some ([], [])
  | c :: rest =>
    if c == 'Z' || c == 'z' then some (['Z'], rest)
    else if c == '+' || c == '-' then do
      let (hour, rest) ← twoDigits 0 23 rest
      let (_, rest) ← mark ':' rest
      let (minute, rest) ← twoDigits 0 59 rest
      let distance := hour ++ ':' :: minute
      some (signOf c distance :: distance, rest)
    else none

def isDate (cs : List Char) : Bool :=
  match date cs with
  | some (_, []) => true
  | _ => false

/-- A date, a time, or a date and a time with a T or a space between them and perhaps an offset. -/
def moment? (cs : List Char) : Option (List Char) :=
  match date cs with
  | some (day, []) => some day
  | some (day, t :: rest) =>
    if ['T', 't', ' '].contains t then do
      let (time, rest) ← time rest
      match ← offset rest with
      | (offset, []) => some (day ++ 'T' :: time ++ offset)
      | _ => none
    else none
  | none =>
    match time cs with
    | some (time, []) => some time
    | _ => none

def scalar? (cs : List Char) : Option Toml :=
  if cs = "true".toList then some (.bool true)
  else if cs = "false".toList then some (.bool false)
  else
    (integer? cs).map .integer <|> (float? cs).map .float
      <|> ((moment? cs).map fun spelling => .moment (String.ofList spelling))
      <|> if isNumeral cs then some .unreadable else none

/-- The characters of the next scalar. A date and a time may have a space between them. -/
def scalar : Parser Toml := fun cs =>
  let word := cs.takeWhile isScalarChar
  let rest := cs.dropWhile isScalarChar
  match isDate word, rest with
  | true, ' ' :: d :: more =>
    if d.isDigit then
      (scalar? (word ++ ' ' :: (d :: more).takeWhile isScalarChar)).map fun value =>
        (value, (d :: more).dropWhile isScalarChar)
    else (scalar? word).map fun value => (value, rest)
  | _, _ => (scalar? word).map fun value => (value, rest)

end DtoGen.Toml

import DtoGen.Decimal.Binary64

namespace DtoGen

inductive Numeral
  | nan (isNegative : Bool)
  | infinite (isNegative : Bool)
  | finite (isNegative : Bool) (num den : Nat)
deriving DecidableEq, Repr

namespace Numeral

def zero : Numeral :=
  finite false 0 1

def ofNat (n : Nat) : Numeral :=
  finite false n 1

def isNegative : Numeral → Bool
  | nan sign | infinite sign | finite sign _ _ => sign

def negated : Numeral → Numeral
  | nan sign => nan !sign
  | infinite sign => infinite !sign
  | finite sign num den => finite (!sign) num den

/-- The binary digits of the two formats in use. -/
def doubleBits : Nat := 53

def extendedBits : Nat := 64

/-- How many binary digits behind the point there can be. -/
def leastPlaces (bits : Nat) : Int :=
  if bits = doubleBits then 1074 else 16445

/-- The quotient rounded to so many binary digits, a half to the even neighbour. -/
def roundedQuotient (bits num den : Nat) : Nat × Nat :=
  if num = 0 then (0, 1)
  else
    let shift : Int := min (leastPlaces bits) ((bits : Int) - ((num.log2 : Int) - (den.log2 : Int)))
    let (n, d) := Binary64.scaled num den shift
    if n / d < Nat.pow 2 bits then Binary64.scaled (Binary64.roundQuotient n d) 1 (-shift)
    else
      let (n, d) := Binary64.scaled num den (shift - 1)
      Binary64.scaled (Binary64.roundQuotient n d) 1 (1 - shift)

/-- Numbers from here on are too large. -/
def limit (bits : Nat) : Nat :=
  if bits = doubleBits then Nat.pow 2 1024 else Nat.pow 2 16384

def rounded (bits : Nat) : Numeral → Numeral
  | finite sign num den =>
    let (num, den) := roundedQuotient bits num den
    if limit bits * den ≤ num then infinite sign else finite sign num den
  | number => number

def digitValue (c : Char) : Nat :=
  if c.isDigit then c.toNat - '0'.toNat else c.toLower.toNat - 'a'.toNat + 10

def isHexDigit (c : Char) : Bool :=
  c.isDigit || ('a' ≤ c.toLower && c.toLower ≤ 'f')

def valueOf (base : Nat) (ds : List Char) : Nat :=
  ds.foldl (fun n d => n * base + digitValue d) 0

/-- Exponents beyond this are out of reach of every format. -/
def farExponent : Int := 20000

/-- The exponent behind its mark, if there is one, and what follows. -/
def exponent (mark : Char) (cs : List Char) : Int × List Char :=
  match cs with
  | c :: rest =>
    if c.toLower != mark then (0, cs)
    else
      let (isNegative, ds) :=
        match rest with
        | '-' :: ds => (true, ds)
        | '+' :: ds => (false, ds)
        | ds => (false, ds)
      let digits := ds.takeWhile Char.isDigit
      if digits.isEmpty then (0, cs)
      else
        let n : Int := min (valueOf 10 digits : Int) farExponent
        (if isNegative then -n else n, ds.drop digits.length)
  | [] => (0, [])

/-- Digits, a point and more digits: their value without the point, how many are behind it, and
what follows. -/
def pointed? (base : Nat) (isDigit : Char → Bool) (cs : List Char) :
    Option (Nat × Nat × List Char) :=
  let front := cs.takeWhile isDigit
  let (back, rest) :=
    match cs.drop front.length with
    | '.' :: ds =>
      let back := ds.takeWhile isDigit
      (back, ds.drop back.length)
    | rest => ([], rest)
  if front.isEmpty && back.isEmpty then none
  else some (valueOf base (front ++ back), back.length, rest)

/-- `digits * base ^ e` as a number, where the exponent is not out of reach. -/
def powered (isNegative : Bool) (digits base : Nat) (e : Int) : Numeral :=
  if digits = 0 then finite isNegative 0 1
  else if farExponent ≤ e then infinite isNegative
  else if e ≤ -farExponent then finite isNegative 0 1
  else if 0 ≤ e then finite isNegative (digits * Nat.pow base e.toNat) 1
  else finite isNegative digits (Nat.pow base (-e).toNat)

def decimal? (isNegative : Bool) (cs : List Char) : Option (Numeral × List Char) :=
  (pointed? 10 Char.isDigit cs).map fun (digits, places, rest) =>
    let (e, rest) := exponent 'e' rest
    (powered isNegative digits 10 (e - places), rest)

def hexadecimal? (isNegative : Bool) (cs : List Char) : Option (Numeral × List Char) :=
  (pointed? 16 isHexDigit cs).map fun (digits, places, rest) =>
    let (e, rest) := exponent 'p' rest
    (powered isNegative digits 2 (e - 4 * places), rest)

def startsWithWord (word : String) (cs : List Char) : Bool :=
  (cs.take word.length).map Char.toLower == word.toList

/-- A number without its sign. -/
def unsigned? (isNegative : Bool) (cs : List Char) : Option (Numeral × List Char) :=
  if startsWithWord "infinity" cs then some (infinite isNegative, cs.drop 8)
  else if startsWithWord "inf" cs then some (infinite isNegative, cs.drop 3)
  else if startsWithWord "nan" cs then some (nan isNegative, cs.drop 3)
  else
    match cs with
    | '0' :: x :: rest =>
      if x.toLower = 'x' then (hexadecimal? isNegative rest).or (some (zero, x :: rest))
      else decimal? isNegative cs
    | cs => decimal? isNegative cs

/-- The longest number at the front of a text, blanks aside, and what follows it. -/
def read? (cs : List Char) : Option (Numeral × List Char) :=
  match cs.dropWhile Char.isWhitespace with
  | '-' :: rest => unsigned? true rest
  | '+' :: rest => unsigned? false rest
  | rest => unsigned? false rest

def digitsOf (n : Nat) : List Char :=
  Nat.toDigits 10 n

/-- So many digits behind the point. -/
def fixed (places : Nat) (keepsPoint : Bool) (num den : Nat) : String :=
  let ds := digitsOf (Binary64.roundQuotient (num * Nat.pow 10 places) den)
  let ds := List.replicate (places + 1 - ds.length) '0' ++ ds
  let front := ds.take (ds.length - places)
  let point := if places = 0 && !keepsPoint then [] else ['.']
  String.ofList (front ++ point ++ ds.drop (ds.length - places))

/-- The exponent of the leading decimal digit of a number that is not zero. -/
def leading (num den : Nat) : Int :=
  if den ≤ num then ((digitsOf (num / den)).length : Int) - 1
  else
    let n := (digitsOf (den / num)).length - 1
    if den = num * Nat.pow 10 n then -(n : Int) else -(n : Int) - 1

/-- The digits of a number, one in front of the point and so many behind it, and its exponent. -/
def scientificDigits (places : Nat) (num den : Nat) : List Char × Int :=
  if num = 0 then (List.replicate (places + 1) '0', 0)
  else
    let e := leading num den
    let shift : Int := (places : Int) - e
    let (n, d) := if 0 ≤ shift then (num * Nat.pow 10 shift.toNat, den)
      else (num, den * Nat.pow 10 (-shift).toNat)
    let ds := digitsOf (Binary64.roundQuotient n d)
    if ds.length = places + 2 then (ds.dropLast, e + 1) else (ds, e)

def exponentText (e : Int) : List Char :=
  let ds := digitsOf e.natAbs
  'e' :: (if e < 0 then '-' else '+') :: (if ds.length < 2 then '0' :: ds else ds)

def scientific (places : Nat) (keepsPoint : Bool) (num den : Nat) : String :=
  let (ds, e) := scientificDigits places num den
  let point := if places = 0 && !keepsPoint then [] else ['.']
  String.ofList (ds.take 1 ++ point ++ ds.drop 1 ++ exponentText e)

/-- A text with a point, without the zeros at its end. -/
def withoutZeros (cs : List Char) : List Char :=
  if cs.contains '.' then
    let kept := (cs.reverse.dropWhile (· == '0')).reverse
    if kept.getLast? = some '.' then kept.dropLast else kept
  else cs

/-- The shorter of both notations with so many digits. -/
def general (digits : Nat) (keepsZeros : Bool) (num den : Nat) : String :=
  let digits := max digits 1
  let e := (scientificDigits (digits - 1) num den).2
  let isFixed := -4 ≤ e && e < digits
  let text := if isFixed then fixed ((digits : Int) - 1 - e).toNat keepsZeros num den
    else scientific (digits - 1) keepsZeros num den
  if keepsZeros then text
  else
    let cs := text.toList
    let front := cs.takeWhile (· != 'e')
    String.ofList (withoutZeros front ++ cs.drop front.length)

/-- A number without its sign in the notation of a letter. -/
def unsignedText (letter : Char) (precision : Option Nat) (keepsPoint : Bool) : Numeral → String
  | nan _ => "nan"
  | infinite _ => "inf"
  | finite _ num den =>
    let digits := precision.getD 6
    match letter.toLower with
    | 'f' => fixed digits keepsPoint num den
    | 'e' => scientific digits keepsPoint num den
    | _ => general digits keepsPoint num den

end Numeral

end DtoGen

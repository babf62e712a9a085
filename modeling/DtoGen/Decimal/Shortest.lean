import DtoGen.Decimal.Binary64

namespace DtoGen

namespace Binary64

/-- `digits * 10 ^ exponent` -/
structure Decimal where
  digits : Nat
  exponent : Int
deriving DecidableEq, Repr

/-- Everything over one denominator: the number and the ends of the interval that rounds to it. -/
structure Interval where
  low : Nat
  value : Nat
  high : Nat
  den : Nat
  isClosed : Bool

/-- A quarter of a unit is fine enough: below a power of two the numbers are twice as dense. -/
def interval (mantissa : Nat) (exponent : Int) : Interval :=
  let below := if mantissa = Nat.pow 2 52 && exponent > leastExponent then 1 else 2
  let (unit, den) := scaled 1 1 (exponent - 2)
  ⟨(4 * mantissa - below) * unit, 4 * mantissa * unit, (4 * mantissa + 2) * unit, den,
    mantissa % 2 == 0⟩

def Interval.holds (i : Interval) (num den : Nat) : Bool :=
  let low := compare (i.low * den) (num * i.den)
  let high := compare (num * i.den) (i.high * den)
  if i.isClosed then low.isLE && high.isLE else low.isLT && high.isLT

/-- `digits * 10 ^ exponent` as a quotient. -/
def Decimal.quotient (d : Decimal) : Nat × Nat :=
  if 0 ≤ d.exponent then (d.digits * Nat.pow 10 d.exponent.toNat, 1)
  else (d.digits, Nat.pow 10 (-d.exponent).toNat)

/-- The largest multiple of `10 ^ k` that is not above the value. -/
def Interval.floor (i : Interval) (k : Int) : Nat :=
  if 0 ≤ k then i.value / (i.den * Nat.pow 10 k.toNat) else i.value * Nat.pow 10 (-k).toNat / i.den

/-- The neighbours on the grid `10 ^ k` that lie in the interval; of two, the nearer, and the upper
one if they are equally near. -/
def Interval.nearest? (i : Interval) (k : Int) : Option Decimal :=
  let down : Decimal := ⟨i.floor k, k⟩
  let up : Decimal := ⟨i.floor k + 1, k⟩
  let holds (d : Decimal) := i.holds d.quotient.1 d.quotient.2
  match holds down, holds up with
  | true, false => some down
  | false, true => some up
  | false, false => none
  | true, true =>
    let (num, den) := (⟨2 * down.digits + 1, k⟩ : Decimal).quotient
    if num * i.den ≤ 2 * i.value * den then some up else some down

/-- The exponent of the leading decimal digit. -/
def Interval.leading (i : Interval) : Int :=
  if i.den ≤ i.value then ((Nat.toDigits 10 (i.value / i.den)).length : Int) - 1
  else
    -- den / value lies in [10 ^ n, 10 ^ (n + 1)), so that value / den is at most 10 ^ -n
    let n := (Nat.toDigits 10 (i.den / i.value)).length - 1
    if i.den = i.value * Nat.pow 10 n then -(n : Int) else -(n : Int) - 1

/-- Seventeen digits are always enough. -/
def shortest (mantissa : Nat) (exponent : Int) : Decimal :=
  let i := interval mantissa exponent
  let lead := i.leading
  match (List.range 17).findSome? fun (n : Nat) => i.nearest? (lead - n) with
  | some d => d
  | none => ⟨i.floor (lead - 17), lead - 17⟩

def trimZeros (ds : List Char) : List Char × Nat :=
  let zeros := ds.reverse.takeWhile (· == '0')
  (ds.take (ds.length - zeros.length), zeros.length)

/-- Positional notation, never with an exponent, and without a fraction that is zero. -/
def positional (d : Decimal) : List Char :=
  let (ds, zeros) := trimZeros (Nat.toDigits 10 d.digits)
  let exponent := d.exponent + zeros
  if 0 ≤ exponent then ds ++ List.replicate exponent.toNat '0'
  else
    let places := (-exponent).toNat
    if places < ds.length then
      ds.take (ds.length - places) ++ '.' :: ds.drop (ds.length - places)
    else ['0', '.'] ++ List.replicate (places - ds.length) '0' ++ ds

def signed (isNegative : Bool) (text : String) : String :=
  if isNegative then "-" ++ text else text

def text : Binary64 → String
  | nan => "NaN"
  | infinite isNegative => signed isNegative "inf"
  | finite isNegative mantissa exponent =>
    signed isNegative <|
      if mantissa = 0 then "0" else String.ofList (positional (shortest mantissa exponent))

end Binary64

end DtoGen

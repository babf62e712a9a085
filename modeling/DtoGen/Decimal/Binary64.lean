namespace DtoGen

/-- `finite` is `mantissa * 2 ^ exponent`, with the mantissa below `2 ^ 53` and the least exponent
`-1074`. -/
inductive Binary64
  | nan
  | infinite (isNegative : Bool)
  | finite (isNegative : Bool) (mantissa : Nat) (exponent : Int)
deriving DecidableEq, Repr

namespace Binary64

def leastExponent : Int := -1074

def greatestExponent : Int := 971

/-- The quotient rounded to the nearest integer, a half to the even neighbour. -/
def roundQuotient (num den : Nat) : Nat :=
  let q := num / den
  let twice := 2 * (num % den)
  if twice < den then q
  else if den < twice then q + 1
  else if q % 2 = 0 then q else q + 1

/-- `num * 2 ^ e / den` as a quotient of naturals. -/
def scaled (num den : Nat) (e : Int) : Nat × Nat :=
  if 0 ≤ e then (num * Nat.pow 2 e.toNat, den) else (num, den * Nat.pow 2 (-e).toNat)

/-- The greatest exponent whose unit leaves 53 bits of the quotient. -/
def exponentOf (num den : Nat) : Int :=
  let guess := (num.log2 : Int) - den.log2 - 53
  let (n, d) := scaled num den (-guess)
  let e := if n / d < Nat.pow 2 53 then guess else guess + 1
  max e leastExponent

def ofQuotient (isNegative : Bool) (num den : Nat) : Binary64 :=
  let e := exponentOf num den
  let (n, d) := scaled num den (-e)
  let m := roundQuotient n d
  let (m, e) := if m = Nat.pow 2 53 then (Nat.pow 2 52, e + 1) else (m, e)
  if e > greatestExponent then infinite isNegative else finite isNegative m e

/-- The number nearest to `digits * 10 ^ exponent`. Far out of range the answer needs no powers. -/
def ofDecimal (isNegative : Bool) (digits : Nat) (exponent : Int) : Binary64 :=
  if digits = 0 then finite isNegative 0 leastExponent
  else
    let magnitude := exponent + (Nat.toDigits 10 digits).length
    if magnitude > 400 then infinite isNegative
    else if magnitude < -400 then finite isNegative 0 leastExponent
    else if 0 ≤ exponent then ofQuotient isNegative (digits * Nat.pow 10 exponent.toNat) 1
    else ofQuotient isNegative digits (Nat.pow 10 (-exponent).toNat)

end Binary64

end DtoGen

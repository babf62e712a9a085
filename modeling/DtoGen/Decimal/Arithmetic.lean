import DtoGen.Decimal.Numeral

namespace DtoGen.Numeral

/-- A quotient with a sign, rounded, and in lowest terms where it is a whole number. -/
def ofSigned (num : Int) (den : Nat) : Numeral :=
  let isNegative := decide (num < 0)
  if den = 1 && num.natAbs ≤ Nat.pow 2 doubleBits then finite isNegative num.natAbs 1
  else
    match (finite isNegative num.natAbs den).rounded doubleBits with
    | finite sign n d => if n % d = 0 then finite sign (n / d) 1 else finite sign n d
    | number => number

def ofInt (i : Int) : Numeral :=
  ofSigned i 1

def signedNum (isNegative : Bool) (num : Nat) : Int :=
  if isNegative then -(num : Int) else num

/-- What comes of operations without a result. -/
def undefinedValue : Numeral :=
  nan true

def isZero : Numeral → Bool
  | finite _ num _ => num == 0
  | _ => false

def plus : Numeral → Numeral → Numeral
  | nan s, _ | _, nan s => nan s
  | infinite s, infinite t => if s = t then infinite s else undefinedValue
  | infinite s, _ | _, infinite s => infinite s
  | finite s a b, finite t c d => ofSigned (signedNum s a * d + signedNum t c * b) (b * d)

def minus (x y : Numeral) : Numeral :=
  plus x y.negated

def times : Numeral → Numeral → Numeral
  | nan s, _ | _, nan s => nan s
  | infinite s, y => if y.isZero then undefinedValue else infinite (s != y.isNegative)
  | x, infinite t => if x.isZero then undefinedValue else infinite (x.isNegative != t)
  | finite s a b, finite t c d =>
    match ofSigned (signedNum s a * signedNum t c) (b * d) with
    | finite _ 0 _ => finite (s != t) 0 1
    | product => product

def dividedBy : Numeral → Numeral → Numeral
  | nan s, _ | _, nan s => nan s
  | infinite _, infinite _ => undefinedValue
  | infinite s, y => infinite (s != y.isNegative)
  | x, infinite t => finite (x.isNegative != t) 0 1
  | finite s a b, finite t c d =>
    if c = 0 then if a = 0 then undefinedValue else infinite (s != t)
    else
      match ofSigned (signedNum (s != t) (a * d)) (b * c) with
      | finite _ 0 _ => finite (s != t) 0 1
      | quotient => quotient

/-- What is left of a division with a whole quotient. It has the sign of the first number. -/
def remainder : Numeral → Numeral → Numeral
  | nan s, _ | _, nan s => nan s
  | infinite _, _ => undefinedValue
  | x, infinite _ => x
  | finite s a b, finite _ c d =>
    if c = 0 then undefinedValue
    else ofSigned (signedNum s ((a * d) % (c * b))) (b * d)

/-- The whole part. -/
def truncated : Numeral → Numeral
  | finite s a b => finite s (a / b) 1
  | number => number

/-- The whole part of a number, where it has one. -/
def toInt? : Numeral → Option Int
  | finite s a b => some (signedNum s (a / b))
  | _ => none

def isWhole : Numeral → Bool
  | finite _ a b => a % b == 0
  | _ => false

/-- The order of two numbers, if they have one. -/
def order? : Numeral → Numeral → Option Ordering
  | nan _, _ | _, nan _ => none
  | infinite s, infinite t =>
    some (if s = t then .eq else if s then .lt else .gt)
  | infinite s, _ => some (if s then .lt else .gt)
  | _, infinite t => some (if t then .gt else .lt)
  | finite s a b, finite t c d => some (compare (signedNum s a * d) (signedNum t c * b))

/-- The root, with more digits than are kept, and a digit behind them that is odd where the root is
not exact. -/
def squareRoot : Numeral → Numeral
  | nan s => nan s
  | infinite s => if s then undefinedValue else infinite false
  | finite s a b =>
    if a = 0 then finite s 0 1
    else if s then undefinedValue
    else
      let k := 128
      let square := a * b * Nat.pow 4 k
      let root := Nat.sqrt square
      let last := if root * root = square then 0 else 1
      ofSigned (2 * root + last : Nat) (2 * b * Nat.pow 2 k)

/-- The binary digits behind the point. -/
def fixedBits : Nat := 200

def unit : Int :=
  (Nat.pow 2 fixedBits : Nat)

def fixedOf (num : Int) (den : Nat) : Int :=
  num * unit / (den : Int)

def fixedTimes (a b : Int) : Int :=
  a * b / unit

/-- Adds terms up as long as they count. Each comes from the one before. -/
def series (next : Nat → Int → Int) : Nat → Nat → Int → Int
  | 0, _, _ => 0
  | bound + 1, n, term => if term = 0 then 0 else term + series next bound (n + 1) (next n term)

def termLimit : Nat := 400

/-- The sum of `x ^ (2 n + 1) / (2 n + 1)`, with alternating signs where these are wanted. -/
def oddSeries (alternates : Bool) (x : Int) : Int :=
  let square := fixedTimes x x
  let rec sum : Nat → Nat → Int → Int
    | 0, _, _ => 0
    | bound + 1, n, power =>
      if power = 0 then 0
      else
        let term := power / ((2 * n + 1 : Nat) : Int)
        let next := fixedTimes power square
        term + sum bound (n + 1) (if alternates then -next else next)
  sum termLimit 0 x

def logOfTwo : Int :=
  2 * oddSeries false (unit / 3)

def circleHalf : Int :=
  4 * (4 * oddSeries true (unit / 5) - oddSeries true (unit / 239))

/-- Exponents from here on lead out of range. -/
def farPower : Int := 800

def exponential : Numeral → Numeral
  | nan s => nan s
  | infinite s => if s then zero else infinite false
  | finite s a b =>
    let whole := signedNum s (a / b)
    if farPower < whole then infinite false
    else if whole < -farPower then zero
    else
      let x := fixedOf (signedNum s a) b
      let k := x / logOfTwo
      let r := x - k * logOfTwo
      let sum := series (fun n term => fixedTimes term r / ((n + 1 : Nat) : Int)) termLimit 0 unit
      if 0 ≤ k then ofSigned (sum * (Nat.pow 2 k.toNat : Nat)) (Nat.pow 2 fixedBits)
      else ofSigned sum (Nat.pow 2 (fixedBits + (-k).toNat))

/-- The logarithm of a quotient above zero, in fixed point. -/
def fixedLog (a b : Nat) : Int :=
  let k : Int := (a.log2 : Int) - (b.log2 : Int)
  let m := if 0 ≤ k then fixedOf a (b * Nat.pow 2 k.toNat)
    else fixedOf (a * Nat.pow 2 (-k).toNat : Nat) b
  let y := (m - unit) * unit / (m + unit)
  2 * oddSeries false y + k * logOfTwo

def logarithm : Numeral → Numeral
  | nan s => nan s
  | infinite s => if s then undefinedValue else infinite false
  | finite s a b =>
    if a = 0 then infinite true
    else if s then undefinedValue
    else ofSigned (fixedLog a b) (Nat.pow 2 fixedBits)

/-- An angle in fixed point, brought between the negative and the positive half of a circle. -/
def reducedAngle (x : Int) : Int :=
  let turn := 2 * circleHalf
  let r := x % turn
  if circleHalf < r then r - turn else r

def fixedSine (x : Int) : Int :=
  let r := reducedAngle x
  let square := fixedTimes r r
  let step (n : Nat) (term : Int) : Int :=
    -(fixedTimes term square) / (((2 * n + 2) * (2 * n + 3) : Nat) : Int)
  series step termLimit 0 r

def sine : Numeral → Numeral
  | finite s a b => ofSigned (fixedSine (fixedOf (signedNum s a) b)) (Nat.pow 2 fixedBits)
  | _ => undefinedValue

def cosine : Numeral → Numeral
  | finite s a b =>
    ofSigned (fixedSine (fixedOf (signedNum s a) b + circleHalf / 2)) (Nat.pow 2 fixedBits)
  | _ => undefinedValue

/-- The angle whose tangent is given, which is halved first, so that the series is short. -/
def fixedArcTangent : Nat → Int → Int
  | 0, x => oddSeries true x
  | halvings + 1, x =>
    let root : Int := (Nat.sqrt ((unit * unit + x * x).toNat) : Nat)
    2 * fixedArcTangent halvings (x * unit / (unit + root))

/-- The angle of a point, by its height and its distance to the right. -/
def angle : Numeral → Numeral → Numeral
  | finite s a b, finite t c d =>
    let y := signedNum s (a * d)
    let x := signedNum t (c * b)
    let scale := Nat.pow 2 fixedBits
    if x = 0 && y = 0 then
      if t then ofSigned (if s then -circleHalf else circleHalf) scale else finite s 0 1
    else
      let quarter := circleHalf / 2
      let flat := x.natAbs ≥ y.natAbs
      let ratio := if flat then y * unit / x else x * unit / y
      let tangent := fixedArcTangent 4 ratio
      let base := if flat then tangent else (if y < 0 then -quarter else quarter) - tangent
      let turned :=
        if flat && x < 0 then (if s then base - circleHalf else base + circleHalf) else base
      ofSigned turned scale
  | _, _ => undefinedValue

/-- Exponents up to here are multiplied out. -/
def largestPower : Nat := 2048

def raised (x y : Numeral) : Numeral :=
  match x, y with
  | nan s, _ | _, nan s => nan s
  | finite s a b, finite t c d =>
    if c = 0 then ofNat 1
    else if a = 0 then if t then infinite false else zero
    else if c % d = 0 && c / d ≤ largestPower then
      let n := c / d
      let isNegative := s && n % 2 = 1
      let (num, den) := (Nat.pow a n, Nat.pow b n)
      if t then ofSigned (signedNum isNegative den) num else ofSigned (signedNum isNegative num) den
    else if s then undefinedValue
    else
      let scaled := fixedLog a b * signedNum t c / (d : Int)
      exponential (finite (decide (scaled < 0)) scaled.natAbs (Nat.pow 2 fixedBits))
  | infinite s, finite t c _ =>
    if c = 0 then ofNat 1 else if t then zero else infinite s
  | finite _ a b, infinite t =>
    if a = b then ofNat 1 else if (b < a) == t then zero else infinite false
  | infinite _, infinite t => if t then zero else infinite false

end DtoGen.Numeral

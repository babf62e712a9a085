import DtoGen.Decimal.Numeral

namespace DtoGen

structure Directive where
  flags : List Char
  width : Nat
  precision : Option Nat
  letter : Char
deriving DecidableEq, Repr

namespace Directive

def flagChars : List Char :=
  ['-', '+', ' ', '#', '0']

def has (flag : Char) (d : Directive) : Bool :=
  d.flags.contains flag

def padded (d : Directive) (text : ByteArray) : ByteArray :=
  let fill := List.replicate (d.width - text.size) (32 : UInt8)
  if d.has '-' then text ++ ⟨fill.toArray⟩ else ⟨fill.toArray⟩ ++ text

def signText (d : Directive) (isNegative : Bool) : String :=
  if isNegative then "-" else if d.has '+' then "+" else if d.has ' ' then " " else ""

/-- Digits behind a front such as a sign, with zeros between them up to the width if these are
asked for. -/
def zeroFilled (d : Directive) (isFilled : Bool) (front digits : String) : ByteArray :=
  let least := if isFilled && d.has '0' && !d.has '-' then d.width - front.length else 0
  let zeros := String.ofList (List.replicate (least - digits.length) '0')
  d.padded (front ++ zeros ++ digits).toUTF8

def whole (d : Directive) (isNegative : Bool) (n : Nat) : ByteArray :=
  let base := match d.letter with
    | 'o' => 8
    | 'x' | 'X' => 16
    | _ => 10
  let ds := if n = 0 && d.precision = some 0 then [] else Nat.toDigits base n
  let ds := List.replicate (d.precision.getD 0 - ds.length) '0' ++ ds
  let ds := if d.letter = 'o' && d.has '#' && ds.head? != some '0' then '0' :: ds else ds
  let text := String.ofList ds
  let front :=
    match d.letter with
    | 'x' => if d.has '#' && n != 0 then "0x" else ""
    | 'X' => if d.has '#' && n != 0 then "0X" else ""
    | 'd' | 'i' => d.signText isNegative
    | _ => ""
  d.zeroFilled d.precision.isNone front (if d.letter = 'X' then text.toUpper else text)

/-- A number with a fraction, in the notation of the letter. -/
def number (d : Directive) (number : Numeral) : ByteArray :=
  let text := number.unsignedText d.letter d.precision (d.has '#')
  let isFinite := match number with
    | .finite _ _ _ => true
    | _ => false
  let text := if d.letter.isUpper then text.toUpper else text
  d.zeroFilled isFinite (d.signText number.isNegative) text

def text (d : Directive) (text : ByteArray) : ByteArray :=
  d.padded (text.extract 0 (d.precision.getD text.size))

end Directive

end DtoGen

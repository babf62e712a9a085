namespace DtoGen.Text

def replacement : Char :=
  Char.ofNat 0xFFFD

/-- A sequence that has begun: its value so far, the bytes still missing, and the range in which the
next of them has to lie. -/
structure Sequence where
  value : Nat
  missing : Nat
  low : Nat
  high : Nat
deriving DecidableEq, Repr

namespace Sequence

/-- What a byte begins, if it begins a longer sequence. The ranges leave out values that have a
shorter sequence, surrogates, and values that are too large. -/
def ofLead? (byte : Nat) : Option Sequence :=
  if 0xC2 ≤ byte && byte ≤ 0xDF then some ⟨byte - 0xC0, 1, 0x80, 0xBF⟩
  else if 0xE0 ≤ byte && byte ≤ 0xEF then
    some ⟨byte - 0xE0, 2, if byte = 0xE0 then 0xA0 else 0x80, if byte = 0xED then 0x9F else 0xBF⟩
  else if 0xF0 ≤ byte && byte ≤ 0xF4 then
    some ⟨byte - 0xF0, 3, if byte = 0xF0 then 0x90 else 0x80, if byte = 0xF4 then 0x8F else 0xBF⟩
  else none

def accepts (s : Sequence) (byte : Nat) : Bool :=
  s.low ≤ byte && byte ≤ s.high

def extend (s : Sequence) (byte : Nat) : Sequence :=
  ⟨s.value * 64 + (byte - 0x80), s.missing - 1, 0x80, 0xBF⟩

end Sequence

/-- The characters that are complete with a byte at which none was open, and what is open then. -/
def openAt (byte : Nat) : List Char × Option Sequence :=
  if byte < 0x80 then ([Char.ofNat byte], none)
  else match Sequence.ofLead? byte with
    | some s => ([], some s)
    | none => ([replacement], none)

def decodeFrom : Option Sequence → List UInt8 → List Char
  | none, [] => []
  | some _, [] => [replacement]
  | none, b :: bs =>
    let (cs, s) := openAt b.toNat
    cs ++ decodeFrom s bs
  | some s, b :: bs =>
    if !s.accepts b.toNat then
      let (cs, s) := openAt b.toNat
      replacement :: cs ++ decodeFrom s bs
    else if s.missing ≤ 1 then Char.ofNat (s.extend b.toNat).value :: decodeFrom none bs
    else decodeFrom (some (s.extend b.toNat)) bs

def decode (bytes : ByteArray) : String :=
  String.ofList (decodeFrom none bytes.toList)

end DtoGen.Text

namespace DtoGen

/-- A place in a text as parsers tell it: lines count from one, columns are bytes. -/
structure Position where
  line : Nat
  column : Nat
deriving DecidableEq, Repr

namespace Position

/-- Moves over the first `count` bytes of the text. -/
def advance (p : Position) : Nat → List Char → Position
  | 0, _ => p
  | count, [] => { p with column := p.column + count }
  | count, c :: cs =>
    if c = '\n' then advance ⟨p.line + 1, 0⟩ (count - 1) cs
    else if count ≤ c.utf8Size then { p with column := p.column + count }
    else advance { p with column := p.column + c.utf8Size } (count - c.utf8Size) cs

/-- The position after the first `count` bytes. -/
def after (text : String) (count : Nat) : Position :=
  advance ⟨1, 0⟩ count text.toList

/-- The bytes of the first `count` lines, their line ends included. -/
def lineBytes : Nat → List Char → Nat
  | 0, _ => 0
  | _, [] => 0
  | count + 1, c :: cs => c.utf8Size + lineBytes (if c = '\n' then count else count + 1) cs

/-- The byte that a position labels: the last one seen in its line, if there is one. -/
def offset? (text : String) (p : Position) : Option Nat :=
  if p.line = 0 then none
  else some (min (lineBytes (p.line - 1) text.toList + (p.column - 1)) text.utf8ByteSize)

end Position

end DtoGen

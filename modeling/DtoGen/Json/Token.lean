namespace DtoGen.Json

inductive Token
  | openBrace
  | closeBrace
  | openBracket
  | closeBracket
  | comma
  | colon
  | null
  | bool (value : Bool)
  /-- `stop` is where reading the number as a value stops: an exponent beyond 32 bits ends early. -/
  | number (stop : Nat)
  /-- A string without a text holds a lone surrogate, which is a fault only where it is read. -/
  | string (text : Except Nat String)
  /-- A string that does not end: the faults of reading it and of skipping it. -/
  | badString (reading skipping : Nat)
  | bad (fault : Nat)
deriving Repr

structure Lexeme where
  token : Token
  start : Nat
  stop : Nat
deriving Repr

def isBlank (c : Char) : Bool :=
  c == ' ' || c == '\t' || c == '\n' || c == '\r'

/-- How many bytes have been seen when the byte at `pos` is found wrong. -/
def seenAt (size pos : Nat) : Nat :=
  min size (pos + 1)

def bytes (cs : List Char) : Nat :=
  cs.foldl (fun count c => count + c.utf8Size) 0

namespace Lexeme

/-- What stands for one UTF-16 unit or character inside quotes. `seen` is where a reader that wants
the second half of a surrogate pair gives up on it. -/
inductive Piece
  | char (c : Char) (seen : Nat)
  | unit (code seen : Nat)

inductive Scan
  | closed (pieces : List Piece) (stop : Nat) (rest : List Char)
  | broken (pieces : List Piece) (reading skipping : Nat)

def Scan.push (piece : Piece) : Scan → Scan
  | .closed pieces stop rest => .closed (piece :: pieces) stop rest
  | .broken pieces reading skipping => .broken (piece :: pieces) reading skipping

def hexDigit? (c : Char) : Option Nat :=
  if c.isDigit then some (c.toNat - '0'.toNat)
  else if 'a' ≤ c && c ≤ 'f' then some (c.toNat - 'a'.toNat + 10)
  else if 'A' ≤ c && c ≤ 'F' then some (c.toNat - 'A'.toNat + 10)
  else none

def hexUnit? (a b c d : Char) : Option Nat := do
  return (((← hexDigit? a) * 16 + (← hexDigit? b)) * 16 + (← hexDigit? c)) * 16 + (← hexDigit? d)

def escapes : List (Char × Char) :=
  [('"', '"'), ('\\', '\\'), ('/', '/'), ('b', '\x08'), ('f', '\x0c'), ('n', '\n'), ('r', '\r'),
    ('t', '\t')]

/-- The inside of a string, from `pos` to its closing quote. -/
def scan (size : Nat) : Nat → List Char → Scan
  | _, [] => .broken [] size size
  | pos, '"' :: cs => .closed [] (pos + 1) cs
  | pos, '\\' :: 'u' :: a :: b :: c :: d :: cs =>
    match hexUnit? a b c d with
    | some code => (scan size (pos + 6) cs).push (.unit code (pos + 6))
    | none => .broken [] (pos + 6) (pos + 6)
  | pos, '\\' :: 'u' :: cs =>
    let fault := if bytes cs < 4 then size else pos + 6
    .broken [] fault fault
  | pos, '\\' :: e :: cs =>
    match escapes.lookup e with
    | some c => (scan size (pos + 2) cs).push (.char c (pos + 2))
    | none => .broken [] (pos + 2) (pos + 2)
  | _, ['\\'] => .broken [] size size
  | pos, c :: cs =>
    if c.toNat < 0x20 then .broken [] (pos + 1) pos
    else (scan size (pos + c.utf8Size) cs).push (.char c (pos + 1))

def isLeading (code : Nat) : Bool :=
  0xD800 ≤ code && code ≤ 0xDBFF

def isTrailing (code : Nat) : Bool :=
  0xDC00 ≤ code && code ≤ 0xDFFF

def ofPair (high low : Nat) : Char :=
  Char.ofNat ((high - 0xD800) * 0x400 + (low - 0xDC00) + 0x10000)

/-- The text that the pieces spell, or where a surrogate without its other half shows. `last` is
where that shows after the last piece. -/
def decode (last : Nat) : List Piece → Except Nat (List Char)
  | [] => .ok []
  | .char c _ :: pieces => (decode last pieces).map (c :: ·)
  | .unit code seen :: pieces =>
    if isTrailing code then .error seen
    else if isLeading code then
      match pieces with
      | .unit low seen :: pieces =>
        if isTrailing low then (decode last pieces).map (ofPair code low :: ·) else .error seen
      | .char _ seen :: _ => .error seen
      | [] => .error last
    else (decode last pieces).map (Char.ofNat code :: ·)

def string (start : Nat) : Scan → Lexeme × List Char
  | .closed pieces stop rest =>
    (⟨.string ((decode stop pieces).map String.ofList), start, stop⟩, rest)
  | .broken pieces reading skipping =>
    match decode reading pieces with
    | .ok _ => (⟨.badString reading skipping, start, skipping⟩, [])
    | .error lone => (⟨.badString lone skipping, start, skipping⟩, [])

/-- How far a number goes: the position after it and the text behind it. -/
abbrev Extent := Nat × List Char

/-- At least one digit, then all that follow. -/
def digits (size pos : Nat) (cs : List Char) : Except Nat Extent :=
  match cs.takeWhile Char.isDigit with
  | [] => .error (seenAt size pos)
  | ds => .ok (pos + ds.length, cs.dropWhile Char.isDigit)

/-- A leading zero stands alone. -/
def integer (size pos : Nat) (cs : List Char) : Except Nat Extent :=
  match cs with
  | '0' :: d :: rest =>
    if d.isDigit then .error (seenAt size (pos + 1)) else .ok (pos + 1, d :: rest)
  | _ => digits size pos cs

def fraction (size pos : Nat) (cs : List Char) : Except Nat Extent :=
  match cs with
  | '.' :: rest => digits size (pos + 1) rest
  | _ => .ok (pos, cs)

/-- Where the digits of an exponent leave the range of 32-bit integers. -/
def leavesRange (value pos : Nat) : List Char → Option Nat
  | [] => none
  | d :: ds =>
    let value := value * 10 + (d.toNat - '0'.toNat)
    if value > 2147483647 then some (pos + 1) else leavesRange value (pos + 1) ds

/-- Also answers where the value of the exponent gets too large. -/
def exponent (size pos : Nat) (cs : List Char) : Except Nat (Extent × Option Nat) :=
  let unsigned (pos : Nat) (cs : List Char) :=
    (digits size pos cs).map fun extent =>
      (extent, leavesRange 0 pos (cs.takeWhile Char.isDigit))
  match cs with
  | e :: rest =>
    if e == 'e' || e == 'E' then
      match rest with
      | '+' :: rest => unsigned (pos + 2) rest
      | '-' :: rest => (unsigned (pos + 2) rest).map fun (extent, _) => (extent, none)
      | _ => unsigned (pos + 1) rest
    else .ok ((pos, cs), none)
  | [] => .ok ((pos, cs), none)

def number (size start : Nat) (cs : List Char) : Lexeme × List Char :=
  let (pos, unsigned) := match cs with
    | '-' :: rest => (start + 1, rest)
    | _ => (start, cs)
  let read : Except Nat (Extent × Extent × Option Nat) := do
    let whole ← integer size pos unsigned
    let mantissa ← fraction size whole.1 whole.2
    return (mantissa, ← exponent size mantissa.1 mantissa.2)
  match read with
  | .error fault => (⟨.bad fault, start, fault⟩, [])
  | .ok (mantissa, (stop, rest), tooLarge) =>
    let isZero := (unsigned.take (mantissa.1 - pos)).all fun c => c == '0' || c == '.'
    let valueStop := if isZero then stop else tooLarge.getD stop
    (⟨.number valueStop, start, stop⟩, rest)

/-- The rest behind a literal name, or where it is misspelled. -/
def literal (size pos : Nat) : List Char → List Char → Except Nat (List Char)
  | [], cs => .ok cs
  | _, [] => .error size
  | w :: word, c :: cs => if w = c then literal size (pos + 1) word cs else .error (seenAt size pos)

def word (size start : Nat) (token : Token) (name : List Char) (cs : List Char) :
    Lexeme × List Char :=
  match literal size start name cs with
  | .ok rest => (⟨token, start, start + name.length⟩, rest)
  | .error fault => (⟨.bad fault, start, fault⟩, [])

def ofChars (size pos : Nat) (c : Char) (cs : List Char) : Lexeme × List Char :=
  let mark (token : Token) : Lexeme × List Char := (⟨token, pos, pos + 1⟩, cs)
  match c with
  | '\x7b' => mark .openBrace
  | '\x7d' => mark .closeBrace
  | '[' => mark .openBracket
  | ']' => mark .closeBracket
  | ',' => mark .comma
  | ':' => mark .colon
  | '"' => string pos (scan size (pos + 1) cs)
  | 'n' => word size pos .null "null".toList (c :: cs)
  | 't' => word size pos (.bool true) "true".toList (c :: cs)
  | 'f' => word size pos (.bool false) "false".toList (c :: cs)
  | _ =>
    if c == '-' || c.isDigit then number size pos (c :: cs)
    else (⟨.bad (pos + 1), pos, pos + 1⟩, [])

end Lexeme

/-- The tokens from `pos` on; every step takes at least one character. -/
def lexFrom (size : Nat) : Nat → Nat → List Char → List Lexeme
  | 0, _, _ => []
  | _, _, [] => []
  | fuel + 1, pos, c :: cs =>
    if isBlank c then lexFrom size fuel (pos + 1) cs
    else
      let (lexeme, rest) := Lexeme.ofChars size pos c cs
      lexeme :: lexFrom size fuel lexeme.stop rest

def lex (text : String) : List Lexeme :=
  lexFrom text.utf8ByteSize text.length 0 text.toList

end DtoGen.Json

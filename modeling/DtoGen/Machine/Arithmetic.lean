import DtoGen.Machine.Script.Enclosed

namespace DtoGen

inductive Arithmetic
  | number (value : Int)
  | parameter (name : String) (subscript : Option String)
  | unary (sign : String) (operand : Arithmetic)
  /-- `behind` is the text from the right side on. -/
  | binary (sign : String) (left right : Arithmetic) (behind : String)
  | choice (test yes no : Arithmetic)
  | assign (name : String) (subscript : Option String) (sign : String) (value : Arithmetic)
      (behind : String)
  /-- Adds to a parameter, and is its value before or after that. -/
  | step (name : String) (subscript : Option String) (amount : Int) (isAfter : Bool)
  | sequence (first second : Arithmetic)
deriving Repr

namespace Arithmetic

inductive Cause
  | noPrimary
  | noEnd
  | divisionByZero
  /-- A parameter whose value is not a number. -/
  | noNumber (value : String)
  | badOperator
  | badDigit
  | badBase
  | noParameter
  | unclosed
  | noColon
  | negativeExponent
  | tooDeep
deriving DecidableEq, Repr

/-- What is wrong with an expression, and from where on. -/
structure Fault where
  cause : Cause
  expression : String
  token : String
deriving DecidableEq, Repr

namespace Fault

def plainText (expression : String) : Cause → String
  | .noNumber value => "Illegal number: " ++ value
  | .noEnd | .badOperator | .badDigit | .badBase => place "expecting EOF"
  | .divisionByZero => place "division by zero"
  | _ => place "expecting primary"
where
  place (what : String) : String :=
    "arithmetic expression: " ++ what ++ ": \"" ++ expression ++ "\""

def extendedText : Cause → String
  | .noPrimary | .noNumber _ => "syntax error: operand expected"
  | .noEnd => "syntax error in expression"
  | .divisionByZero => "division by 0"
  | .badOperator => "syntax error: invalid arithmetic operator"
  | .badDigit => "value too great for base"
  | .badBase => "invalid arithmetic base"
  | .noParameter => "attempted assignment to non-variable"
  | .unclosed => "missing \x60)'"
  | .noColon => "\x60:' expected for conditional expression"
  | .negativeExponent => "exponent less than 0"
  | .tooDeep => "expression recursion level exceeded"

def message (dialect : Dialect) (fault : Fault) : String :=
  match dialect with
  | .plain => plainText fault.expression fault.cause
  | .extended =>
    let shown := (fault.expression.toList.dropWhile fun c => c == ' ' || c == '\t')
    String.ofList shown ++ ": " ++ extendedText fault.cause ++ " (error token is \"" ++ fault.token
      ++ "\")"

end Fault

/-- What is wrong, and the text from there on. -/
abbrev Read := Except (Cause × List Char) (Arithmetic × List Char)

def skipBlanks (cs : List Char) : List Char :=
  cs.dropWhile fun c => c == ' ' || c == '\t' || c == '\n'

def isNameChar (c : Char) : Bool :=
  c.isAlphanum || c == '_'

def digitValue (c : Char) : Nat :=
  if c.isDigit then c.toNat - '0'.toNat
  else c.toLower.toNat - 'a'.toNat + 10

def natOf (base : Nat) (ds : List Char) : Option Nat :=
  if ds.all fun d => d.isAlphanum && digitValue d < base then
    some (ds.foldl (fun n d => n * base + digitValue d) 0)
  else none

/-- A number in decimal, octal or hexadecimal digits. -/
def literal? (cs : List Char) : Option Nat :=
  match cs with
  | '0' :: x :: ds => if x == 'x' || x == 'X' then natOf 16 ds else natOf 8 (x :: ds)
  | _ => natOf 10 cs

/-- Digits of a base up to 64. Capitals count for themselves only behind the small letters. -/
def wideDigit? (base : Nat) (c : Char) : Option Nat :=
  let value :=
    if c.isDigit || c.isLower then digitValue c
    else if c.isUpper then if base ≤ 36 then digitValue c else c.toNat - 'A'.toNat + 36
    else if c = '@' then 62
    else 63
  if value < base then some value else none

def basedLiteral (base : Nat) (ds : List Char) : Except Cause Nat :=
  if base < 2 || 64 < base then .error .badBase
  else
    match ds.mapM (wideDigit? base) with
    | some values => .ok (values.foldl (fun n d => n * base + d) 0)
    | none => .error .badDigit

def isWideDigit (c : Char) : Bool :=
  isNameChar c || c == '@' || c == '#'

/-- A number in any notation. -/
def wideLiteral (cs : List Char) : Except Cause Nat :=
  let base := cs.takeWhile (· != '#')
  match cs.drop base.length with
  | _ :: ds => basedLiteral ((natOf 10 base).getD 0) ds
  | [] =>
    match literal? cs with
    | some n => .ok n
    | none => .error .badDigit

/-- The number that wraps around at 64 bits. -/
def wrap (i : Int) : Int :=
  Int.bmod i (Nat.pow 2 64)

/-- Operators of equal precedence, from the weakest to the strongest. -/
def levels : List (List String) :=
  [ ["||"], ["&&"], ["|"], ["^"], ["&"], ["==", "!="], ["<=", ">=", "<", ">"], ["<<", ">>"],
    ["+", "-"], ["*", "/", "%"] ]

def assignmentSigns : List String :=
  ["=", "+=", "-=", "*=", "/=", "%=", "<<=", ">>=", "&=", "|=", "^="]

/-- All signs, a longer one before its beginnings. -/
def signsOf (dialect : Dialect) : List String :=
  let plain :=
    [ "<<=", ">>=", "||", "&&", "==", "!=", "<=", ">=", "<<", ">>", "+=", "-=", "*=", "/=", "%=",
      "&=", "|=", "^=", "|", "^", "&", "<", ">", "+", "-", "*", "/", "%", "=" ]
  match dialect with
  | .plain => plain
  | .extended => "**" :: plain

variable (dialect : Dialect)

/-- The sign that a text starts with, and what follows it. -/
def sign? (cs : List Char) : Option (String × List Char) :=
  ((signsOf dialect).find? fun sign => sign.toList.isPrefixOf cs).map fun sign =>
    (sign, cs.drop sign.length)

/-- A name, perhaps with a subscript, and what follows it. -/
def place? (cs : List Char) : Option (String × Option String × List Char) :=
  let name := cs.takeWhile isNameChar
  let rest := cs.drop name.length
  if name.isEmpty || name.head?.any Char.isDigit then none
  else
    let bracketed : Option (List Char × List Char) :=
      match dialect, rest with
      | .extended, '[' :: inner => Script.enclosed (inner.length + 1) false ']' inner
      | _, _ => none
    match bracketed with
    | some (subscript, rest) => some (String.ofList name, some (String.ofList subscript), rest)
    | none => some (String.ofList name, none, rest)

def stepSign? (cs : List Char) : Option (Int × List Char) :=
  match dialect, cs with
  | .extended, '+' :: '+' :: rest => some (1, rest)
  | .extended, '-' :: '-' :: rest => some (-1, rest)
  | _, _ => none

def textFrom (cs : List Char) : String :=
  String.ofList (skipBlanks cs)

mutual

/-- A whole expression. The first argument of each reader bounds the length. -/
def sequenceOf : Nat → List Char → Read
  | 0, cs => .error (.noPrimary, cs)
  | bound + 1, cs => do
    let (first, rest) ← expression bound cs
    match dialect, skipBlanks rest with
    | .extended, ',' :: rest =>
      let (second, rest) ← sequenceOf bound rest
      return (.sequence first second, rest)
    | _, _ => return (first, rest)

def expression : Nat → List Char → Read
  | 0, cs => .error (.noPrimary, cs)
  | bound + 1, cs => do
    let cs := skipBlanks cs
    match place? dialect cs with
    | none => conditional bound cs
    | some (name, subscript, rest) =>
      match sign? dialect (skipBlanks rest) with
      | some (sign, rest) =>
        if assignmentSigns.contains sign then
          let (value, behind) ← expression bound rest
          return (.assign name subscript sign value (textFrom rest), behind)
        else conditional bound cs
      | none => conditional bound cs

def conditional : Nat → List Char → Read
  | 0, cs => .error (.noPrimary, cs)
  | bound + 1, cs => do
    let (test, rest) ← level bound levels cs
    match skipBlanks rest with
    | '?' :: rest =>
      let (yes, rest) ← expression bound rest
      match skipBlanks rest with
      | ':' :: rest =>
        let (no, rest) ← conditional bound rest
        return (.choice test yes no, rest)
      | rest => throw (.noColon, rest)
    | rest => return (test, rest)

def level : Nat → List (List String) → List Char → Read
  | 0, _, cs => .error (.noPrimary, cs)
  | bound + 1, [], cs => power bound cs
  | bound + 1, own :: stronger, cs => do
    let (first, rest) ← level bound stronger cs
    operands bound own stronger first rest

/-- What an operator of the level adds to the left side. -/
def operands : Nat → List String → List (List String) → Arithmetic → List Char → Read
  | 0, _, _, _, cs => .error (.noPrimary, cs)
  | bound + 1, own, stronger, left, cs => do
    match sign? dialect (skipBlanks cs) with
    | some (sign, rest) =>
      if own.contains sign then
        let (right, behind) ← level bound stronger rest
        operands bound own stronger (.binary sign left right (textFrom rest)) behind
      else return (left, cs)
    | none => return (left, cs)

def power : Nat → List Char → Read
  | 0, cs => .error (.noPrimary, cs)
  | bound + 1, cs => do
    let (base, rest) ← operand bound cs
    match sign? dialect (skipBlanks rest) with
    | some ("**", rest) =>
      let (exponent, behind) ← power bound rest
      return (.binary "**" base exponent (textFrom rest), behind)
    | _ => return (base, rest)

def operand : Nat → List Char → Read
  | 0, cs => .error (.noPrimary, cs)
  | bound + 1, cs => do
    let cs := skipBlanks cs
    match (stepSign? dialect cs).bind fun (amount, rest) =>
        (place? dialect (skipBlanks rest)).map fun found => (amount, found) with
    | some (amount, name, subscript, rest) => return (.step name subscript amount true, rest)
    | none =>
    match cs with
    | '(' :: rest =>
      let (inner, rest) ← sequenceOf bound rest
      match skipBlanks rest with
      | ')' :: rest => return (inner, rest)
      | rest => throw (.unclosed, rest)
    | c :: rest =>
      if ['!', '~', '-', '+'].contains c then
        let (value, rest) ← operand bound rest
        return (.unary (String.singleton c) value, rest)
      else if c.isDigit then
        match dialect with
        | .plain =>
          let digits := (c :: rest).takeWhile isNameChar
          match literal? digits with
          | some value => return (.number value, (c :: rest).drop digits.length)
          | none => throw (.noEnd, cs)
        | .extended =>
          let digits := (c :: rest).takeWhile isWideDigit
          match wideLiteral digits with
          | .ok value => return (.number value, (c :: rest).drop digits.length)
          | .error cause => throw (cause, cs)
      else
        match place? dialect cs with
        | none => throw (.noPrimary, cs)
        | some (name, subscript, rest) =>
          match stepSign? dialect (skipBlanks rest) with
          | some (amount, rest) => return (.step name subscript amount false, rest)
          | none => return (.parameter name subscript, rest)
    | [] => throw (.noPrimary, [])

end

def lastToken (cs : List Char) : List Char :=
  let behind := cs.reverse.dropWhile fun c => c == ' ' || c == '\t' || c == '\n'
  let word := behind.takeWhile isWideDigit
  let count := if word.isEmpty then 1 else word.length
  cs.drop (behind.length - count)

/-- What an operator could be, but is not. -/
def isOperatorChar (c : Char) : Bool :=
  "+-*/%=<>!&|^~?:,()".toList.contains c

def faultAt (text : String) (cause : Cause) (rest : List Char) : Fault :=
  let rest := skipBlanks rest
  let token := if rest.isEmpty then lastToken text.toList else rest
  ⟨cause, text, String.ofList token⟩

def parse (text : String) : Except Fault Arithmetic := do
  let cs := text.toList
  if (skipBlanks cs).isEmpty then return .number 0
  else
    match sequenceOf dialect (20 * cs.length + 20) cs with
    | .error (cause, rest) => throw (faultAt text cause rest)
    | .ok (whole, rest) =>
      match skipBlanks rest with
      | [] => return whole
      | c :: rest =>
        let isKnown := isOperatorChar c || isNameChar c
        throw (faultAt text (if isKnown then .noEnd else .badOperator) (c :: rest))

def truth (b : Bool) : Int :=
  if b then 1 else 0

def bits (f : Nat → Nat → Nat) (a b : Int) : Int :=
  let unsigned (i : Int) : Nat := (Int.emod i (Nat.pow 2 64)).toNat
  wrap (f (unsigned a) (unsigned b))

/-- A power that wraps around, by the binary digits of the exponent. -/
def powerOf (base : Int) (exponent : Nat) : Int :=
  (Nat.toDigits 2 exponent).foldl
    (fun a digit =>
      let square := wrap (a * a)
      if digit = '1' then wrap (square * base) else square)
    1

def apply (sign : String) (a b : Int) : Except Cause Int :=
  match sign with
  | "*" => .ok (wrap (a * b))
  | "/" => if b = 0 then .error .divisionByZero else .ok (wrap (Int.tdiv a b))
  | "%" => if b = 0 then .error .divisionByZero else .ok (Int.tmod a b)
  | "+" => .ok (wrap (a + b))
  | "-" => .ok (wrap (a - b))
  | "<<" => .ok (wrap (a * Nat.pow 2 (b.toNat % 64)))
  | ">>" => .ok (Int.fdiv a (Nat.pow 2 (b.toNat % 64)))
  | "<" => .ok (truth (a < b))
  | ">" => .ok (truth (a > b))
  | "<=" => .ok (truth (a ≤ b))
  | ">=" => .ok (truth (a ≥ b))
  | "==" => .ok (truth (a = b))
  | "!=" => .ok (truth (a ≠ b))
  | "&" => .ok (bits Nat.land a b)
  | "^" => .ok (bits Nat.xor a b)
  | "|" => .ok (bits Nat.lor a b)
  | "**" => if b < 0 then .error .negativeExponent else .ok (powerOf a b.toNat)
  | _ => .ok b

/-- Parameters by their names and subscripts. -/
structure Store (σ : Type) where
  get : String → Option String → σ → Except Fault Int
  set : String → Option String → Int → σ → σ

variable {σ : Type}

/-- Works out a value of the expression `text`. Sides that do not count are not looked at. -/
def evaluate (store : Store σ) (text : String) : Arithmetic → σ → Except Fault (Int × σ)
  | number value, s => .ok (wrap value, s)
  | parameter name subscript, s => (store.get name subscript s).map fun value => (value, s)
  | unary sign operand, s => do
    let (a, s) ← evaluate store text operand s
    let value := match sign with
      | "!" => truth (a = 0)
      | "~" => -a - 1
      | "-" => wrap (-a)
      | _ => a
    return (value, s)
  | binary "&&" left right _, s => do
    let (a, s) ← evaluate store text left s
    if a = 0 then return (0, s)
    else
      let (b, s) ← evaluate store text right s
      return (truth (b ≠ 0), s)
  | binary "||" left right _, s => do
    let (a, s) ← evaluate store text left s
    if a ≠ 0 then return (1, s)
    else
      let (b, s) ← evaluate store text right s
      return (truth (b ≠ 0), s)
  | binary sign left right behind, s => do
    let (a, s) ← evaluate store text left s
    let (b, s) ← evaluate store text right s
    return (← (apply sign a b).mapError fun cause => ⟨cause, text, behind⟩, s)
  | choice test yes no, s => do
    let (a, s) ← evaluate store text test s
    if a ≠ 0 then evaluate store text yes s else evaluate store text no s
  | assign name subscript sign value behind, s => do
    let (b, s) ← evaluate store text value s
    let old ← if sign = "=" then .ok 0 else store.get name subscript s
    let result ← (apply ((sign.dropEnd 1).toString) old b).mapError fun cause =>
      ⟨cause, text, behind⟩
    return (result, store.set name subscript result s)
  | step name subscript amount isAfter, s => do
    let old ← store.get name subscript s
    let result := wrap (old + amount)
    return (if isAfter then result else old, store.set name subscript result s)
  | sequence first second, s => do
    let (_, s) ← evaluate store text first s
    evaluate store text second s

end Arithmetic

end DtoGen

import DtoGen.Machine.Script.Enclosed
import DtoGen.Text.Utf8

namespace DtoGen.Script

def isNameStart (c : Char) : Bool :=
  c.isAlpha || c == '_'

def isNameChar (c : Char) : Bool :=
  c.isAlphanum || c == '_'

def isName (cs : List Char) : Bool :=
  cs.head?.any isNameStart && cs.all isNameChar

def specialParameters : List Char :=
  ['*', '@', '#', '?', '$', '!', '-']

/-- A mark that nothing closes, and how much of the text is behind it. -/
structure OpenMark where
  mark : Char
  left : Nat
deriving DecidableEq, Repr

def digitValue? (base : Nat) (c : Char) : Option Nat :=
  let value :=
    if c.isDigit then c.toNat - '0'.toNat
    else if c.isAlpha then c.toLower.toNat - 'a'.toNat + 10
    else base
  if value < base then some value else none

/-- Reads at most `count` digits. -/
def number (base value : Nat) : Nat → List Char → Nat × List Char
  | 0, cs => (value, cs)
  | _, [] => (value, [])
  | count + 1, c :: cs =>
    match digitValue? base c with
    | some digit => number base (value * base + digit) count cs
    | none => (value, c :: cs)

def letterEscapes : List (Char × UInt8) :=
  [ ('a', 7), ('b', 8), ('e', 27), ('E', 27), ('f', 12), ('n', 10), ('r', 13), ('t', 9), ('v', 11),
    ('\\', 92) ]

def bytesOf (cs : List Char) : List UInt8 :=
  (String.ofList cs).toUTF8.toList

/-- What an escape with a code of at most `count` digits stands for, unless there are none. -/
def codeEscape (base count : Nat) (isCharacter : Bool) (cs : List Char) :
    Option (List UInt8 × List Char) :=
  if (cs.head?.bind (digitValue? base)).isNone then none
  else
    let (value, rest) := number base 0 count cs
    some (if isCharacter then bytesOf [Char.ofNat value] else [UInt8.ofNat value], rest)

/-- What stands behind a backslash in `$'...'`. -/
def ansiEscape : List Char → List UInt8 × List Char
  | [] => ([92], [])
  | c :: cs =>
    let plain : List UInt8 × List Char := (92 :: bytesOf [c], cs)
    match letterEscapes.lookup c with
    | some b => ([b], cs)
    | none =>
      match c, cs with
      | '\'', _ | '"', _ | '?', _ => (bytesOf [c], cs)
      | 'x', _ => (codeEscape 16 2 false cs).getD plain
      | 'u', _ => (codeEscape 16 4 true cs).getD plain
      | 'U', _ => (codeEscape 16 8 true cs).getD plain
      | 'c', d :: cs => ([UInt8.ofNat (d.toUpper.toNat % 32)], cs)
      | _, _ => (codeEscape 8 3 false (c :: cs)).getD plain

/-- The text up to the closing quote. The first argument bounds the length. -/
def ansiText : Nat → List Char → Option (List UInt8 × List Char)
  | 0, _ | _, [] => none
  | _, '\'' :: cs => some ([], cs)
  | bound + 1, '\\' :: cs =>
    let (piece, rest) := ansiEscape cs
    (ansiText bound rest).map fun (body, rest) => (piece ++ body, rest)
  | bound + 1, c :: cs =>
    (ansiText bound cs).map fun (body, rest) => (bytesOf [c] ++ body, rest)

def ansiQuoted? (cs : List Char) : Option (String × List Char) :=
  (ansiText (cs.length + 1) cs).map fun (bs, rest) => (Text.decode ⟨bs.toArray⟩, rest)

def fallbackSigns : List Char :=
  ['-', '=', '?', '+']

/-- Cuts a text in front of the first such character that nothing quotes or encloses. The first
argument bounds the length. -/
def cutAt (mark : Char) : Nat → List Char → List Char × List Char
  | 0, cs => ([], cs)
  | _, [] => ([], [])
  | bound + 1, c :: cs =>
    let keep (taken : List Char) (rest : List Char) :=
      let (body, rest) := cutAt mark bound rest
      (taken ++ body, rest)
    let nested (opening : List Char) (close : Char) (inner : List Char) :=
      match enclosed bound false close inner with
      | some (body, rest) => keep (opening ++ body ++ [close]) rest
      | none => keep opening inner
    if c = mark then ([], c :: cs)
    else match c, cs with
      | '\\', d :: cs => keep ['\\', d] cs
      | '$', '(' :: cs => nested ['$', '('] ')' cs
      | '$', '\x7b' :: cs => nested ['$', '\x7b'] '\x7d' cs
      | '(', cs => nested ['('] ')' cs
      | '"', cs => nested ['"'] '"' cs
      | '\'', cs => nested ['\''] '\'' cs
      | c, cs => keep [c] cs

def slice (cs : List Char) : Change :=
  let (start, rest) := cutAt ':' cs.length cs
  .slice (String.ofList start) (if rest.isEmpty then none else some (String.ofList rest.tail))

def replacing (scope : ReplaceScope) (cs : List Char) : Change :=
  let (pattern, rest) := cutAt '/' cs.length cs
  .replace scope (String.ofList pattern) (String.ofList rest.tail)

def recasing (sign : Char) : List Char → Change
  | c :: cs =>
    if c = sign then .recase sign true (String.ofList cs)
    else .recase sign false (String.ofList (c :: cs))
  | [] => .recase sign false ""

/-- What only the extended shell knows behind the name of a parameter. -/
def extendedChange? : List Char → Option Change
  | ':' :: cs => if cs.isEmpty then none else some (slice cs)
  | '/' :: '/' :: cs => some (replacing .all cs)
  | '/' :: '#' :: cs => some (replacing .atStart cs)
  | '/' :: '%' :: cs => some (replacing .atEnd cs)
  | '/' :: cs => some (replacing .first cs)
  | ['@', letter] =>
    if "QEPAKakuUL".toList.contains letter then some (.transform letter) else none
  | c :: cs => if ['^', ',', '~'].contains c then some (recasing c cs) else none
  | [] => none

/-- What stands behind the name of a parameter in braces. -/
def change? (dialect : Dialect) (cs : List Char) : Option Change :=
  let extended : Option Change :=
    match dialect with
    | .plain => none
    | .extended => extendedChange? cs
  match cs with
  | ':' :: sign :: text =>
    if fallbackSigns.contains sign then some (.fallback sign true (String.ofList text))
    else extended
  | '%' :: '%' :: text => some (.cutEnd true (String.ofList text))
  | '%' :: text => some (.cutEnd false (String.ofList text))
  | '#' :: '#' :: text => some (.cutStart true (String.ofList text))
  | '#' :: text => some (.cutStart false (String.ofList text))
  | sign :: text =>
    if fallbackSigns.contains sign then some (.fallback sign false (String.ofList text))
    else extended
  | [] => none

/-- The name in front of a text: letters and digits, digits alone, or one special character. -/
def parameterName : List Char → List Char × List Char
  | [] => ([], [])
  | c :: cs =>
    if specialParameters.contains c then ([c], cs)
    else
      let name := if c.isDigit then (c :: cs).takeWhile Char.isDigit else
        (c :: cs).takeWhile isNameChar
      (name, (c :: cs).drop name.length)

/-- The text in brackets at the front, and what follows it. -/
def bracketed? (cs : List Char) : Option (String × List Char) :=
  match cs with
  | '[' :: cs =>
    (enclosed (cs.length + 1) false ']' cs).map fun (body, rest) => (String.ofList body, rest)
  | _ => none

/-- A parameter, perhaps with a subscript, and what follows it. -/
def reference? (dialect : Dialect) (cs : List Char) : Option (Reference × List Char) :=
  match parameterName cs with
  | ([], _) => none
  | (name, rest) =>
    let plain : Reference := ⟨String.ofList name, none, false⟩
    match dialect, isName name, bracketed? rest with
    | .extended, true, some (subscript, rest) =>
      some ({ plain with subscript := some subscript }, rest)
    | _, _, _ => some (plain, rest)

def isAll (reference : Reference) : Bool :=
  reference.subscript == some "@" || reference.subscript == some "*"

/-- What stands behind an exclamation mark in braces. -/
def indirect? (isQuoted : Bool) (cs : List Char) : Option Piece := do
  let (reference, rest) ← reference? .extended cs
  match rest with
  | ['@'] | ['*'] =>
    some (.parameter { reference with subscript := some (String.ofList rest) } (some .names)
      isQuoted)
  | [] =>
    if isAll reference then some (.parameter reference (some .places) isQuoted)
    else some (.parameter { reference with isIndirect := true } none isQuoted)
  | rest =>
    (change? .extended rest).map fun change =>
      .parameter { reference with isIndirect := true } (some change) isQuoted

/-- A parameter by the text between its braces. -/
def braced (dialect : Dialect) (isQuoted : Bool) (body : List Char) : Piece :=
  let length? : Option Piece :=
    match body with
    | '#' :: rest =>
      match reference? dialect rest with
      | some (reference, []) => some (.parameter reference (some .length) isQuoted)
      | _ => none
    | _ => none
  let indirect : Option Piece :=
    match dialect, body with
    | .extended, '!' :: c :: rest =>
      if c == ':' || fallbackSigns.contains c then none else indirect? isQuoted (c :: rest)
    | _, _ => none
  let plain : Option Piece := do
    let (reference, rest) ← reference? dialect body
    if rest.isEmpty then some (.parameter reference none isQuoted)
    else (change? dialect rest).map fun change => .parameter reference (some change) isQuoted
  ((length?.or indirect).or plain).getD (.badParameter (String.ofList body))

/-- Text between back quotes, without the backslashes that protect it. -/
def unprotected (isQuoted : Bool) : List Char → List Char
  | '\\' :: c :: cs =>
    if ['$', '\x60', '\\'].contains c || (isQuoted && c = '"') then c :: unprotected isQuoted cs
    else '\\' :: unprotected isQuoted (c :: cs)
  | c :: cs => c :: unprotected isQuoted cs
  | [] => []
termination_by cs => cs.length

/-- Reads what follows a dollar sign. -/
def dollar (dialect : Dialect) (isQuoted : Bool) (cs : List Char) :
    Except OpenMark (Piece × List Char) :=
  let bound := cs.length + 1
  match cs with
  | '(' :: cs =>
    match inParentheses bound cs with
    | none => .error ⟨')', cs.length⟩
    | some ('(' :: body, rest) =>
      if body.getLast? = some ')' then
        .ok (.arithmetic (String.ofList body.dropLast) isQuoted, rest)
      else .ok (.command (String.ofList ('(' :: body)) isQuoted, rest)
    | some (body, rest) => .ok (.command (String.ofList body) isQuoted, rest)
  | '\x7b' :: cs =>
    match enclosed bound isQuoted '\x7d' cs with
    | none => .error ⟨'\x7d', cs.length⟩
    | some (body, rest) => .ok (braced dialect isQuoted body, rest)
  | c :: rest =>
    if c.isDigit || specialParameters.contains c then
      .ok (.parameter ⟨String.singleton c, none, false⟩ none isQuoted, rest)
    else
      match dialect, bracketed? (c :: rest) with
      | .extended, some (text, rest) => .ok (.arithmetic text isQuoted, rest)
      | _, _ =>
        let name := (c :: rest).takeWhile isNameChar
        if name.isEmpty then .ok (.literal "$" isQuoted, c :: rest)
        else
          .ok (.parameter ⟨String.ofList name, none, false⟩ none isQuoted,
            (c :: rest).drop name.length)
  | [] => .ok (.literal "$" isQuoted, [])

/-- Puts characters in front of a word. -/
def Word.push (text : String) (isQuoted : Bool) : Word → Word
  | .literal more quoted :: word =>
    if quoted = isQuoted then .literal (text ++ more) quoted :: word
    else .literal text isQuoted :: .literal more quoted :: word
  | word => .literal text isQuoted :: word

/-- What is being read: a word of a command, the text of a change of a parameter, the text that a
redirection includes, or an expression that texts are compared with. -/
inductive Frame
  | word
  | operand
  | document
  | expression
deriving DecidableEq

/-- Characters that a backslash protects between double quotes. -/
def isProtected (frame : Frame) (c : Char) : Bool :=
  ['$', '\x60', '\\'].contains c || (c = '"' && frame != .document)

/-- Whether the character ends the reading, in so many open parentheses. -/
def endsPieces (frame : Frame) (depth : Nat) (c : Char) : Bool :=
  match frame with
  | .word => depth == 0 && endsWord c
  | .expression => (depth == 0 && (isBlank c || c == '\n' || c == ')'))
  | .operand | .document => false

/-- Characters that make a list of patterns of the parenthesis behind them. -/
def listMarks : List Char :=
  ['?', '*', '+', '@', '!']

/-- Reads pieces up to the first character that cannot belong to them. The first argument bounds
the length; `inQuotes` says whether a double quote is open, and `depth` how many parentheses of
patterns are. -/
def pieces (manner : Manner) : Nat → Frame → Bool → Nat → List Char →
    Except OpenMark (Word × List Char)
  | 0, _, _, _, cs => .ok ([], cs)
  | _, frame, inQuotes, _, [] =>
    if inQuotes && frame != .operand then .error ⟨'"', 0⟩ else .ok ([], [])
  | bound + 1, frame, inQuotes, depth, c :: cs =>
    let isQuoted := inQuotes || frame = .document
    let isExtended := manner.dialect == .extended
    let go (word : Word → Word) (rest : List Char) := do
      let (more, rest) ← pieces manner bound frame inQuotes depth rest
      return (word more, rest)
    let push (text : List Char) (isQuoted : Bool) (rest : List Char) :=
      go (Word.push (String.ofList text) isQuoted) rest
    let process (isSource : Bool) (cs : List Char) :=
      match inParentheses (cs.length + 1) cs with
      | none => .error ⟨')', cs.length⟩
      | some (body, rest) => go (.process (String.ofList body) isSource :: ·) rest
    if isExtended && !isQuoted && c = '$' && cs.head? = some '\'' then
      match ansiQuoted? cs.tail with
      | none => .error ⟨'\'', cs.length⟩
      | some (text, rest) => go (Word.push text true) rest
    else if isExtended && !isQuoted && c = '$' && cs.head? = some '"' then
      pieces manner bound frame inQuotes depth cs
    else if isExtended && !isQuoted && frame = .word && (c = '<' || c = '>')
        && cs.head? = some '(' then
      process (c = '<') cs.tail
    else if !isQuoted && manner.hasPatternLists && listMarks.contains c && cs.head? = some '(' then do
      let (word, rest) ← pieces manner bound frame inQuotes (depth + 1) cs.tail
      return (Word.push (String.ofList [c, '(']) false word, rest)
    else
    match c, cs with
    | '$', cs => do
      let (piece, rest) ← dollar manner.dialect isQuoted cs
      go (piece :: ·) rest
    | '\x60', cs =>
      match enclosed (cs.length + 1) true '\x60' cs with
      | none => .error ⟨'\x60', cs.length⟩
      | some (body, rest) =>
        go (.command (String.ofList (unprotected isQuoted body)) isQuoted :: ·) rest
    | '\\', '\n' :: cs => pieces manner bound frame inQuotes depth cs
    | '\\', d :: cs =>
      if !isQuoted then push [d] true cs
      else if isProtected frame d then push [d] true cs
      else push ['\\'] true (d :: cs)
    | '"', cs =>
      if frame = .document then push ['"'] true cs
      else if !inQuotes && cs.head? = some '"' then go (Word.push "" true) cs.tail
      else
        match pieces manner bound frame (!inQuotes) depth cs with
        | .error mark => .error (if mark.left = 0 && !inQuotes then ⟨'"', cs.length⟩ else mark)
        | .ok result => .ok result
    | '\'', cs =>
      if isQuoted then push ['\''] true cs
      else
        match singleQuoted? cs with
        | none => .error ⟨'\'', cs.length⟩
        | some (body, rest) => push (body.drop 1).dropLast true rest
    | c, cs =>
      if !isQuoted && endsPieces frame depth c then .ok ([], c :: cs)
      else if !isQuoted && frame != .operand && (depth > 0 || frame = .expression)
          && (c = '(' || c = ')') then do
        let deeper := if c = '(' then depth + 1 else depth - 1
        let (word, rest) ← pieces manner bound frame inQuotes deeper cs
        return (Word.push (String.singleton c) isQuoted word, rest)
      else push [c] isQuoted cs

/-- The name and the subscript in front of an assignment, and the sign with what follows it. -/
def element? (cs : List Char) : Option (Piece × List Char) := do
  let name := cs.takeWhile isNameChar
  if !isName name then none
  else
    let (subscript, rest) ← bracketed? (cs.drop name.length)
    if rest.head? = some '=' || ['+', '='].isPrefixOf rest then
      some (.element (String.ofList name) subscript, rest)
    else none

/-- Whether a word so far is the front of an assignment without its value. -/
def awaitsValue (word : Word) : Bool :=
  match word with
  | [.literal text false] =>
    let name := text.toList.takeWhile isNameChar
    let sign := text.toList.drop name.length
    isName name && (sign == ['='] || sign == ['+', '='])
  | [.element _ _, .literal text false] => text == "=" || text == "+="
  | _ => false

def wordIn (manner : Manner) (frame : Frame) (cs : List Char) :
    Except OpenMark (Word × List Char) := do
  let bound := cs.length + 1
  if manner.dialect == .plain then pieces manner bound frame false 0 cs
  else
    let (word, rest) ←
      match element? cs with
      | some (piece, rest) => do
        let (word, rest) ← pieces manner bound frame false 0 rest
        pure (piece :: word, rest)
      | none => pieces manner bound frame false 0 cs
    match awaitsValue word, rest with
    | true, '(' :: values =>
      match commandText (values.length + 1) .start values with
      | none => .error ⟨')', values.length⟩
      | some (body, rest) => .ok (word ++ [.list (String.ofList body)], rest)
    | _, _ => .ok (word, rest)

def wordAt (manner : Manner) (cs : List Char) : Except OpenMark (Word × List Char) :=
  wordIn manner .word cs

/-- The word that a whole text makes. Pieces that cannot be read are left out. -/
def textWord (manner : Manner) (frame : Frame) (inQuotes : Bool) (text : String) : Word :=
  match pieces manner (text.length + 1) frame inQuotes 0 text.toList with
  | .ok (word, _) => word
  | .error _ => []

/-- The words between the parentheses of a list, comments left out. A place in brackets that is
written in front of a value is the first piece of the word. The first argument bounds the words. -/
def listWords (manner : Manner) : Nat → List Char → List Word
  | 0, _ | _, [] => []
  | bound + 1, c :: cs =>
    let add (front : Word) (read : Except OpenMark (Word × List Char)) : List Word :=
      match read with
      | .ok ([], rest) =>
        if front.isEmpty then listWords manner bound rest.tail
        else front :: listWords manner bound rest
      | .ok (word, rest) => (front ++ word) :: listWords manner bound rest
      | .error _ => []
    if isBlank c || c = '\n' then listWords manner bound cs
    else if c = '#' then listWords manner bound (cs.dropWhile (· != '\n'))
    else
      match bracketed? (c :: cs) with
      | some (subscript, '=' :: rest) => add [.element "" subscript] (wordIn manner .word rest)
      | _ => add [] (wordIn manner .word (c :: cs))

end DtoGen.Script

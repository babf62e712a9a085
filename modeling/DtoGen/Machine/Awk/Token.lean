import DtoGen.Machine.Awk
import DtoGen.Text.Utf8

namespace DtoGen.Awk

inductive Token
  | number (value : Numeral)
  | text (bytes : Bytes)
  | pattern (source : Bytes)
  | name (text : String)
  /-- A name with a parenthesis directly behind it. -/
  | called (text : String)
  | builtin (text : String)
  | keyword (text : String)
  | sign (text : String)
  | newline
  /-- What cannot be read. -/
  | fault (message : String)
deriving DecidableEq, Repr

structure Lexeme where
  token : Token
  line : Nat
deriving DecidableEq, Repr

def keywords : List String :=
  [ "BEGIN", "END", "function", "func", "if", "else", "while", "for", "do", "break", "continue",
    "next", "nextfile", "exit", "return", "delete", "in", "getline", "print", "printf" ]

def builtins : List String :=
  [ "length", "substr", "index", "split", "sub", "gsub", "match", "sprintf", "sin", "cos",
    "atan2", "exp", "log", "sqrt", "int", "rand", "srand", "tolower", "toupper", "system", "close",
    "fflush", "systime", "mktime", "strftime" ]

/-- The signs, the longer ones first. -/
def signs : List String :=
  [ "&&", "||", "==", "!=", "<=", ">=", "!~", "++", "--", "+=", "-=", "*=", "/=", "%=", "^=", ">>",
    "\x7b", "\x7d", "(", ")", "[", "]", ";", ",", "+", "-", "*", "/", "%", "^", "!", ">", "<", "|",
    "?", ":", "~", "$", "=" ]

def bytesOf (cs : List Char) : Bytes :=
  (String.ofList cs).toUTF8.toList

def isNameStart (c : Char) : Bool :=
  c.isAlpha || c == '_'

def isNameChar (c : Char) : Bool :=
  c.isAlphanum || c == '_'

def letterEscapes : List (Char × UInt8) :=
  [ ('n', 10), ('t', 9), ('r', 13), ('\\', 92), ('"', 34), ('a', 7), ('b', 8), ('f', 12),
    ('v', 11) ]

def isOctal (c : Char) : Bool :=
  '0' ≤ c && c ≤ '7'

/-- What stands behind a backslash in a text. -/
def escaped : List Char → Bytes × List Char
  | [] => ([92], [])
  | c :: cs =>
    match letterEscapes.lookup c with
    | some b => ([b], cs)
    | none =>
      if isOctal c then
        let ds := (c :: cs).take 3 |>.takeWhile isOctal
        let n := ds.foldl (fun n d => n * 8 + (d.toNat - '0'.toNat)) 0
        ([UInt8.ofNat n], (c :: cs).drop ds.length)
      else if c = 'x' && cs.head?.any Numeral.isHexDigit then
        let ds := cs.take 2 |>.takeWhile Numeral.isHexDigit
        ([UInt8.ofNat (Numeral.valueOf 16 ds)], cs.drop ds.length)
      else if c = '\n' then ([], cs)
      else (92 :: bytesOf [c], cs)

/-- A text with its escapes read. The first argument bounds the length. -/
def unescapedFrom : Nat → List Char → Bytes
  | 0, _ | _, [] => []
  | bound + 1, '\\' :: cs =>
    let (piece, rest) := escaped cs
    piece ++ unescapedFrom bound rest
  | bound + 1, c :: cs => bytesOf [c] ++ unescapedFrom bound cs

def unescaped (text : String) : Bytes :=
  unescapedFrom (text.length + 1) text.toList

/-- The characters up to the closing quote, as they are written. -/
def quotedBody : List Char → Option (List Char × List Char)
  | [] | '\n' :: _ => none
  | '"' :: cs => some ([], cs)
  | '\\' :: c :: cs => (quotedBody cs).map fun (body, rest) => ('\\' :: c :: body, rest)
  | c :: cs => (quotedBody cs).map fun (body, rest) => (c :: body, rest)

/-- The characters up to the closing slash, which stands for itself in brackets. -/
def patternBody (isInside : Bool) : List Char → Option (List Char × List Char)
  | [] | '\n' :: _ => none
  | '\\' :: '/' :: cs => (patternBody isInside cs).map fun (body, rest) => ('/' :: body, rest)
  | '\\' :: c :: cs =>
    (patternBody isInside cs).map fun (body, rest) => ('\\' :: c :: body, rest)
  | '/' :: cs =>
    if isInside then (patternBody true cs).map fun (body, rest) => ('/' :: body, rest)
    else some ([], cs)
  | c :: cs =>
    let isInside := if c = '[' then true else if c = ']' then false else isInside
    (patternBody isInside cs).map fun (body, rest) => (c :: body, rest)

/-- Whether an operand ends with the token, so that a slash behind it divides. -/
def endsOperand : Token → Bool
  | .number _ | .text _ | .name _ | .builtin _ | .pattern _ => true
  | .sign text => [")", "]", "++", "--", "$"].contains text
  | _ => false

def word (cs : List Char) : Token × List Char :=
  let name := cs.takeWhile isNameChar
  let rest := cs.drop name.length
  let text := String.ofList name
  if keywords.contains text then (.keyword (if text = "func" then "function" else text), rest)
  else if builtins.contains text then (.builtin text, rest)
  else if rest.head? = some '(' then (.called text, rest)
  else (.name text, rest)

def startsNumber : List Char → Bool
  | '.' :: d :: _ => d.isDigit
  | c :: _ => c.isDigit
  | [] => false

/-- The start of a text as messages show it. -/
def shortened (cs : List Char) : String :=
  String.ofList ((cs.takeWhile (· != '\n')).take 10) ++ " ..."

/-- Cuts a text into tokens. The first argument bounds the length, and `before` is the token in
front. -/
def tokens : Nat → Nat → Option Token → List Char → List Lexeme
  | 0, _, _, _ | _, _, _, [] => []
  | bound + 1, line, before, c :: cs =>
    let put (token : Token) (rest : List Char) : List Lexeme :=
      ⟨token, line⟩ :: tokens bound line (some token) rest
    if c = '\n' then ⟨.newline, line⟩ :: tokens bound (line + 1) (some .newline) cs
    else if c = ' ' || c = '\t' || c = '\r' then tokens bound line before cs
    else if c = '#' then tokens bound line before (cs.dropWhile (· != '\n'))
    else if c = '\\' && cs.head? = some '\n' then tokens bound (line + 1) before cs.tail
    else if c = '"' then
      match quotedBody cs with
      | some (body, rest) => put (.text (unescapedFrom (body.length + 1) body)) rest
      | none =>
        [⟨.fault ("runaway string constant \"" ++ shortened cs), line⟩]
    else if c = '/' && !before.any endsOperand then
      match patternBody false cs with
      | some (body, rest) => put (.pattern (bytesOf body)) rest
      | none =>
        [⟨.fault ("runaway regular expression /" ++ shortened cs), line⟩]
    else if isNameStart c then
      let (token, rest) := word (c :: cs)
      put token rest
    else if startsNumber (c :: cs) then
      match Numeral.decimal? false (c :: cs) with
      | some (value, rest) => put (.number (value.rounded Numeral.doubleBits)) rest
      | none => []
    else
      match signs.find? fun text => text.toList.isPrefixOf (c :: cs) with
      | some text => put (.sign text) ((c :: cs).drop text.length)
      | none => [⟨.fault ("unexpected character '" ++ String.singleton c ++ "'"), line⟩]

def tokensOf (text : String) : List Lexeme :=
  tokens (text.length + 1) 1 none text.toList

def Token.shown : Token → String
  | .number value => value.unsignedText 'g' none false
  | .text bs => "\"" ++ Text.decode ⟨bs.toArray⟩ ++ "\""
  | .pattern bs => "/" ++ Text.decode ⟨bs.toArray⟩ ++ "/"
  | .name word | .called word | .builtin word | .keyword word | .sign word => word
  | .newline => "newline"
  | .fault message => message

end DtoGen.Awk

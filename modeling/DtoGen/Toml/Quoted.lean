import DtoGen.Toml.Scalar

namespace DtoGen.Toml

/-- Control characters other than the tab may not be written. -/
def isTextChar (c : Char) : Bool :=
  c == '\t' || (0x20 ≤ c.toNat && c.toNat != 0x7F)

def isInlineBlank (c : Char) : Bool :=
  c == ' ' || c == '\t'

def newline? : List Char → Option (List Char)
  | '\n' :: rest => some rest
  | '\r' :: '\n' :: rest => some rest
  | _ => none

def escapes : List (Char × Char) :=
  [('b', '\x08'), ('t', '\t'), ('n', '\n'), ('f', '\x0c'), ('r', '\r'), ('e', '\x1b'), ('"', '"'),
    ('\\', '\\')]

/-- A character by its code in `count` hexadecimal digits. -/
def codeEscape (count : Nat) : Parser Char := fun cs =>
  let ds := cs.take count
  let code := natOf 16 ds
  if ds.length = count && ds.all (isDigitOf 16) && decide (code.isValidChar) then
    some (Char.ofNat code, cs.drop count)
  else none

/-- What follows a backslash. -/
def escape : Parser Char
  | [] => none
  | c :: rest =>
    match c with
    | 'x' => codeEscape 2 rest
    | 'u' => codeEscape 4 rest
    | 'U' => codeEscape 8 rest
    | _ => (escapes.lookup c).map fun d => (d, rest)

/-- Behind blanks and line ends. -/
def skipBlankLines : List Char → List Char
  | '\n' :: cs => skipBlankLines cs
  | '\r' :: '\n' :: cs => skipBlankLines cs
  | c :: cs => if isInlineBlank c then skipBlankLines cs else c :: cs
  | [] => []

/-- Behind the backslash at the end of a line: all blanks and line ends that follow. -/
def joinLines? (cs : List Char) : Option (List Char) :=
  (newline? (cs.dropWhile isInlineBlank)).map skipBlankLines

/-- A text in one line up to its closing quote. Every step takes at least one character, so the
length of the text is enough fuel. -/
def lineText (quote : Char) (hasEscapes : Bool) : Nat → Parser (List Char)
  | 0, _ => none
  | _, [] => none
  | fuel + 1, c :: cs =>
    if c = quote then some ([], cs)
    else if c = '\\' && hasEscapes then do
      let (c, cs) ← escape cs
      let (body, cs) ← lineText quote hasEscapes fuel cs
      some (c :: body, cs)
    else if isTextChar c then
      (lineText quote hasEscapes fuel cs).map fun (body, cs) => (c :: body, cs)
    else none

/-- A text over several lines up to three quotes; up to two more quotes in front of these belong to
the text. -/
def blockText (quote : Char) (hasEscapes : Bool) : Nat → Parser (List Char)
  | 0, _ => none
  | _, [] => none
  | fuel + 1, c :: cs =>
    let quotes := ((c :: cs).takeWhile (· == quote)).length
    if 3 ≤ quotes then
      let extra := min (quotes - 3) 2
      some (List.replicate extra quote, (c :: cs).drop (3 + extra))
    else if c = '\\' && hasEscapes then
      match joinLines? cs with
      | some cs => blockText quote hasEscapes fuel cs
      | none => do
        let (c, cs) ← escape cs
        let (body, cs) ← blockText quote hasEscapes fuel cs
        some (c :: body, cs)
    else if isTextChar c || c = '\n' || (c = '\r' && cs.head? = some '\n') then
      (blockText quote hasEscapes fuel cs).map fun (body, cs) => (c :: body, cs)
    else none

/-- A line end right behind the opening quotes does not count. -/
def block (quote : Char) (hasEscapes : Bool) : Parser (List Char) := fun cs =>
  let cs := (newline? cs).getD cs
  blockText quote hasEscapes cs.length cs

def quotedLine (cs : List Char) : Option (List Char × List Char) :=
  match cs with
  | '"' :: rest => lineText '"' true rest.length rest
  | '\'' :: rest => lineText '\'' false rest.length rest
  | _ => none

def quoted : Parser (List Char)
  | '"' :: '"' :: '"' :: rest => block '"' true rest
  | '\'' :: '\'' :: '\'' :: rest => block '\'' false rest
  | cs => quotedLine cs

/-- A key is quoted, or a run of letters, digits, underscores and hyphens. -/
def simpleKey : Parser String := fun cs =>
  match cs.takeWhile isBareKeyChar with
  | [] => (quotedLine cs).map fun (key, rest) => (String.ofList key, rest)
  | key => some (String.ofList key, cs.dropWhile isBareKeyChar)

/-- Keys with dots between them. -/
def keysFrom : Nat → Parser (List String)
  | 0, _ => none
  | fuel + 1, cs => do
    let (key, rest) ← simpleKey cs
    match rest.dropWhile isInlineBlank with
    | '.' :: rest =>
      let (keys, rest) ← keysFrom fuel (rest.dropWhile isInlineBlank)
      some (key :: keys, rest)
    | rest => some ([key], rest)

/-- How many keys dots may join. -/
def longestDottedKey : Nat := 80

def dottedKey : Parser (List String) := fun cs => do
  let (keys, rest) ← keysFrom cs.length cs
  if keys.length ≤ longestDottedKey then some (keys, rest) else none

end DtoGen.Toml

import DtoGen.Machine.Script

namespace DtoGen.Script

def isBlank (c : Char) : Bool :=
  c == ' ' || c == '\t'

def endsWord (c : Char) : Bool :=
  isBlank c || ['\n', ';', '&', '|', '<', '>', '(', ')'].contains c

/-- How far a text of commands has been looked at. -/
structure CommandScan where
  /-- The characters of the word that has begun, the last one first. -/
  word : List Char
  /-- Whether the word can be a keyword. -/
  atCommand : Bool
  /-- What is open: parentheses, and selections under `false`. -/
  opened : List Bool
  /-- The endings of documents that start at the next line end, and whether these lose tabs. -/
  documents : List (Bool × List Char)

namespace CommandScan

def start : CommandScan :=
  ⟨[], true, [], []⟩

def leadingKeywords : List String :=
  ["do", "then", "else", "elif", "if", "while", "until", "!", "\x7b", "time"]

def endWord (scan : CommandScan) : CommandScan :=
  let word := String.ofList scan.word.reverse
  if scan.word.isEmpty then scan
  else if !scan.atCommand then { scan with word := [] }
  else if word = "case" then
    { scan with word := [], atCommand := false, opened := false :: scan.opened }
  else if word = "esac" then
    { scan with word := [], atCommand := false, opened := scan.opened.drop 1 }
  else { scan with word := [], atCommand := leadingKeywords.contains word }

/-- Comes to a character that no word holds. -/
def pass (c : Char) (scan : CommandScan) : CommandScan :=
  let scan := scan.endWord
  if isBlank c then scan else { scan with atCommand := true }

def add (c : Char) (scan : CommandScan) : CommandScan :=
  { scan with word := c :: scan.word }

end CommandScan

/-- The word that ends a document, without its quotes, and what follows it. -/
def documentEnding : List Char → List Char × List Char
  | [] => ([], [])
  | c :: cs =>
    if endsWord c then ([], c :: cs)
    else
      let (ending, rest) := documentEnding cs
      (if ['\'', '"', '\\'].contains c then ending else c :: ending, rest)

/-- The lines of documents, and what follows them. -/
def documentLines : List (List Char) → List (Bool × List Char) → List (List Char) × List (List Char)
  | [], _ => ([], [])
  | lines, [] => ([], lines)
  | line :: lines, (stripsTabs, ending) :: documents =>
    let shown := if stripsTabs then line.dropWhile (· == '\t') else line
    let stillOpen := if shown = ending then documents else (stripsTabs, ending) :: documents
    let (body, rest) := documentLines lines stillOpen
    (line :: body, rest)

/-- A text in single quotes, the quotes included, and what follows it. -/
def singleQuoted? (cs : List Char) : Option (List Char × List Char) :=
  let body := cs.takeWhile (· != '\'')
  match cs.drop body.length with
  | [] => none
  | _ :: rest => some ('\'' :: body ++ ['\''], rest)

mutual

/-- The text up to the closing character, and what follows it. The first argument bounds the
length. -/
def enclosed : Nat → Bool → Char → List Char → Option (List Char × List Char)
  | 0, _, _, _ | _, _, _, [] => none
  | bound + 1, isQuoted, close, c :: cs =>
    let keep (taken : List Char) (rest : List Char) :=
      (enclosed bound isQuoted close rest).map fun (body, rest) => (taken ++ body, rest)
    let nested (opening : List Char) (inner : Char)
        (found : Option (List Char × List Char)) :=
      match found with
      | some (body, rest) => keep (opening ++ body ++ [inner]) rest
      | none => none
    if c = close then some ([], cs)
    else match c, cs with
      | '\\', d :: cs => keep ['\\', d] cs
      | '$', '(' :: cs => nested ['$', '('] ')' (inParentheses bound cs)
      | '$', '\x7b' :: cs => nested ['$', '\x7b'] '\x7d' (enclosed bound isQuoted '\x7d' cs)
      | '\x60', cs => nested ['\x60'] '\x60' (enclosed bound false '\x60' cs)
      | '"', cs => nested ['"'] '"' (enclosed bound true '"' cs)
      | '\'', cs =>
        if isQuoted then keep ['\''] cs
        else
          match singleQuoted? cs with
          | some (body, rest) => keep body rest
          | none => none
      | '(', cs =>
        if close = ')' then nested ['('] ')' (enclosed bound false ')' cs) else keep ['('] cs
      | c, cs => keep [c] cs

/-- What stands behind `$(`: arithmetic in two parentheses, or commands. -/
def inParentheses : Nat → List Char → Option (List Char × List Char)
  | 0, _ => none
  | bound + 1, '(' :: cs =>
    match enclosed bound false ')' ('(' :: cs) with
    | some (body, rest) =>
      if body.getLast? = some ')' then some (body, rest) else commandText bound .start ('(' :: cs)
    | none => commandText bound .start ('(' :: cs)
  | bound + 1, cs => commandText bound .start cs

/-- The text of commands up to the parenthesis that closes it, and what follows that. -/
def commandText : Nat → CommandScan → List Char → Option (List Char × List Char)
  | 0, _, _ | _, _, [] => none
  | bound + 1, scan, c :: cs =>
    let keep (taken : List Char) (scan : CommandScan) (rest : List Char) :=
      (commandText bound scan rest).map fun (body, rest) => (taken ++ body, rest)
    let nested (opening : List Char) (inner : Char)
        (found : Option (List Char × List Char)) :=
      match found with
      | some (body, rest) => keep (opening ++ body ++ [inner]) (scan.add inner) rest
      | none => none
    match c, cs with
    | '\\', d :: cs => keep ['\\', d] (scan.add d) cs
    | '$', '(' :: cs => nested ['$', '('] ')' (inParentheses bound cs)
    | '$', '\x7b' :: cs => nested ['$', '\x7b'] '\x7d' (enclosed bound false '\x7d' cs)
    | '\x60', cs => nested ['\x60'] '\x60' (enclosed bound false '\x60' cs)
    | '"', cs => nested ['"'] '"' (enclosed bound true '"' cs)
    | '\'', cs =>
      match singleQuoted? cs with
      | some (body, rest) => keep body (scan.add '\'') rest
      | none => none
    | '#', cs =>
      if scan.word.isEmpty then
        let comment := cs.takeWhile (· != '\n')
        keep ('#' :: comment) scan (cs.drop comment.length)
      else keep ['#'] (scan.add '#') cs
    | '<', '<' :: '<' :: cs => keep ['<', '<', '<'] (scan.pass ' ') cs
    | '<', '<' :: cs =>
      let dash := cs.takeWhile (· == '-')
      let blanks := (cs.drop dash.length).takeWhile isBlank
      let after := cs.drop (dash.length + blanks.length)
      let (ending, rest) := documentEnding after
      let scan := scan.pass ' '
      keep ('<' :: '<' :: cs.take (cs.length - rest.length))
        { scan with documents := scan.documents ++ [(!dash.isEmpty, ending)] } rest
    | '\n', cs =>
      let (body, rest) := documentLines (cs.splitOn '\n') scan.documents
      let text := body.flatMap (· ++ ['\n'])
      let rest := if scan.documents.isEmpty then cs else ['\n'].intercalate rest
      keep ('\n' :: text) { scan.pass '\n' with documents := [] } rest
    | '(', cs =>
      let scan := scan.pass '('
      keep ['('] { scan with opened := true :: scan.opened } cs
    | ')', cs =>
      let scan := scan.pass ')'
      match scan.opened with
      | [] => some ([], cs)
      | true :: opened => keep [')'] { scan with opened } cs
      | false :: _ => keep [')'] scan cs
    | c, cs => if endsWord c then keep [c] (scan.pass c) cs else keep [c] (scan.add c) cs

end

end DtoGen.Script

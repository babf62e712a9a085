import DtoGen.Machine.Script.Word

namespace DtoGen.Script

inductive Token
  | word (word : Word)
  | operator (text : String)
  /-- A redirection sign with the descriptor written in front of it. -/
  | redirect (descriptor : Option Nat) (sign : String)
  /-- The text of a redirection `<<`, in place of the word that ends it. -/
  | document (content : Word) (unclosed : Option UnclosedDocument)
  /-- Arithmetic that stands for a command. -/
  | compute (text : String)
  /-- What stands between `[[` and `]]`. -/
  | criterion (text : String)
  | fault (mark : Char)
deriving DecidableEq, Repr

structure Lexeme where
  token : Token
  line : Nat
  /-- The text behind the token. -/
  rest : List Char
deriving DecidableEq, Repr

def operators (dialect : Dialect) : List String :=
  let plain := [";;", "&&", "||", ";", "|", "\n", "(", ")", "&"]
  match dialect with
  | .plain => plain
  | .extended => [";;&", ";&", "|&"] ++ plain

def signs (dialect : Dialect) : List String :=
  let plain := ["<<-", "<<", ">>", ">&", "<&", "<>", ">|", ">", "<"]
  match dialect with
  | .plain => plain
  | .extended => ["&>>", "&>", "<<<"] ++ plain

/-- The first of the spellings that the text starts with. -/
def spelling? (spellings : List String) (cs : List Char) : Option String :=
  spellings.find? fun s => s.toList.isPrefixOf cs

/-- The text in front of the line that ends a document, the lines behind that line, and whether
there is such a line. Without it the document takes everything. -/
def documentText (stripsTabs : Bool) (ending : List Char) :
    List (List Char) → List Char × List (List Char) × Bool
  | [] => ([], [], false)
  | line :: lines =>
    let line := if stripsTabs then line.dropWhile (· == '\t') else line
    if line = ending then ([], lines, true)
    else if lines.isEmpty then (line, [], false)
    else
      let (body, rest, isClosed) := documentText stripsTabs ending lines
      (line ++ '\n' :: body, rest, isClosed)

/-- A document that starts behind the end of a line. -/
structure Document where
  content : Word
  isClosed : Bool
  ending : String
  /-- The text without the document. -/
  rest : List Char
  lines : Nat

def takeDocument (manner : Manner) (stripsTabs : Bool) (delimiter : Word) (cs : List Char) :
    Document :=
  let text (piece : Piece) : List Char :=
    match piece with
    | .literal text _ => text.toList
    | _ => []
  let isQuoted := delimiter.any fun piece =>
    match piece with
    | .literal _ isQuoted => isQuoted
    | _ => false
  let ending := delimiter.flatMap text
  let line := cs.takeWhile (· != '\n')
  let after := cs.drop (line.length + 1)
  let (body, rest, isClosed) := documentText stripsTabs ending (after.splitOn '\n')
  let content := String.ofList body
  { content := if isQuoted then [.literal content true] else textWord manner .document false content
    isClosed
    ending := String.ofList ending
    rest := line ++ '\n' :: ['\n'].intercalate rest
    lines := (after.splitOn '\n').length - rest.length
      - if !isClosed && (after.getLast?.getD '\n') == '\n' then 1 else 0 }

def countLines (cs : List Char) : Nat :=
  cs.count '\n'

/-- The text up to the brackets that close a conditional command, and what follows them. The first
argument bounds the length. -/
def criterionText : Nat → Char → List Char → Option (List Char × List Char)
  | 0, _, _ | _, _, [] => none
  | bound + 1, before, c :: cs =>
    let keep (taken : List Char) (rest : List Char) :=
      (criterionText bound (taken.getLastD c) rest).map fun (body, rest) => (taken ++ body, rest)
    let nested (opening : List Char) (close : Char) (found : Option (List Char × List Char)) :=
      match found with
      | some (body, rest) => keep (opening ++ body ++ [close]) rest
      | none => none
    let isEnd := c = ']' && (isBlank before || before = '\n') && cs.head? = some ']'
      && cs.tail.head?.all endsWord
    if isEnd then some ([], cs.tail)
    else match c, cs with
      | '\\', d :: cs => keep ['\\', d] cs
      | '$', '(' :: cs => nested ['$', '('] ')' (inParentheses bound cs)
      | '$', '\x7b' :: cs => nested ['$', '\x7b'] '\x7d' (enclosed bound false '\x7d' cs)
      | '\x60', cs => nested ['\x60'] '\x60' (enclosed bound false '\x60' cs)
      | '"', cs => nested ['"'] '"' (enclosed bound true '"' cs)
      | '\'', cs =>
        match singleQuoted? cs with
        | some (body, rest) => keep body rest
        | none => none
      | c, cs => keep [c] cs

/-- Arithmetic in two parentheses, by what follows these. -/
def computeText? (cs : List Char) : Option (List Char × List Char) :=
  match enclosed (cs.length + 1) false ')' cs with
  | some (body, ')' :: rest) => some (body, rest)
  | _ => none

/-- Keywords behind which a command starts. -/
def leadingWords : List String :=
  ["!", "do", "elif", "else", "if", "then", "time", "until", "while", "\x7b", "coproc"]

/-- What may come at a place of a script. -/
inductive Expectation
  | command
  /-- The rest of a command. -/
  | argument
  /-- What a loop runs over. -/
  | variable
deriving DecidableEq

def behindWord (expected : Expectation) (word : Word) : Expectation :=
  match expected, word with
  | .command, [.literal text false] =>
    if leadingWords.contains text then .command
    else if text = "for" then .variable
    else .argument
  | _, _ => .argument

/-- A command that is told apart by how it starts. -/
def special? (manner : Manner) (expected : Expectation) (cs : List Char) :
    Option (Except OpenMark (Token × List Char)) :=
  match manner.dialect, expected, cs with
  | .plain, _, _ | _, .argument, _ => none
  | .extended, _, '(' :: '(' :: cs =>
    (computeText? cs).map fun (body, rest) => .ok (.compute (String.ofList body), rest)
  | .extended, .command, '[' :: '[' :: c :: cs =>
    if isBlank c || c = '\n' then
      match criterionText (cs.length + 2) ' ' (c :: cs) with
      | some (body, rest) => some (.ok (.criterion (String.ofList body), rest))
      | none => some (.ok (.criterion (String.ofList ((c :: cs).takeWhile (· != '\n'))), []))
    else none
  | .extended, _, _ => none

/-- The tokens of a text. The first argument bounds their number; `line` counts from one, and
`hidden` lines come in addition at the next line end. -/
def tokens (manner : Manner) : Nat → Nat → Nat → Expectation → List Char → List Lexeme
  | 0, _, _, _, _ | _, _, _, _, [] => []
  | bound + 1, line, hidden, expected, c :: cs =>
    let go := tokens manner bound
    let fault (mark : OpenMark) : List Lexeme :=
      let upTo := if mark.mark = '\x7d' || manner.dialect == .extended && mark.mark != ')' then
        (c :: cs).take (cs.length + 1 - mark.left) else c :: cs
      [⟨.fault mark.mark, line + countLines upTo, []⟩]
    let redirect (descriptor : Option Nat) (sign : String) (rest : List Char) : List Lexeme :=
      let mark : Lexeme := ⟨.redirect descriptor sign, line, rest⟩
      if sign = "<<" || sign = "<<-" then
        let rest := rest.dropWhile isBlank
        match wordAt { manner with dialect := .plain } rest with
        | .ok ([], rest) => mark :: go line hidden expected rest
        | .ok (delimiter, rest) =>
          let document := takeDocument manner (sign = "<<-") delimiter rest
          let unclosed : Option UnclosedDocument :=
            if document.isClosed then none
            else some ⟨line, line + hidden + document.lines, document.ending⟩
          mark :: ⟨.document document.content unclosed, line, document.rest⟩
            :: go line (hidden + document.lines) expected document.rest
        | .error unclosed => fault unclosed
      else mark :: go line hidden expected rest
    let isProcess := manner.dialect == .extended && (c = '<' || c = '>') && cs.head? = some '('
    if isBlank c then go line hidden expected cs
    else if c = '\\' && cs.head? = some '\n' then go (line + 1 + hidden) 0 expected cs.tail
    else if c = '#' then go line hidden expected (cs.dropWhile (· != '\n'))
    else
    match special? manner expected (c :: cs) with
    | some (.error unclosed) => fault unclosed
    | some (.ok (token, rest)) =>
      let lines := countLines ((c :: cs).take (cs.length + 1 - rest.length))
      ⟨token, line, rest⟩ :: go (line + lines) hidden .argument rest
    | none =>
    match if isProcess then none else spelling? (signs manner.dialect) (c :: cs),
      spelling? (operators manner.dialect) (c :: cs) with
    | some sign, _ => redirect none sign ((c :: cs).drop sign.length)
    | none, some "\n" =>
      ⟨.operator "\n", line + 1 + hidden, cs⟩ :: go (line + 1 + hidden) 0 .command cs
    | none, some text =>
      let rest := (c :: cs).drop text.length
      ⟨.operator text, line, rest⟩ :: go line hidden .command rest
    | none, none =>
      match c.isDigit, spelling? (signs .plain) cs with
      | true, some sign =>
        redirect (some (c.toNat - '0'.toNat)) sign (cs.drop sign.length)
      | _, _ =>
        match wordAt manner (c :: cs) with
        | .ok (word, rest) =>
          let lines := countLines ((c :: cs).take (cs.length + 1 - rest.length))
          ⟨.word word, line, rest⟩ :: go (line + lines) hidden (behindWord expected word) rest
        | .error unclosed => fault unclosed

end DtoGen.Script

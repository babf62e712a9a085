import DtoGen.Machine.Script.Criterion

namespace DtoGen.Script

namespace Grammar

/-- What has been read, and the tokens behind it. -/
abbrev Read (α : Type) := α × List Lexeme

/-- How tokens are read, and the line that the text ends on. -/
structure Setting where
  manner : Manner
  lastLine : Nat

/-- A word that is not quoted and may be a keyword. -/
def keyword? : List Lexeme → Option String
  | ⟨.word [.literal text false], _, _⟩ :: _ => some text
  | _ => none

def startsWith (keyword : String) (tokens : List Lexeme) : Bool :=
  keyword? tokens == some keyword

def isOperator (text : String) (tokens : List Lexeme) : Bool :=
  tokens.head?.any fun lexeme => lexeme.token == .operator text

def skipNewlines (tokens : List Lexeme) : List Lexeme :=
  tokens.dropWhile fun lexeme => lexeme.token == .operator "\n"

def keywords : List String :=
  ["!", "case", "do", "done", "elif", "else", "esac", "fi", "for", "if", "in", "then", "until",
    "while", "\x7b", "\x7d"]

/-- Keywords that only one dialect knows. -/
def extendedKeywords : List String :=
  ["[[", "]]", "function", "select", "time", "coproc"]

def keywordsOf (dialect : Dialect) : List String :=
  match dialect with
  | .plain => keywords
  | .extended => keywords ++ extendedKeywords

/-- Keywords and operators that end a list of commands. -/
def closers : List String :=
  ["then", "do", "elif", "else", "fi", "done", "esac", "\x7d"]

def armEnds : List String :=
  [";;", ";&", ";;&"]

def closes (tokens : List Lexeme) : Bool :=
  tokens.isEmpty || (keyword? tokens).any closers.contains || isOperator ")" tokens
    || armEnds.any fun text => isOperator text tokens

/-- A text with one more quote on each side. -/
def inQuotes (text : String) : String :=
  "\"" ++ text ++ "\""

/-- The text of a word as far as it is known before the word is used. -/
def wordText (word : Word) : String :=
  String.join (word.map fun piece =>
    match piece with
    | .literal text _ => text
    | .parameter reference _ _ => "$" ++ reference.name
    | .element name subscript => name ++ "[" ++ subscript ++ "]"
    | .list text => "(" ++ text ++ ")"
    | .badParameter text | .command text _ | .process text _ | .arithmetic text _ => text)

def tokenName (dialect : Dialect) (token : Token) : String :=
  match dialect, token with
  | _, .operator "\n" => "newline"
  | .plain, .operator text => inQuotes text
  | .plain, .word [.literal text false] =>
    if keywords.contains text then inQuotes text else "word"
  | .plain, .word _ => "word"
  | .plain, _ => "redirection"
  | .extended, .operator text => text
  | .extended, .word word => wordText word
  | .extended, .redirect _ sign => sign
  | .extended, .compute _ => "("
  | .extended, .criterion _ => "[["
  | .extended, _ => "<<"

/-- The name of the variable that a loop sets. One dialect takes any word for it until the loop
runs. -/
def loopName? (dialect : Dialect) (tokens : List Lexeme) : Option String :=
  match dialect, tokens with
  | .plain, tokens => (keyword? tokens).filter fun name => isName name.toList
  | .extended, ⟨.word word, _, _⟩ :: _ => some (wordText word)
  | .extended, _ => none

/-- The line of what comes next. The plain shell is behind a line end already. -/
def lineOf (setting : Setting) (tokens : List Lexeme) : Nat :=
  match tokens with
  | [] => setting.lastLine
  | lexeme :: _ => lexeme.line

def faultLine (setting : Setting) (tokens : List Lexeme) : Nat :=
  if setting.manner.dialect == .extended && isOperator "\n" tokens then
    lineOf setting tokens - 1
  else lineOf setting tokens

/-- The fault of what comes next, where something else is wanted. -/
def unexpected (setting : Setting) (expected : Option String) (tokens : List Lexeme) :
    ScriptFault :=
  let line := faultLine setting tokens
  match tokens with
  | [] => ⟨line, .unexpected none expected⟩
  | ⟨.fault mark, _, _⟩ :: _ => ⟨line, .unclosed mark⟩
  | lexeme :: _ =>
    ⟨line, .unexpected (some (tokenName setting.manner.dialect lexeme.token)) expected⟩

variable (setting : Setting)

def expectKeyword (keyword : String) (tokens : List Lexeme) : Except ScriptFault (List Lexeme) :=
  if startsWith keyword tokens then .ok tokens.tail
  else .error (unexpected setting (some keyword) tokens)

def expectOperator (text : String) (tokens : List Lexeme) : Except ScriptFault (List Lexeme) :=
  if isOperator text tokens then .ok tokens.tail
  else .error (unexpected setting (some text) tokens)

/-- Puts the text of an alias in the place of the name in front. A text that ends in a blank makes
the next word a name as well. The first argument bounds how often names give way to names. -/
def unalias : Nat → List String → List Lexeme → List Lexeme
  | 0, _, tokens => tokens
  | _, _, [] => []
  | bound + 1, seen, first :: rest =>
    match keyword? [first] with
    | none => first :: rest
    | some name =>
      if seen.contains name then first :: rest
      else
        match setting.manner.aliases.lookup name with
        | none => first :: rest
        | some text =>
          let cs := text.toList
          let inner := (tokens setting.manner (cs.length + 1) first.line 0 .command cs).map
            fun lexeme => { lexeme with line := first.line, rest := first.rest }
          let rest := if cs.getLast?.any isBlank then unalias bound seen rest else rest
          unalias bound (name :: seen) (inner ++ rest)

def withoutAlias (tokens : List Lexeme) : List Lexeme :=
  if setting.manner.aliases.isEmpty then tokens else unalias setting 100 [] tokens

def target (sign : String) (name : Word) : Target :=
  match sign with
  | ">>" | "&>>" => .file name .append
  | ">|" => .file name .force
  | "<" | "<>" => .input name
  | "<<<" => .line name
  | ">&" | "<&" => .descriptor name
  | _ => .file name .replace

def defaultDescriptor (sign : String) : Nat :=
  if sign.toList.head? = some '<' then 0 else 1

/-- The standard errors go where the standard output goes. -/
def withErrors : Redirect :=
  ⟨2, .descriptor [.literal "1" false]⟩

def redirect? : List Lexeme → Option (List Redirect × List Lexeme)
  | ⟨.redirect descriptor sign, _, _⟩ :: ⟨.word name, _, _⟩ :: rest =>
    let own : Redirect := ⟨descriptor.getD (defaultDescriptor sign), target sign name⟩
    some (if sign = "&>" || sign = "&>>" then [own, withErrors] else [own], rest)
  | ⟨.redirect descriptor _, _, _⟩ :: ⟨.document content unclosed, _, _⟩ :: rest =>
    some ([⟨descriptor.getD 0, .document content unclosed⟩], rest)
  | _ => none

def redirects : Nat → List Lexeme → Except ScriptFault (Read (List Redirect))
  | 0, tokens => .ok ([], tokens)
  | bound + 1, tokens =>
    match redirect? tokens, tokens with
    | some (first, rest), _ => do
      let (others, rest) ← redirects bound rest
      return (first ++ others, rest)
    | none, ⟨.redirect _ _, _, _⟩ :: rest => .error (unexpected setting none rest)
    | none, _ => .ok ([], tokens)

def assigned? (dialect : Dialect) (name : String) (subscript : Option String) (cs : List Char)
    (rest : Word) : Option Assignment :=
  let value (cs : List Char) : Word :=
    if cs.isEmpty then rest else .literal (String.ofList cs) false :: rest
  match dialect, cs with
  | _, '=' :: cs => some ⟨name, subscript, false, value cs⟩
  | .extended, '+' :: '=' :: cs => some ⟨name, subscript, true, value cs⟩
  | _, _ => none

/-- A name, an equals sign and a value. -/
def assignment? (dialect : Dialect) : Word → Option Assignment
  | .literal text false :: rest =>
    let name := text.toList.takeWhile isNameChar
    if isName name then
      assigned? dialect (String.ofList name) none (text.toList.drop name.length) rest
    else none
  | .element name subscript :: .literal text false :: rest =>
    assigned? dialect name (some subscript) text.toList rest
  | _ => none

def addRedirects (rs : List Redirect) (command : SimpleCommand) : SimpleCommand :=
  { command with redirects := command.redirects ++ rs }

def addWord (dialect : Dialect) (word : Word) (command : SimpleCommand) : SimpleCommand :=
  match command.words, assignment? dialect word with
  | [], some assignment => { command with assignments := command.assignments ++ [assignment] }
  | words, _ => { command with words := words ++ [word] }

def simple : Nat → SimpleCommand → List Lexeme → Except ScriptFault (Read SimpleCommand)
  | 0, command, tokens => .ok (command, tokens)
  | bound + 1, command, tokens =>
    match redirect? tokens, tokens with
    | some (rs, rest), _ => simple bound (addRedirects rs command) rest
    | none, ⟨.redirect _ _, _, _⟩ :: rest => .error (unexpected setting none rest)
    | none, ⟨.word word, _, _⟩ :: rest =>
      simple bound (addWord setting.manner.dialect word command) rest
    | none, _ => .ok (command, tokens)

def isEmptyCommand (command : SimpleCommand) : Bool :=
  command.words.isEmpty && command.assignments.isEmpty && command.redirects.isEmpty

/-- The words of a list up to a line end or a semicolon. -/
def wordList : List Lexeme → List Word × List Lexeme
  | ⟨.word word, _, _⟩ :: rest =>
    let (words, rest) := wordList rest
    (word :: words, rest)
  | tokens => ([], tokens)

/-- The patterns of an arm up to the closing parenthesis. -/
def patterns : List Lexeme → Except ScriptFault (Read (List Word))
  | ⟨.word word, _, _⟩ :: ⟨.operator "|", _, _⟩ :: rest => do
    let (words, rest) ← patterns rest
    return (word :: words, rest)
  | ⟨.word word, _, _⟩ :: rest => do
    return ([word], ← expectOperator setting ")" rest)
  | tokens => .error (unexpected setting (some ")") tokens)

def armEnd? (tokens : List Lexeme) : Option ArmEnd :=
  if isOperator ";;" tokens then some .stop
  else if isOperator ";&" tokens then some .fall
  else if isOperator ";;&" tokens then some .resume
  else none

def append : Script → Script → Script
  | .nothing, second => second
  | first, .nothing => first
  | first, second => .sequence first second

/-- Names of commands that no function can take in one dialect. -/
def specialNames : List String :=
  [ ":", ".", "break", "continue", "eval", "exec", "exit", "export", "local", "readonly", "return",
    "set", "shift", "times", "trap", "unset" ]

def isFunctionName (dialect : Dialect) (name : String) : Bool :=
  match dialect with
  | .plain => isName name.toList && !specialNames.contains name
  | .extended => name != "" && !name.toList.contains '$' && !name.toList.contains '='

/-- The three texts of a loop by arithmetic. -/
def counts? (text : String) : Option (String × String × String) :=
  let (start, rest) := cutAt ';' text.length text.toList
  let (test, step) := cutAt ';' text.length rest.tail
  if rest.isEmpty || step.isEmpty then none
  else some (String.ofList start, String.ofList test, String.ofList step.tail)

/-- A source that hands on its standard errors as well. -/
def withErrorsPiped (line : Nat) : Script → Script
  | .simple command => .simple (addRedirects [withErrors] command)
  | body => .redirected line body [withErrors]

def isCompound (tokens : List Lexeme) : Bool :=
  let first := keyword? tokens
  isOperator "(" tokens
    || first.any ["\x7b", "if", "while", "until", "for", "case", "select"].contains
    || tokens.head?.any fun lexeme => match lexeme.token with
      | .compute _ | .criterion _ => true
      | _ => false

mutual

def command : Nat → List Lexeme → Except ScriptFault (Read Script)
  | 0, tokens => .error (unexpected setting none tokens)
  | bound + 1, tokens => do
    let tokens := withoutAlias setting tokens
    let line := lineOf setting tokens
    let isExtended := setting.manner.dialect == .extended
    let compound (parsed : Except ScriptFault (Read Script)) :
        Except ScriptFault (Read Script) := do
      let (body, rest) ← parsed
      let (rs, rest) ← redirects setting rest.length rest
      return (if rs.isEmpty then body else .redirected line body rs, rest)
    match keyword? tokens with
    | some "if" => compound (conditional bound tokens.tail)
    | some "while" => compound (loop bound true tokens.tail)
    | some "until" => compound (loop bound false tokens.tail)
    | some "for" => compound (each bound Script.each tokens.tail)
    | some "case" => compound (select bound tokens.tail)
    | some "\x7b" =>
      compound do
        let (body, rest) ← body bound "\x7d" tokens.tail
        return (body, ← expectKeyword setting "\x7d" rest)
    | keyword =>
      if isOperator "(" tokens then
        compound do
          let (body, rest) ← body bound ")" tokens.tail
          return (.subshell body, ← expectOperator setting ")" rest)
      else if keyword.any closers.contains then .error (unexpected setting none tokens)
      else if isExtended && keyword = some "function" then define bound tokens.tail
      else if isExtended && keyword = some "select" then
        compound (each bound Script.menu tokens.tail)
      else
        match tokens, isOperator "(" tokens.tail with
        | ⟨.compute text, _, _⟩ :: rest, _ => compound (.ok (.compute line text, rest))
        | ⟨.criterion text, _, _⟩ :: rest, _ =>
          match Reading.criterion setting.manner text with
          | .ok asked => compound (.ok (.criterion line asked, rest))
          | .error cause => .error ⟨line, cause⟩
        | ⟨.word word, _, _⟩ :: _, true =>
          if (assignment? setting.manner.dialect word).isSome then
            .error (unexpected setting none tokens.tail)
          else
            match keyword.filter (isFunctionName setting.manner.dialect), isExtended with
            | some name, _ =>
              let rest ← expectOperator setting ")" (tokens.drop 2)
              functionBody bound name (skipNewlines rest)
            | none, true => .error (unexpected setting none tokens.tail)
            | none, false =>
              let _ ← expectOperator setting ")" (tokens.drop 2)
              throw ⟨line, .badFunctionName⟩
        | _, _ =>
          let (parsed, rest) ← simple setting tokens.length ⟨line, [], [], []⟩ tokens
          if isEmptyCommand parsed || rest.head?.any (fun r => r.token == .operator "(") then
            .error (unexpected setting none rest)
          else return (.simple parsed, rest)

/-- A function behind the keyword. Parentheses may follow the name. -/
def define : Nat → List Lexeme → Except ScriptFault (Read Script)
  | 0, tokens => .error (unexpected setting none tokens)
  | bound + 1, tokens => do
    match keyword? tokens with
    | none => .error (unexpected setting none tokens)
    | some name =>
      let rest := tokens.tail
      let rest :=
        if isOperator "(" rest && isOperator ")" rest.tail then rest.drop 2 else rest
      functionBody bound name (skipNewlines rest)

def functionBody : Nat → String → List Lexeme → Except ScriptFault (Read Script)
  | 0, _, tokens => .error (unexpected setting none tokens)
  | bound + 1, name, tokens => do
    if setting.manner.dialect == .extended && !isCompound tokens then
      throw (unexpected setting none tokens)
    let (body, rest) ← command bound tokens
    return (.define name body, rest)

/-- Commands inside of a compound command, of which there has to be one. -/
def body : Nat → String → List Lexeme → Except ScriptFault (Read Script)
  | 0, _, tokens => .error (unexpected setting none tokens)
  | bound + 1, closer, tokens => do
    let tokens := skipNewlines tokens
    if tokens.isEmpty then .error (unexpected setting (some closer) tokens)
    else if closes tokens then .error (unexpected setting none tokens)
    else commands bound tokens

/-- What follows `if` or `elif`. -/
def conditional : Nat → List Lexeme → Except ScriptFault (Read Script)
  | 0, tokens => .error (unexpected setting none tokens)
  | bound + 1, tokens => do
    let (test, tokens) ← body bound "then" tokens
    let (yes, tokens) ← body bound "fi" (← expectKeyword setting "then" tokens)
    if startsWith "elif" tokens then
      let (no, tokens) ← conditional bound tokens.tail
      return (.choice test yes no, tokens)
    else if startsWith "else" tokens then
      let (no, tokens) ← body bound "fi" tokens.tail
      return (.choice test yes no, ← expectKeyword setting "fi" tokens)
    else return (.choice test yes .nothing, ← expectKeyword setting "fi" tokens)

def loop : Nat → Bool → List Lexeme → Except ScriptFault (Read Script)
  | 0, _, tokens => .error (unexpected setting none tokens)
  | bound + 1, result, tokens => do
    let (test, tokens) ← body bound "do" tokens
    let (repeated, tokens) ← block bound tokens
    return (.loop result test repeated, tokens)

/-- What stands between `do` and `done`. One dialect takes braces as well. -/
def block : Nat → List Lexeme → Except ScriptFault (Read Script)
  | 0, tokens => .error (unexpected setting none tokens)
  | bound + 1, tokens => do
    if setting.manner.dialect == .extended && startsWith "\x7b" tokens then
      let (repeated, tokens) ← body bound "\x7d" tokens.tail
      return (repeated, ← expectKeyword setting "\x7d" tokens)
    else
      let (repeated, tokens) ← body bound "done" (← expectKeyword setting "do" tokens)
      return (repeated, ← expectKeyword setting "done" tokens)

/-- A loop over words behind its keyword; `build` makes it. -/
def each : Nat → (Nat → String → Option (List Word) → Script → Script) → List Lexeme →
    Except ScriptFault (Read Script)
  | 0, _, tokens => .error (unexpected setting none tokens)
  | bound + 1, build, tokens => do
    let line := lineOf setting tokens
    match tokens with
    | ⟨.compute text, _, _⟩ :: tokens =>
      match counts? text with
      | none => .error (unexpected setting none tokens)
      | some (start, test, step) =>
        let tokens := if isOperator ";" tokens then tokens.tail else tokens
        let (repeated, tokens) ← block bound (skipNewlines tokens)
        return (.counted line start test step repeated, tokens)
    | tokens =>
    match loopName? setting.manner.dialect tokens with
    | none =>
      if setting.manner.dialect == .extended then .error (unexpected setting none tokens)
      else .error ⟨line, .badLoopVariable⟩
    | some name =>
      let tokens := skipNewlines tokens.tail
      if startsWith "in" tokens then
        let (words, tokens) := wordList tokens.tail
        if tokens.isEmpty || isOperator ";" tokens || isOperator "\n" tokens then
          let (repeated, tokens) ← block bound (skipNewlines tokens.tail)
          return (build line name (some words) repeated, tokens)
        else .error (unexpected setting none tokens)
      else
        let tokens := if isOperator ";" tokens then tokens.tail else tokens
        let (repeated, tokens) ← block bound (skipNewlines tokens)
        return (build line name none repeated, tokens)

def select : Nat → List Lexeme → Except ScriptFault (Read Script)
  | 0, tokens => .error (unexpected setting none tokens)
  | bound + 1, tokens => do
    match tokens with
    | ⟨.word subject, line, _⟩ :: tokens =>
      let tokens ← expectKeyword setting "in" (skipNewlines tokens)
      let (arms, tokens) ← arms bound (skipNewlines tokens)
      return (.select line subject arms, tokens)
    | tokens => .error (unexpected setting none tokens)

def arms : Nat → List Lexeme → Except ScriptFault (Read (List (List Word × Script × ArmEnd)))
  | 0, tokens => .error (unexpected setting none tokens)
  | bound + 1, tokens => do
    if startsWith "esac" tokens then return ([], tokens.tail)
    else
      let tokens := if isOperator "(" tokens then tokens.tail else tokens
      let (words, tokens) ← patterns setting tokens
      let (body, tokens) ← commands bound tokens
      match armEnd? tokens with
      | some ending =>
        let (others, tokens) ← arms bound (skipNewlines tokens.tail)
        return ((words, body, ending) :: others, tokens)
      | none =>
        if startsWith "esac" tokens then return ([(words, body, .stop)], tokens.tail)
        else .error (unexpected setting (some ";;") tokens)

def pipeline : Nat → List Lexeme → Except ScriptFault (Read Script)
  | 0, tokens => .error (unexpected setting none tokens)
  | bound + 1, tokens => do
    let isExtended := setting.manner.dialect == .extended
    if startsWith "!" tokens then
      if isExtended && (closes tokens.tail || isOperator "\n" tokens.tail) then
        return (.negation .nothing, tokens.tail)
      let (body, tokens) ← pipeline bound tokens.tail
      return (.negation body, tokens)
    else if isExtended && startsWith "time" tokens then
      let rest := tokens.tail
      let rest := if startsWith "-p" rest then rest.tail else rest
      if closes rest || isOperator "\n" rest || isOperator ";" rest then
        return (.timed .nothing, rest)
      else
        let (body, rest) ← pipeline bound rest
        return (.timed body, rest)
    else
      let line := lineOf setting tokens
      let (first, tokens) ← command bound tokens
      if isOperator "|" tokens then
        let (second, tokens) ← pipeline bound (skipNewlines tokens.tail)
        return (.pipe first second, tokens)
      else if isOperator "|&" tokens then
        let (second, tokens) ← pipeline bound (skipNewlines tokens.tail)
        return (.pipe (withErrorsPiped line first) second, tokens)
      else return (first, tokens)

/-- Pipelines joined by `&&` and `||`, from the left. -/
def chain : Nat → Script → List Lexeme → Except ScriptFault (Read Script)
  | 0, _, tokens => .error (unexpected setting none tokens)
  | bound + 1, first, tokens => do
    if isOperator "&&" tokens then
      let (second, tokens) ← pipeline bound (skipNewlines tokens.tail)
      chain bound (.both first second) tokens
    else if isOperator "||" tokens then
      let (second, tokens) ← pipeline bound (skipNewlines tokens.tail)
      chain bound (.either first second) tokens
    else return (first, tokens)

def commandLine : Nat → List Lexeme → Except ScriptFault (Read Script)
  | 0, tokens => .error (unexpected setting none tokens)
  | bound + 1, tokens => do
    let (first, tokens) ← pipeline bound tokens
    let (first, tokens) ← chain bound first tokens
    let isBackground := isOperator "&" tokens
    let first := if isBackground then .background first else first
    if isBackground || isOperator ";" tokens then
      let tokens := tokens.tail
      if closes tokens || isOperator "\n" tokens then return (first, tokens)
      else
        let (others, tokens) ← commandLine bound tokens
        return (.sequence first others, tokens)
    else return (first, tokens)

/-- Command lines up to what closes them. -/
def commands : Nat → List Lexeme → Except ScriptFault (Read Script)
  | 0, tokens => .error (unexpected setting none tokens)
  | bound + 1, tokens => do
    let tokens := skipNewlines tokens
    if closes tokens then return (.nothing, tokens)
    else
      let (first, tokens) ← commandLine bound tokens
      if closes tokens then return (first, tokens)
      else if isOperator "\n" tokens then
        let (others, tokens) ← commands bound tokens
        return (append first others, tokens)
      else .error (unexpected setting none tokens)

end

end Grammar

/-- A text that is being read, from a line on. -/
structure Passage where
  text : List Char
  line : Nat

/-- The tokens of a source that are left, and how they were made. -/
structure Reader where
  setting : Grammar.Setting
  tokens : List Lexeme

namespace Passage

def lastLine (dialect : Dialect) (passage : Passage) : Nat :=
  let ends := countLines passage.text
  match dialect with
  | .plain => passage.line + ends
  | .extended =>
    let isOpen := passage.text.getLast?.any (· != '\n')
    passage.line + ends + if isOpen then 1 else 0

def reader (manner : Manner) (passage : Passage) : Reader where
  setting := ⟨manner, passage.lastLine manner.dialect⟩
  tokens := tokens manner (passage.text.length + 1) passage.line 0 .command passage.text

end Passage

namespace Reader

/-- Cuts the text anew that is left, in front of which a line end stands. -/
def renew (manner : Manner) (reader : Reader) : Reader :=
  match reader.tokens with
  | [] => reader
  | lexeme :: _ =>
    { setting := { reader.setting with manner }
      tokens := Script.tokens manner (lexeme.rest.length + 1) lexeme.line 0 .command lexeme.rest }

/-- The next command line, if there is one. -/
def next? (reader : Reader) : Option (Except ScriptFault (Script × Reader)) :=
  match Grammar.skipNewlines reader.tokens with
  | [] => none
  | tokens =>
    let read : Except ScriptFault (Script × Reader) := do
      let (script, rest) ← Grammar.commandLine reader.setting (16 * tokens.length + 64) tokens
      if rest.isEmpty || Grammar.isOperator "\n" rest then
        return (script, { reader with tokens := rest })
      else throw (Grammar.unexpected reader.setting none rest)
    some read

end Reader

namespace Fault

def plainText : FaultCause → String
  | .unexpected found expected =>
    let wanted :=
      match expected with
      | some text => " (expecting " ++ Grammar.inQuotes text ++ ")"
      | none => ""
    found.getD "end of file" ++ " unexpected" ++ wanted
  | .unclosed '\x7d' => "Missing '\x7d'"
  | .unclosed ')' => "end of file unexpected (expecting \")\")"
  | .unclosed '\x60' => "EOF in backquote substitution"
  | .unclosed _ => "Unterminated quoted string"
  | .badLoopVariable => "Bad for loop variable"
  | .badFunctionName => "Bad function name"
  | .badCriterion message _ => message

def marked (text : String) : String :=
  "\x60" ++ text ++ "'"

/-- The messages about a fault. Those that name what stands there show its line as well. -/
def extendedTexts (sourceLine : String) : FaultCause → List String
  | .unexpected none _ => ["syntax error: unexpected end of file"]
  | .unexpected (some found) _ =>
    ["syntax error near unexpected token " ++ marked found, marked sourceLine]
  | .unclosed mark =>
    ["unexpected EOF while looking for matching " ++ marked (String.singleton mark)]
  | .badLoopVariable | .badFunctionName => ["not a valid identifier"]
  | .badCriterion message near =>
    let first := if message = "" then [] else [message]
    first ++ match near with
      | some text => ["syntax error near " ++ marked text, marked sourceLine]
      | none => []

def messages (dialect : Dialect) (passage : Passage) (fault : ScriptFault) : List String :=
  match dialect with
  | .plain => ["Syntax error: " ++ plainText fault.cause]
  | .extended =>
    let line := (passage.text.splitOn '\n')[fault.line - passage.line]?
    extendedTexts (String.ofList (line.getD [])) fault.cause

end Fault

end DtoGen.Script

import DtoGen.Machine.Awk.Token

namespace DtoGen.Awk

/-- Where a text stops being a program. -/
structure Fault where
  line : Nat
  message : String
deriving DecidableEq, Repr

abbrev Parse (α : Type) := StateT (List Lexeme) (Except Fault) α

namespace Parse

def peek? : Parse (Option Token) := do
  return (← get).head?.map Lexeme.token

def isSign (text : String) : Parse Bool := do
  return (← peek?) == some (.sign text)

def isKeyword (text : String) : Parse Bool := do
  return (← peek?) == some (.keyword text)

def skip : Parse Unit :=
  modify List.tail

/-- Tells that what comes next does not fit. -/
def refuse {α : Type} : Parse α := do
  match ← get with
  | [] => throw ⟨0, "syntax error at or near end of file"⟩
  | ⟨.fault message, line⟩ :: _ => throw ⟨line, message⟩
  | ⟨.newline, line⟩ :: _ => throw ⟨line, "unexpected newline near"⟩
  | ⟨token, line⟩ :: _ => throw ⟨line, "syntax error at or near " ++ token.shown⟩

def expectSign (text : String) : Parse Unit := do
  if ← isSign text then skip
  else
    match ← get with
    | [] => throw ⟨0, "missing " ++ text ++ " near end of file"⟩
    | _ => refuse

def takeSign (text : String) : Parse Bool := do
  if ← isSign text then
    skip
    return true
  else return false

def skipNewlines : Parse Unit :=
  modify fun tokens => tokens.dropWhile fun lexeme => lexeme.token == .newline

def skipEnds : Parse Unit :=
  modify fun tokens => tokens.dropWhile fun lexeme =>
    lexeme.token == .newline || lexeme.token == .sign ";"

def takeName : Parse String := do
  match ← peek? with
  | some (.name text) =>
    skip
    return text
  | _ => refuse

end Parse

open Parse

def isTarget : Expression → Bool
  | .variable _ | .field _ | .element _ _ => true
  | _ => false

def assignmentSigns : List (String × Option Operator) :=
  [ ("=", none), ("+=", some .add), ("-=", some .subtract), ("*=", some .multiply),
    ("/=", some .divide), ("%=", some .modulo), ("^=", some .power) ]

def comparisonSigns : List (String × Comparison) :=
  [ ("<", .less), ("<=", .atMost), ("==", .equal), ("!=", .different), (">", .greater),
    (">=", .atLeast) ]

/-- What may stand around an expression. -/
structure Place where
  /-- Whether a sign for greater compares. -/
  compares : Bool
  /-- Whether the keyword `in` asks for a key. -/
  asksKeys : Bool

def Place.free : Place :=
  ⟨true, true⟩

/-- Whether a token can start the right part of two that are joined. -/
def startsOperand : Token → Bool
  | .number _ | .text _ | .pattern _ | .name _ | .called _ | .builtin _ => true
  | .sign text => ["$", "!", "(", "-", "+", "++", "--"].contains text
  | _ => false

def joinsWith : Token → Bool
  | .sign text => ["$", "(", "!", "++", "--"].contains text
  | token => startsOperand token

mutual

/-- A list of expressions with commas between them. The first argument of each reader bounds the
depth. -/
def expressions (bound : Nat) (place : Place) : Parse (List Expression) :=
  match bound with
  | 0 => refuse
  | bound + 1 => do
    let first ← expression bound place
    if ← takeSign "," then
      skipNewlines
      return first :: (← expressions bound place)
    else return [first]

def expression (bound : Nat) (place : Place) : Parse Expression :=
  match bound with
  | 0 => refuse
  | bound + 1 => do
    let left ← conditional bound place
    match ← peek? with
    | some (.sign text) =>
      match assignmentSigns.lookup text, isTarget left with
      | some operator, true =>
        skip
        skipNewlines
        return .assign left operator (← expression bound place)
      | _, _ => return left
    | _ => return left

def conditional (bound : Nat) (place : Place) : Parse Expression :=
  match bound with
  | 0 => refuse
  | bound + 1 => do
    let test ← alternatives bound place
    if ← takeSign "?" then
      skipNewlines
      let yes ← expression bound place
      skipNewlines
      expectSign ":"
      skipNewlines
      return .choice test yes (← expression bound place)
    else return test

def alternatives (bound : Nat) (place : Place) : Parse Expression :=
  match bound with
  | 0 => refuse
  | bound + 1 => do
    let left ← conjunction bound place
    if ← takeSign "||" then
      skipNewlines
      return .either left (← alternatives bound place)
    else return left

def conjunction (bound : Nat) (place : Place) : Parse Expression :=
  match bound with
  | 0 => refuse
  | bound + 1 => do
    let left ← membership bound place
    if ← takeSign "&&" then
      skipNewlines
      return .both left (← conjunction bound place)
    else return left

def membership (bound : Nat) (place : Place) : Parse Expression :=
  match bound with
  | 0 => refuse
  | bound + 1 => do memberships bound place (← matching bound place)

def memberships (bound : Nat) (place : Place) (left : Expression) : Parse Expression :=
  match bound with
  | 0 => refuse
  | bound + 1 => do
    if place.asksKeys && (← isKeyword "in") then
      skip
      let table ← takeName
      let keys := match left with
        | .group members => members
        | left => [left]
      memberships bound place (.isIn keys table)
    else return left

def matching (bound : Nat) (place : Place) : Parse Expression :=
  match bound with
  | 0 => refuse
  | bound + 1 => do matchings bound place (← comparison bound place)

def matchings (bound : Nat) (place : Place) (left : Expression) : Parse Expression :=
  match bound with
  | 0 => refuse
  | bound + 1 => do
    if ← takeSign "~" then
      matchings bound place (.fits left (← comparison bound place) false)
    else if ← takeSign "!~" then
      matchings bound place (.fits left (← comparison bound place) true)
    else return left

def comparison (bound : Nat) (place : Place) : Parse Expression :=
  match bound with
  | 0 => refuse
  | bound + 1 => do
    let left ← commandReading bound place
    match ← peek? with
    | some (.sign text) =>
      match comparisonSigns.lookup text with
      | none => return left
      | some comparison =>
        if comparison = .greater && !place.compares then return left
        else
          skip
          return .compare comparison left (← commandReading bound place)
    | _ => return left

/-- Values that are joined, and commands whose output is read. -/
def commandReading (bound : Nat) (place : Place) : Parse Expression :=
  match bound with
  | 0 => refuse
  | bound + 1 => do readings bound place (← joining bound place)

def readings (bound : Nat) (place : Place) (left : Expression) : Parse Expression :=
  match bound with
  | 0 => refuse
  | bound + 1 => do
    match ← get with
    | ⟨.sign "|", _⟩ :: ⟨.keyword "getline", _⟩ :: _ =>
      skip
      skip
      let target ← readTarget bound
      readings bound place (.readCommand target left)
    | _ => return left

/-- What a reader of records gives its record to. -/
def readTarget (bound : Nat) : Parse (Option Expression) :=
  match bound with
  | 0 => refuse
  | bound + 1 => do
    match ← peek? with
    | some (.sign "$") | some (.name _) => return some (← postfixed bound)
    | _ => return none

def joining (bound : Nat) (place : Place) : Parse Expression :=
  match bound with
  | 0 => refuse
  | bound + 1 => do joinings bound place (← sum bound place)

def joinings (bound : Nat) (place : Place) (left : Expression) : Parse Expression :=
  match bound with
  | 0 => refuse
  | bound + 1 => do
    match ← peek? with
    | some token =>
      if joinsWith token then joinings bound place (.joined left (← sum bound place))
      else return left
    | none => return left

def sum (bound : Nat) (place : Place) : Parse Expression :=
  match bound with
  | 0 => refuse
  | bound + 1 => do sums bound place (← product bound place)

def sums (bound : Nat) (place : Place) (left : Expression) : Parse Expression :=
  match bound with
  | 0 => refuse
  | bound + 1 => do
    if ← takeSign "+" then sums bound place (.arithmetic .add left (← product bound place))
    else if ← takeSign "-" then
      sums bound place (.arithmetic .subtract left (← product bound place))
    else return left

def product (bound : Nat) (place : Place) : Parse Expression :=
  match bound with
  | 0 => refuse
  | bound + 1 => do products bound place (← unary bound place)

def products (bound : Nat) (place : Place) (left : Expression) : Parse Expression :=
  match bound with
  | 0 => refuse
  | bound + 1 => do
    if ← takeSign "*" then products bound place (.arithmetic .multiply left (← unary bound place))
    else if ← takeSign "/" then
      products bound place (.arithmetic .divide left (← unary bound place))
    else if ← takeSign "%" then
      products bound place (.arithmetic .modulo left (← unary bound place))
    else return left

def unary (bound : Nat) (place : Place) : Parse Expression :=
  match bound with
  | 0 => refuse
  | bound + 1 => do
    if ← takeSign "!" then return .not (← unary bound place)
    else if ← takeSign "-" then return .negative (← unary bound place)
    else if ← takeSign "+" then return .positive (← unary bound place)
    else powers bound place

def powers (bound : Nat) (place : Place) : Parse Expression :=
  match bound with
  | 0 => refuse
  | bound + 1 => do
    let base ← postfixed bound
    if ← takeSign "^" then return .arithmetic .power base (← unary bound place)
    else return base

def postfixed (bound : Nat) : Parse Expression :=
  match bound with
  | 0 => refuse
  | bound + 1 => do
    let operand ← primary bound
    if isTarget operand then
      if ← takeSign "++" then return .step operand true false
      else if ← takeSign "--" then return .step operand false false
      else return operand
    else return operand

def argumentList (bound : Nat) : Parse (List Expression) :=
  match bound with
  | 0 => refuse
  | bound + 1 => do
    expectSign "("
    skipNewlines
    if ← takeSign ")" then return []
    else
      let arguments ← expressions bound .free
      skipNewlines
      expectSign ")"
      return arguments

def primary (bound : Nat) : Parse Expression :=
  match bound with
  | 0 => refuse
  | bound + 1 => do
    match ← peek? with
    | some (.number value) =>
      skip
      return .number value
    | some (.text bs) =>
      skip
      return .text bs
    | some (.pattern source) =>
      skip
      return .pattern source
    | some (.sign "$") =>
      skip
      if ← takeSign "++" then return .field (.step (← primary bound) true true)
      else if ← takeSign "--" then return .field (.step (← primary bound) false true)
      else if ← takeSign "-" then return .field (.negative (← primary bound))
      else return .field (← primary bound)
    | some (.sign "++") =>
      skip
      return .step (← primary bound) true true
    | some (.sign "--") =>
      skip
      return .step (← primary bound) false true
    | some (.sign "!") =>
      skip
      return .not (← unary bound .free)
    | some (.sign "-") =>
      skip
      return .negative (← unary bound .free)
    | some (.sign "(") =>
      skip
      skipNewlines
      let members ← expressions bound .free
      skipNewlines
      expectSign ")"
      return .group members
    | some (.name text) =>
      skip
      if ← takeSign "[" then
        let keys ← expressions bound .free
        expectSign "]"
        return .element text keys
      else return .variable text
    | some (.called text) =>
      skip
      return .call text (← argumentList bound)
    | some (.builtin text) =>
      skip
      if ← isSign "(" then return .builtin text (← argumentList bound)
      else if text = "length" then return .builtin text []
      else refuse
    | some (.keyword "getline") =>
      skip
      let target ← readTarget bound
      if ← takeSign "<" then return .readFile target (← postfixed bound)
      else return .readNext target
    | _ => refuse

end

/-- The values to print. Parentheses around all of them are no part of a value. -/
def printed (bound : Nat) : Parse (List Expression) := do
  match ← peek? with
  | none | some .newline | some (.sign ";") | some (.sign "\x7d") | some (.sign ">")
  | some (.sign ">>") | some (.sign "|") => return []
  | _ =>
    match ← expressions bound ⟨false, true⟩ with
    | [.group members] => return members
    | values => return values

def outlet (bound : Nat) : Parse Outlet := do
  if ← takeSign ">" then return .file (← expression bound ⟨false, true⟩)
  else if ← takeSign ">>" then return .append (← expression bound ⟨false, true⟩)
  else if ← takeSign "|" then return .command (← expression bound ⟨false, true⟩)
  else return .standard

def statementEnd : Parse Unit := do
  match ← peek? with
  | none | some (.sign "\x7d") => return ()
  | some .newline | some (.sign ";") => skipEnds
  | _ => refuse

def hasValue : Parse Bool := do
  match ← peek? with
  | none | some .newline | some (.sign ";") | some (.sign "\x7d") => return false
  | _ => return true

/-- A statement that needs nothing behind it. -/
def simpleStatement (bound : Nat) : Parse Statement := do
  match ← peek? with
  | some (.keyword "print") =>
    skip
    let values ← printed bound
    return .print values (← outlet bound)
  | some (.keyword "printf") =>
    skip
    let values ← printed bound
    if values.isEmpty then refuse else return .printf values (← outlet bound)
  | some (.keyword "delete") =>
    skip
    let table ← takeName
    if ← takeSign "[" then
      let keys ← expressions bound .free
      expectSign "]"
      return .delete table (some keys)
    else return .delete table none
  | _ => return .evaluate (← expression bound .free)

mutual

def statement (bound : Nat) : Parse Statement :=
  match bound with
  | 0 => refuse
  | bound + 1 => do
    let ended (s : Statement) : Parse Statement := do
      statementEnd
      return s
    let valued (build : Option Expression → Statement) : Parse Statement := do
      skip
      if ← hasValue then
        let value ← expression bound .free
        ended (build (some value))
      else ended (build none)
    match ← peek? with
    | some (.sign "\x7b") => block bound
    | some (.sign ";") =>
      skipEnds
      return .block []
    | some (.keyword "if") =>
      skip
      expectSign "("
      let test ← expression bound .free
      expectSign ")"
      skipNewlines
      let yes ← statement bound
      skipEndsBeforeElse
      if ← isKeyword "else" then
        skip
        skipNewlines
        return .branch test yes (some (← statement bound))
      else return .branch test yes none
    | some (.keyword "while") =>
      skip
      expectSign "("
      let test ← expression bound .free
      expectSign ")"
      if ← isSign ";" then
        skipEnds
        return .loop (some test) none (.block [])
      else
        skipNewlines
        return .loop (some test) none (← statement bound)
    | some (.keyword "do") =>
      skip
      skipNewlines
      let body ← statement bound
      skipEnds
      if ← isKeyword "while" then
        skip
        expectSign "("
        let test ← expression bound .free
        expectSign ")"
        ended (.lateLoop body test)
      else refuse
    | some (.keyword "for") =>
      skip
      expectSign "("
      forLoop bound
    | some (.keyword "next") =>
      skip
      ended .next
    | some (.keyword "nextfile") =>
      skip
      ended .nextFile
    | some (.keyword "break") =>
      skip
      ended .leave
    | some (.keyword "continue") =>
      skip
      ended .again
    | some (.keyword "exit") => valued .exit
    | some (.keyword "return") => valued .back
    | _ => ended (← simpleStatement bound)

def forLoop (bound : Nat) : Parse Statement :=
  match bound with
  | 0 => refuse
  | bound + 1 => do
    match ← get with
    | ⟨.name name, _⟩ :: ⟨.keyword "in", _⟩ :: ⟨.name table, _⟩ :: ⟨.sign ")", _⟩ :: rest =>
      set rest
      skipNewlines
      return .each name table (← statement bound)
    | _ =>
      let start ← if ← isSign ";" then pure none else some <$> simpleStatement bound
      expectSign ";"
      skipNewlines
      let test ← if ← isSign ";" then pure none else some <$> expression bound .free
      expectSign ";"
      skipNewlines
      let step ← if ← isSign ")" then pure none else some <$> simpleStatement bound
      expectSign ")"
      if ← isSign ";" then
        skipEnds
        return .block (start.toList ++ [.loop test step (.block [])])
      else
        skipNewlines
        let body ← statement bound
        return .block (start.toList ++ [.loop test step body])

/-- Line ends give way to `else` only if it follows. -/
def skipEndsBeforeElse : Parse Unit := do
  let rest := (← get).dropWhile fun lexeme =>
    lexeme.token == .newline || lexeme.token == .sign ";"
  if rest.head?.any fun lexeme => lexeme.token == .keyword "else" then set rest

def block (bound : Nat) : Parse Statement :=
  match bound with
  | 0 => refuse
  | bound + 1 => do
    expectSign "\x7b"
    skipEnds
    let statements ← statementsOf bound
    expectSign "\x7d"
    -- a statement in braces may end without anything behind it
    if (← isSign ";") || (← peek?) == some .newline then skipEnds
    return .block statements

def statementsOf (bound : Nat) : Parse (List Statement) :=
  match bound with
  | 0 => refuse
  | bound + 1 => do
    skipEnds
    if (← isSign "\x7d") || (← get).isEmpty then return []
    else
      let first ← statement bound
      return first :: (← statementsOf bound)

end

def depthLimit : Nat := 400

def parameterNames : Nat → Parse (List String)
  | 0 => refuse
  | bound + 1 => do
    skipNewlines
    if ← takeSign ")" then return []
    else
      let name ← takeName
      if ← takeSign "," then return name :: (← parameterNames bound)
      else
        skipNewlines
        expectSign ")"
        return [name]

def function (bound : Nat) : Parse (String × Function) := do
  let name ← match ← peek? with
    | some (.called text) | some (.name text) =>
      skip
      pure text
    | _ => refuse
  expectSign "("
  let parameters ← parameterNames 1000
  skipNewlines
  return (name, ⟨parameters, ← block bound⟩)

def condition (bound : Nat) : Parse Condition := do
  match ← peek? with
  | some (.keyword "BEGIN") =>
    skip
    return .atStart
  | some (.keyword "END") =>
    skip
    return .atEnd
  | some (.sign "\x7b") => return .always
  | _ =>
    let first ← expression bound .free
    if ← takeSign "," then
      skipNewlines
      return .between first (← expression bound .free)
    else return .when first

def rule (bound : Nat) : Parse Rule := do
  let condition ← condition bound
  if ← isSign "\x7b" then return ⟨condition, some (← block bound)⟩
  else
    match condition with
    | .atStart | .atEnd => refuse
    | condition =>
      match ← peek? with
      | none | some .newline | some (.sign ";") => return ⟨condition, none⟩
      | _ => refuse

/-- Rules and functions. The first argument bounds their number. -/
def items : Nat → Program → Parse Program
  | 0, program => return program
  | bound + 1, program => do
    skipEnds
    if (← get).isEmpty then return program
    else if ← isKeyword "function" then
      skip
      let own ← function depthLimit
      items bound { program with functions := program.functions ++ [own] }
    else
      let own ← rule depthLimit
      items bound { program with rules := program.rules ++ [own] }

def parse (text : String) : Except Fault Program :=
  let lexemes := tokensOf text
  let lastLine := (text.toList.filter (· == '\n')).length + 1
  match (items (lexemes.length + 1) ⟨[], []⟩).run lexemes with
  | .ok (program, _) => .ok program
  | .error fault => .error (if fault.line = 0 then { fault with line := lastLine } else fault)

end DtoGen.Awk

import DtoGen.Machine.Condition.File
import DtoGen.Machine.Expansion.Parameter
import DtoGen.Machine.ShellOption

namespace DtoGen.Condition

def fileOperators : List String :=
  [ "-r", "-w", "-x", "-e", "-f", "-d", "-c", "-b", "-p", "-u", "-g", "-k", "-s", "-h", "-O", "-G",
    "-L", "-S" ]

def unaryOperators (dialect : Dialect) : List String :=
  fileOperators ++ ["-t", "-z", "-n"] ++
    match dialect with
    | .plain => []
    | .extended => ["-a", "-N", "-o", "-v", "-R"]

def binaryOperators (dialect : Dialect) : List String :=
  ["=", "!=", "<", ">", "-eq", "-ne", "-ge", "-gt", "-le", "-lt", "-nt", "-ot", "-ef"] ++
    match dialect with
    | .plain => []
    | .extended => ["=="]

def isUnary (dialect : Dialect) (text : String) : Bool :=
  (unaryOperators dialect).contains text

def isBinary (dialect : Dialect) (text : String) : Bool :=
  (binaryOperators dialect).contains text

def noNumber (dialect : Dialect) (text : String) : String :=
  match dialect with
  | .plain => "Illegal number: " ++ text
  | .extended => text ++ ": integer expression expected"

def largest : Int := 9223372036854775807

def integer? (dialect : Dialect) (text : String) : Except String Int :=
  let trimmed := (text.toList.dropWhile (·.isWhitespace)).reverse.dropWhile (·.isWhitespace)
  let digits := trimmed.reverse
  let digits := if digits.head? = some '+' then digits.drop 1 else digits
  match (String.ofList digits).toInt? with
  | some i =>
    if digits.contains '_' || largest < i || i < -largest - 1 then .error (noNumber dialect text)
    else .ok i
  | none => .error (noNumber dialect text)

/-- The order of two numbers, by the name of the operator. -/
def holdsOfNumbers (operator : String) (a b : Int) : Bool :=
  match operator with
  | "-eq" => a == b
  | "-ne" => a != b
  | "-ge" => decide (a ≥ b)
  | "-gt" => decide (a > b)
  | "-le" => decide (a ≤ b)
  | _ => decide (a < b)

variable (shell : Shell)

def compare (operator left right : String) : Except String Bool := do
  match operator with
  | "=" | "==" => return left == right
  | "!=" => return left != right
  | "<" => return left < right
  | ">" => return right < left
  | "-nt" | "-ot" | "-ef" => return holdsOfFiles shell operator left right
  | _ =>
    let a ← integer? shell.dialect left
    let b ← integer? shell.dialect right
    return holdsOfNumbers operator a b

/-- Whether the text names a variable, or one of its values, that is set. -/
def isSet (text : String) : Bool :=
  match Script.reference? .extended text.toList with
  | some (⟨name, none, _⟩, []) => (shell.parameter? name).isSome
  | some (⟨name, some subscript, _⟩, []) =>
    if subscript = "@" || subscript = "*" then !(shell.elementsOf name).isEmpty
    else (shell.elementOf name subscript).1.isSome
  | _ => false

def isOn (name : String) : Bool :=
  ((ShellOption.names shell.dialect).lookup name).any fun letter => shell.hasOption letter

def holdsOf (operator operand : String) : Except String Bool :=
  match operator with
  | "-z" => .ok (operand == "")
  | "-n" => .ok (operand != "")
  | "-t" =>
    match shell.dialect with
    | .plain => (integer? .plain operand).map fun _ => false
    | .extended => .ok false
  | "-v" => .ok (isSet shell operand)
  | "-o" => .ok (isOn shell operand)
  | "-R" => .ok (shell.hasAttribute 'n' operand)
  | operator => .ok (holdsOfFile shell operator operand)

/-- Whether the operator that stands first is an operand after all. -/
def isOperand (behind : List String) : Bool :=
  match behind with
  | [] => true
  | [_] => false
  | next :: _ => isBinary .plain next

/-- A value, the last word that was used for it, and the words behind. -/
structure Outcome where
  value : Bool
  last : String
  rest : List String

abbrev Read := Except String Outcome

mutual

/-- Alternatives. The first argument of each reader bounds the number of words. -/
def anyOf : Nat → List String → Read
  | 0, _ => .ok ⟨false, "", []⟩
  | bound + 1, words => do
    let first ← allOf bound words
    match first.rest with
    | "-o" :: rest =>
      let second ← anyOf bound rest
      return { second with value := first.value || second.value }
    | _ => return first

def allOf : Nat → List String → Read
  | 0, _ => .ok ⟨false, "", []⟩
  | bound + 1, words => do
    let first ← denial bound words
    match first.rest with
    | "-a" :: rest =>
      let second ← allOf bound rest
      return { second with value := first.value && second.value }
    | _ => return first

def denial : Nat → List String → Read
  | 0, _ => .ok ⟨false, "", []⟩
  | bound + 1, words => do
    match words with
    | "!" :: rest =>
      if isOperand rest then primary bound words
      else
        let body ← denial bound rest
        return { body with value := !body.value }
    | _ => primary bound words

def primary : Nat → List String → Read
  | 0, _ => .ok ⟨false, "", []⟩
  | bound + 1, words => do
    match words with
    | [] => return ⟨false, "", []⟩
    | "(" :: second :: rest =>
      if second = ")" then return ⟨false, second, rest⟩
      else
        let body ← anyOf bound (second :: rest)
        match body.rest with
        | ")" :: rest => return { body with last := ")", rest }
        | _ => throw "closing paren expected"
    | first :: second :: rest =>
      if isUnary .plain first && !isOperand (second :: rest) then
        return ⟨← holdsOf shell first second, second, rest⟩
      else if isBinary .plain second then
        match rest with
        | [] => throw (second ++ ": argument expected")
        | right :: rest => return ⟨← compare shell second first right, right, rest⟩
      else return ⟨first != "", first, second :: rest⟩
    | [word] => return ⟨word != "", word, []⟩

end

/-- Nothing may be left over. -/
def whole (outcome : Outcome) : Except String Bool :=
  if outcome.rest.isEmpty then .ok outcome.value
  else .error (outcome.last ++ ": unexpected operator")

/-- Three words with an operator in the middle are a comparison whatever they look like. -/
def evaluatePlain (words : List String) : Except String Bool := do
  let bound := 8 * words.length + 8
  match words with
  | [] => return false
  | [left, operator, right] =>
    if isBinary .plain operator then compare shell operator left right
    else if left = "!" then return !(← whole (← anyOf shell bound [operator, right]))
    else if left = "(" && right = ")" then whole (← anyOf shell bound [operator])
    else whole (← anyOf shell bound words)
  | "!" :: rest =>
    if rest.length = 3 then
      match rest with
      | [left, operator, right] =>
        if isBinary .plain operator then return !(← compare shell operator left right)
        else return !(← whole (← anyOf shell bound rest))
      | _ => return false
    else whole (← anyOf shell bound words)
  | _ => whole (← anyOf shell bound words)

mutual

/-- Alternatives, with the words that are left. The first argument bounds the number of words. -/
def anyTerm : Nat → List String → Except String (Bool × List String)
  | 0, _ => .ok (false, [])
  | bound + 1, words => do
    let (first, rest) ← everyTerm bound words
    match rest with
    | "-o" :: rest =>
      let (second, rest) ← anyTerm bound rest
      return (first || second, rest)
    | _ => return (first, rest)

def everyTerm : Nat → List String → Except String (Bool × List String)
  | 0, _ => .ok (false, [])
  | bound + 1, words => do
    let (first, rest) ← term bound words
    match rest with
    | "-a" :: rest =>
      let (second, rest) ← everyTerm bound rest
      return (first && second, rest)
    | _ => return (first, rest)

def term : Nat → List String → Except String (Bool × List String)
  | 0, _ => .ok (false, [])
  | bound + 1, words => do
    match words with
    | [] => throw "argument expected"
    | "!" :: rest =>
      let (value, rest) ← term bound rest
      return (!value, rest)
    | "(" :: rest =>
      let (value, rest) ← anyTerm bound rest
      match rest with
      | ")" :: rest => return (value, rest)
      | [] => throw "\x60)' expected, found ]"
      | found :: _ => throw ("\x60)' expected, found " ++ found)
    | left :: operator :: right :: rest =>
      if isBinary .extended operator then return (← compare shell operator left right, rest)
      else if isUnary .extended left then
        return (← holdsOf shell left operator, right :: rest)
      else return (left != "", operator :: right :: rest)
    | [left, right] =>
      if isUnary .extended left then return (← holdsOf shell left right, [])
      else return (left != "", [right])
    | [word] => return (word != "", [])

end

def evaluateWhole (words : List String) : Except String Bool := do
  let (value, rest) ← anyTerm shell (8 * words.length + 8) words
  if rest.isEmpty then return value else throw "too many arguments"

def evaluateTwo (first second : String) : Except String Bool :=
  if first = "!" then .ok (second == "")
  else if isUnary .extended first then holdsOf shell first second
  else .error (first ++ ": unary operator expected")

def evaluateThree (first second third : String) : Except String Bool :=
  if isBinary .extended second then compare shell second first third
  else if second = "-a" then .ok (first != "" && third != "")
  else if second = "-o" then .ok (first != "" || third != "")
  else if first = "!" then (evaluateTwo shell second third).map (!·)
  else if first = "(" && third = ")" then .ok (second != "")
  else .error (second ++ ": binary operator expected")

/-- Up to four words are told apart by their number. -/
def evaluateExtended (words : List String) : Except String Bool :=
  match words with
  | [] => .ok false
  | [word] => .ok (word != "")
  | [first, second] => evaluateTwo shell first second
  | [first, second, third] => evaluateThree shell first second third
  | [first, second, third, fourth] =>
    if first = "!" then (evaluateThree shell second third fourth).map (!·)
    else if first = "(" && fourth = ")" then evaluateTwo shell second third
    else evaluateWhole shell words
  | words => evaluateWhole shell words

def evaluate (words : List String) : Except String Bool :=
  match shell.dialect with
  | .plain => evaluatePlain shell words
  | .extended => evaluateExtended shell words

end DtoGen.Condition

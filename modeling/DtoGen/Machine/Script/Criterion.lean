import DtoGen.Machine.Script.Token

namespace DtoGen.Script.Reading

def unaryOperators : List String :=
  [ "-a", "-b", "-c", "-d", "-e", "-f", "-g", "-h", "-k", "-n", "-o", "-p", "-r", "-s", "-t", "-u",
    "-v", "-w", "-x", "-z", "-G", "-L", "-N", "-O", "-R", "-S" ]

def binaryOperators : List String :=
  [ "=", "==", "!=", "=~", "-eq", "-ne", "-lt", "-le", "-gt", "-ge", "-nt", "-ot", "-ef" ]

inductive Item
  | word (word : Word)
  | sign (text : String)
deriving DecidableEq, Repr

def signs : List String :=
  ["&&", "||", "(", ")", "<", ">"]

def skipSpace (cs : List Char) : List Char :=
  cs.dropWhile fun c => isBlank c || c == '\n'

/-- The next word or sign, if there is one. -/
def next? (manner : Manner) (frame : Frame) (cs : List Char) : Option (Item × List Char) :=
  let cs := skipSpace cs
  if cs.isEmpty then none
  else
    match if frame = .expression then none else spelling? signs cs with
    | some sign => some (.sign sign, cs.drop sign.length)
    | none =>
      match pieces { manner with hasPatternLists := true } (cs.length + 1) frame false 0 cs with
      | .ok ([], _) => none
      | .ok (word, rest) => some (.word word, rest)
      | .error _ => none

def plainText? : Word → Option String
  | [.literal text false] => some text
  | _ => none

/-- How a message shows what comes next. -/
def shown (manner : Manner) (cs : List Char) : String :=
  match next? manner .word cs with
  | none => "]]"
  | some (.sign text, _) => text
  | some (.word _, rest) =>
    let cs := skipSpace cs
    String.ofList (cs.take (cs.length - rest.length))

abbrev Read := Except FaultCause (Criterion × List Char)

variable (manner : Manner)

def operand (kind : String) (cs : List Char) (frame : Frame) :
    Except FaultCause (Word × List Char) :=
  match next? manner frame cs with
  | some (.word word, rest) => .ok (word, rest)
  | _ =>
    let found := shown manner cs
    .error (.badCriterion
      ("unexpected argument \x60" ++ found ++ "' to conditional " ++ kind ++ " operator")
      (some found))

def binary (left : Word) (operator : String) (rest : List Char) : Read := do
  let frame : Frame := if operator = "=~" then .expression else .word
  let (right, rest) ← operand manner "binary" rest frame
  return (.binary operator left right, rest)

/-- A word alone, or one with an operator and another word. -/
def comparison (left : Word) (cs : List Char) : Read :=
  match next? manner .word cs with
  | none => .ok (.holds left, cs)
  | some (.sign sign, rest) =>
    if sign = "<" || sign = ">" then binary manner left sign rest
    else if sign = "(" then
      .error (.badCriterion "conditional binary operator expected" (some sign))
    else .ok (.holds left, cs)
  | some (.word operator, rest) =>
    match (plainText? operator).filter binaryOperators.contains with
    | some operator => binary manner left operator rest
    | none =>
      .error (.badCriterion "conditional binary operator expected" (some (shown manner cs)))

mutual

/-- Alternatives. The first argument of each reader bounds the length. -/
def anyOf : Nat → List Char → Read
  | 0, _ => .error (.badCriterion "" none)
  | bound + 1, cs => do
    let (first, rest) ← allOf bound cs
    match next? manner .word rest with
    | some (.sign "||", rest) =>
      let (second, rest) ← anyOf bound rest
      return (.either first second, rest)
    | _ => return (first, rest)

def allOf : Nat → List Char → Read
  | 0, _ => .error (.badCriterion "" none)
  | bound + 1, cs => do
    let (first, rest) ← denial bound cs
    match next? manner .word rest with
    | some (.sign "&&", rest) =>
      let (second, rest) ← allOf bound rest
      return (.both first second, rest)
    | _ => return (first, rest)

def denial : Nat → List Char → Read
  | 0, _ => .error (.badCriterion "" none)
  | bound + 1, cs => do
    match next? manner .word cs with
    | some (.sign "(", rest) =>
      let (body, rest) ← anyOf bound rest
      match next? manner .word rest with
      | some (.sign ")", rest) => return (body, rest)
      | _ => throw (.badCriterion "expected \x60)'" (some (shown manner rest)))
    | some (.word word, rest) =>
      match plainText? word with
      | some "!" =>
        let (body, rest) ← denial bound rest
        return (.negation body, rest)
      | some operator =>
        if unaryOperators.contains operator then
          let (word, rest) ← operand manner "unary" rest .word
          return (.unary operator word, rest)
        else comparison manner word rest
      | none => comparison manner word rest
    | _ => throw (.badCriterion "" (some (shown manner cs)))

end

def criterion (text : String) : Except FaultCause Criterion := do
  let cs := text.toList
  let (criterion, rest) ← anyOf manner (4 * cs.length + 8) cs
  if (skipSpace rest).isEmpty then return criterion
  else throw (.badCriterion "" (some (shown manner rest)))

end DtoGen.Script.Reading

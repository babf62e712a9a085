import DtoGen.Machine.Awk.Printing
import DtoGen.Machine.Awk.Stream
import DtoGen.Machine.Tool.Clock

namespace DtoGen.Awk

/-- A fault that a program runs into, told with the place in the input. -/
def runningFault {α : Type} (message : String) : Run α := do
  let s ← get
  let shown (name : String) : String := shownText (s.text name)
  failWith [ s.shell.name ++ ": run time error: " ++ message,
    "\tFILENAME=\"" ++ shown "FILENAME" ++ "\" FNR=" ++ shown "FNR" ++ " NR=" ++ shown "NR" ]

def compiled (source : Bytes) : Run Regex := do
  match expressionOf source with
  | .ok e => return e
  | .error message =>
    failWith [(← get).shell.name ++ ": line 0: regular expression compile failed (" ++ message
      ++ ")", shownText source]

def textOf (v : Value) : Run Bytes := do
  return v.toText (← get).format

/-- Prints by a format. What comes before a fault is sent. -/
def printFormatted (command : String) (emit : ByteArray → Run Unit) (values : List Value) :
    Run ByteArray := do
  let template ← textOf (values.headD .unset)
  let printed := printBy (← get).format template (values.drop 1)
  match printed.fault with
  | none => return printed.output
  | some fault =>
    emit printed.output
    let call := command ++ "(\"" ++ shownText template ++ "\")"
    match fault with
    | .missingValue => runningFault ("not enough arguments passed to " ++ call)
    | .unknown number =>
      runningFault ("improper conversion(number " ++ toString number ++ ") in " ++ call)

def fieldNumber (v : Value) : Run Nat := do
  let i := v.toNumber.toInt?.getD 0
  if i < 0 then runningFault ("negative field index $" ++ toString i) else return i.toNat

/-- One round of a loop, and whether another one follows. -/
def inRound (body : Run Unit) : Run Bool := fun start s =>
  match body start s with
  | (.ok (), s) | (.error .round, s) => (.ok true, s)
  | (.error .loop, s) => (.ok false, s)
  | (.error leave, s) => (.error leave, s)

/-- Rounds up to one that is the last. The last argument bounds their number. -/
def rounds (round : Run Bool) : Nat → Run Unit
  | 0 => return ()
  | bound + 1 => fun start s =>
    match round start s with
    | (.ok true, s) => rounds round bound start s
    | (.ok false, s) => (.ok (), s)
    | (.error leave, s) => (.error leave, s)

def roundLimit : Nat := 10000000

def calling (body : Run Unit) : Run Value := fun start s =>
  match body start s with
  | (.ok (), s) => (.ok .unset, s)
  | (.error (.function v), s) => (.ok v, s)
  | (.error leave, s) => (.error leave, s)

def numericFunction (change : Numeral → Numeral) (arguments : List Value) : Value :=
  .number (change (arguments.headD .unset).toNumber)

/-- The next of a row of numbers that look like chance. -/
def nextSeed (seed : Nat) : Nat :=
  (seed * 6364136223846793005 + 1442695040888963407) % Nat.pow 2 64

def formattedTime (arguments : List Value) : Run Value := do
  let s ← get
  let format := (arguments.head?.map fun v => shownText (v.toText s.format)).getD
    "%a %b %e %H:%M:%S %Z %Y"
  let stamp := ((arguments[1]?).bind fun v => v.toNumber.toInt?).getD (Tool.presentStamp s.shell)
  return .text (ofText (Calendar.format format (Calendar.ofStamp stamp)))

def madeTime (text : Bytes) : Value :=
  let parts := (wordsOf text).filterMap fun word => (numberOf word).toInt?
  match parts with
  | [year, month, day, hour, minute, second] =>
    .number (.ofInt (Calendar.stampOf year month.toNat day.toNat hour.toNat minute.toNat
      second.toNat))
  | _ => .number (Numeral.ofNat 1).negated

/-- Functions that take values only. -/
def callPlain (name : String) (arguments : List Value) : Run Value := do
  let s ← get
  let text (n : Nat) : Bytes := (arguments.getD n .unset).toText s.format
  let number (n : Nat) : Numeral := (arguments.getD n .unset).toNumber
  match name with
  | "length" => return .ofNat (arguments.head?.elim s.record fun v => v.toText s.format).length
  | "substr" => return .text (partOf (text 0) (number 1) (arguments[2]?.map Value.toNumber))
  | "index" => return .ofNat (indexOf (text 0) (text 1))
  | "sin" => return numericFunction Numeral.sine arguments
  | "cos" => return numericFunction Numeral.cosine arguments
  | "exp" => return numericFunction Numeral.exponential arguments
  | "log" => return numericFunction Numeral.logarithm arguments
  | "sqrt" => return numericFunction Numeral.squareRoot arguments
  | "int" => return numericFunction Numeral.truncated arguments
  | "atan2" => return .number (Numeral.angle (number 0) (number 1))
  | "tolower" => return .text (recased Char.toLower (text 0))
  | "toupper" => return .text (recased Char.toUpper (text 0))
  | "rand" =>
    set { s with seed := nextSeed s.seed }
    return .number (Numeral.ofSigned (nextSeed s.seed : Nat) (Nat.pow 2 64))
  | "srand" =>
    let seed := (arguments.head?.bind fun v => v.toNumber.toInt?).getD (Tool.presentStamp s.shell)
    set { s with seed := seed.toNat }
    return .ofNat s.seed
  | "sprintf" => return .text (← printFormatted name (fun _ => pure ()) arguments).toList
  | "system" => system (text 0)
  | "close" => close (shownText (text 0))
  | "fflush" =>
    modify flushed
    return .ofNat 0
  | "systime" => return .number (.ofInt (Tool.presentStamp s.shell))
  | "strftime" => formattedTime arguments
  | "mktime" => return madeTime (text 0)
  | _ => return .unset

mutual

def evaluate (bound : Nat) (e : Expression) : Run Value := do
  match bound with
  | 0 => runningFault "function call nesting too deep"
  | bound + 1 =>
    match e with
    | .number value => return .number value
    | .text bs => return .text bs
    | .pattern source => return .ofBool (matchesText (← compiled source) (← get).record)
    | .variable name => return (← get).value name
    | .field index =>
      let n ← fieldNumber (← evaluate bound index)
      return (← get).field n
    | .element table keys =>
      let (key, isNumber) ← keyOf bound keys
      let (id, s) := (← get).tableId table
      match (s.table id).find? key with
      | some v =>
        set s
        return v
      | none =>
        set (s.setTable id ((s.table id).put key isNumber .unset))
        return .unset
    | .assign target operator value =>
      let v ← evaluate bound value
      let v ← match operator with
        | none => pure v
        | some operator =>
          let old ← evaluate bound target
          pure (.number (applied operator old.toNumber v.toNumber))
      put bound target v
      return v
    | .step target isUp isBefore =>
      let old := (← evaluate bound target).toNumber
      let new := if isUp then old.plus (.ofNat 1) else old.minus (.ofNat 1)
      put bound target (.number new)
      return .number (if isBefore then new else old)
    | .choice test yes no =>
      if (← evaluate bound test).isTrue then evaluate bound yes else evaluate bound no
    | .both first second =>
      if (← evaluate bound first).isTrue then return .ofBool (← evaluate bound second).isTrue
      else return .ofBool false
    | .either first second =>
      if (← evaluate bound first).isTrue then return .ofBool true
      else return .ofBool (← evaluate bound second).isTrue
    | .not body => return .ofBool !(← evaluate bound body).isTrue
    | .negative body => return .number (← evaluate bound body).toNumber.negated
    | .positive body => return .number (← evaluate bound body).toNumber
    | .arithmetic operator left right =>
      let a ← evaluate bound left
      let b ← evaluate bound right
      return .number (applied operator a.toNumber b.toNumber)
    | .joined left right =>
      let a ← textOf (← evaluate bound left)
      let b ← textOf (← evaluate bound right)
      return .text (a ++ b)
    | .compare comparison left right =>
      let a ← evaluate bound left
      let b ← evaluate bound right
      return .ofBool (compareValues (← get).format comparison a b)
    | .fits subject pattern isNegated =>
      let bs ← textOf (← evaluate bound subject)
      let regex ← compiled (← sourceOf bound pattern)
      return .ofBool (matchesText regex bs != isNegated)
    | .isIn keys table =>
      let (key, _) ← keyOf bound keys
      let (id, s) := (← get).tableId table
      set s
      return .ofBool ((s.table id).find? key).isSome
    | .call name arguments => callFunction bound name arguments
    | .builtin name arguments => callBuiltin bound name arguments
    | .readNext target =>
      match ← nextRecord operandLimit with
      | some record => received bound target record
      | none => return .ofNat 0
    | .readFile target path =>
      let name := shownText (← textOf (← evaluate bound path))
      match ← provided name false with
      | some (some record) => received bound target record
      | some none => return .ofNat 0
      | none => return .number (Numeral.ofNat 1).negated
    | .readCommand target command =>
      let name := shownText (← textOf (← evaluate bound command))
      match ← provided name true with
      | some (some record) => received bound target record
      | some none => return .ofNat 0
      | none => return .number (Numeral.ofNat 1).negated
    | .group [member] => evaluate bound member
    | .group members => return .text (← keyOf bound members).1

def evaluateAll (bound : Nat) (es : List Expression) : Run (List Value) := do
  match bound, es with
  | 0, _ | _, [] => return []
  | bound + 1, e :: es =>
    let first ← evaluate bound e
    return first :: (← evaluateAll bound es)

/-- The key of a table that values make up, and whether it is a whole number. -/
def keyOf (bound : Nat) (keys : List Expression) : Run (Bytes × Bool) := do
  match bound with
  | 0 => return ([], false)
  | bound + 1 =>
    match ← evaluateAll bound keys with
    | [v] =>
      let isNumber := match v with
        | .number n => n.isWhole
        | _ => false
      return (← textOf v, isNumber)
    | values =>
      let s ← get
      return ((s.text "SUBSEP").intercalate (values.map (Value.toText s.format)), false)

/-- What is to be matched: a regular expression, or a text that is one. -/
def sourceOf (bound : Nat) (e : Expression) : Run Bytes := do
  match bound, e with
  | 0, _ => return []
  | _, .pattern source => return source
  | bound + 1, e => textOf (← evaluate bound e)

def put (bound : Nat) (target : Expression) (v : Value) : Run Unit := do
  match bound with
  | 0 => return ()
  | bound + 1 =>
    match target with
    | .variable name => modify fun s => s.setValue name v
    | .field index =>
      let n ← fieldNumber (← evaluate bound index)
      modify fun s => s.setField n v
    | .element table keys =>
      let (key, isNumber) ← keyOf bound keys
      let (id, s) := (← get).tableId table
      set (s.setTable id ((s.table id).put key isNumber v))
    | .group [member] => put bound member v
    | _ => return ()

def received (bound : Nat) (target : Option Expression) (record : Bytes) : Run Value := do
  match bound, target with
  | 0, _ => return .ofNat 0
  | _, none =>
    modify fun s => s.setRecord record
    return .ofNat 1
  | bound + 1, some target =>
    put bound target (.input record)
    return .ofNat 1

/-- The variables of a function, from the arguments of its call. A name that has no value yet may
turn out to be a table. -/
def bindArguments (bound : Nat) (parameters : List String) (arguments : List Expression) :
    Run (List (String × Slot)) := do
  match bound, parameters, arguments with
  | 0, _, _ | _, [], _ => return []
  | _, parameters, [] => return parameters.map fun name => (name, .empty)
  | bound + 1, name :: parameters, argument :: arguments =>
    let own ← match argument with
      | .variable other =>
        let slot := (← get).slot other
        if slot.value = .unset && other != State.fieldCount then
          let (id, s) := (← get).tableId other
          set s
          pure ⟨.unset, some id⟩
        else pure ⟨(← get).value other, slot.table⟩
      | argument => pure ⟨← evaluate bound argument, none⟩
    return (name, own) :: (← bindArguments bound parameters arguments)

def callFunction (bound : Nat) (name : String) (arguments : List Expression) : Run Value := do
  match bound with
  | 0 => return .unset
  | bound + 1 =>
    match (← get).functions.lookup name with
    | none => return .unset
    | some function =>
      let locals ← bindArguments bound function.parameters arguments
      let before := (← get).locals
      modify fun s => { s with locals }
      let v ← calling (execute bound function.body)
      modify fun s => { s with locals := before }
      return v

/-- Functions that want more than the values of their arguments. -/
def callBuiltin (bound : Nat) (name : String) (arguments : List Expression) : Run Value := do
  match bound with
  | 0 => return .unset
  | bound + 1 =>
    match name, arguments with
    | "length", [.variable table] | "length", [.group [.variable table]] =>
      let s ← get
      match (s.slot table).value, (s.slot table).table with
      | .unset, some id => return .ofNat (s.table id).length
      | v, _ =>
        let v := if table = State.fieldCount then s.value table else v
        return .ofNat (v.toText s.format).length
    | "split", subject :: .variable table :: others =>
      let bs ← textOf (← evaluate bound subject)
      let separator ← match others with
        | [] => pure (← get).separator
        | .pattern source :: _ => pure (.expression (← compiled source))
        | other :: _ =>
          match separatorOf (← textOf (← evaluate bound other)) with
          | .ok separator => pure separator
          | .error _ => pure .blanks
      let parts := splitBy separator bs
      modify fun s => s.fill table (State.counted 1 (parts.map .input))
      return .ofNat parts.length
    | "match", [subject, pattern] =>
      let bs ← textOf (← evaluate bound subject)
      let e ← compiled (← sourceOf bound pattern)
      let (place, length) : Nat × Value :=
        match firstMatch e [] bs with
        | some (front, found, _) => (front.length + 1, .ofNat found.length)
        | none => (0, .number (Numeral.ofNat 1).negated)
      modify fun s => (s.setValue "RSTART" (.ofNat place)).setValue "RLENGTH" length
      return .ofNat place
    | "sub", pattern :: template :: others => substitute bound replaceFirst pattern template others
    | "gsub", pattern :: template :: others => substitute bound replaceAll pattern template others
    | name, arguments => callPlain name (← evaluateAll bound arguments)

/-- Replaces matches in a variable, or in the record. -/
def substitute (bound : Nat) (replace : Regex → Bytes → Bytes → Bytes × Nat)
    (pattern template : Expression) (others : List Expression) : Run Value := do
  match bound with
  | 0 => return .ofNat 0
  | bound + 1 =>
    let e ← compiled (← sourceOf bound pattern)
    let template ← textOf (← evaluate bound template)
    let target := others.headD (.field (.number .zero))
    let bs ← textOf (← evaluate bound target)
    let (text, count) := replace e template bs
    if count != 0 then put bound target (.text text)
    return .ofNat count

def directionOf (bound : Nat) (outlet : Outlet) : Run Direction := do
  match bound, outlet with
  | 0, _ | _, .standard => return .standard
  | bound + 1, .file path => return .ofPath (shownText (← textOf (← evaluate bound path))) false
  | bound + 1, .append path => return .ofPath (shownText (← textOf (← evaluate bound path))) true
  | bound + 1, .command command =>
    return .command (shownText (← textOf (← evaluate bound command)))

def execute (bound : Nat) (statement : Statement) : Run Unit := do
  match bound with
  | 0 => runningFault "function call nesting too deep"
  | bound + 1 =>
    match statement with
    | .block statements => executeAll bound statements
    | .evaluate e =>
      let _ ← evaluate bound e
      return ()
    | .print values outlet =>
      let shown ← evaluateAll bound values
      let s ← get
      let line :=
        if values.isEmpty then s.record
        else (s.text "OFS").intercalate (shown.map (Value.toText s.printFormat))
      send (← directionOf bound outlet) ⟨(line ++ s.text "ORS").toArray⟩
    | .printf values outlet =>
      let shown ← evaluateAll bound values
      let direction ← directionOf bound outlet
      send direction (← printFormatted "printf" (send direction) shown)
    | .branch test yes no =>
      if (← evaluate bound test).isTrue then execute bound yes
      else
        match no with
        | some no => execute bound no
        | none => return ()
    | .loop test step body =>
      let continues : Run Bool :=
        match test with
        | some test => do return (← evaluate bound test).isTrue
        | none => return true
      let advance : Run Unit :=
        match step with
        | some step => execute bound step
        | none => return ()
      rounds (do
        if ← continues then
          let goesOn ← inRound (execute bound body)
          if goesOn then advance
          return goesOn
        else return false) roundLimit
    | .lateLoop body test =>
      rounds (do
        if ← inRound (execute bound body) then return (← evaluate bound test).isTrue
        else return false) roundLimit
    | .each name table body =>
      let (id, s) := (← get).tableId table
      set s
      executeEach bound name (s.table id).keys body
    | .next => throw .record
    | .nextFile => throw .file
    | .exit status =>
      match status with
      | some status =>
        let v ← evaluate bound status
        modify fun s => { s with status := ((v.toNumber.toInt?.getD 0) % 256).toNat }
      | none => pure ()
      throw .program
    | .back value =>
      match value with
      | some value => throw (.function (← evaluate bound value))
      | none => throw (.function .unset)
    | .leave => throw .loop
    | .again => throw .round
    | .delete table keys =>
      let (id, s) := (← get).tableId table
      set s
      match keys with
      | some keys =>
        let (key, _) ← keyOf bound keys
        modify fun s => s.setTable id ((s.table id).erase key)
      | none => modify fun s => s.setTable id []

def executeAll (bound : Nat) (statements : List Statement) : Run Unit := do
  match bound, statements with
  | 0, _ | _, [] => return ()
  | bound + 1, first :: others =>
    execute bound first
    executeAll bound others

/-- Follows a loop through keys. -/
def executeEach (bound : Nat) (name : String) (keys : List Bytes) (body : Statement) :
    Run Unit := do
  match bound, keys with
  | 0, _ | _, [] => return ()
  | bound + 1, key :: keys =>
    modify fun s => s.setValue name (.input key)
    if ← inRound (execute bound body) then executeEach bound name keys body

end

def nestingLimit : Nat := 100000

/-- Whether a rule is to be followed for the record. Rules are counted. -/
def applies (n : Nat) (condition : Condition) : Run Bool := do
  match condition with
  | .atStart | .atEnd => return false
  | .always => return true
  | .when test => return (← evaluate nestingLimit test).isTrue
  | .between first last =>
    let isInside := (← get).ranges.contains n
    if isInside || (← evaluate nestingLimit first).isTrue then
      let ends := (← evaluate nestingLimit last).isTrue
      modify fun s =>
        let others := s.ranges.filter (· != n)
        { s with ranges := if ends then others else n :: others }
      return true
    else return false

def follow (rule : Rule) : Run Unit :=
  execute nestingLimit (rule.action.getD (.print [] .standard))

def followAll : List (Rule × Nat) → Run Unit
  | [] => return ()
  | (rule, n) :: rules => do
    if ← applies n rule.condition then follow rule
    followAll rules

/-- Reads a record and follows the rules for it. Answers whether there was one. -/
def recordRound (rules : List (Rule × Nat)) : Run Bool := do
  match ← nextRecord operandLimit with
  | none => return false
  | some record =>
    modify fun s => s.setRecord record
    fun start s =>
      match followAll rules start s with
      | (.ok (), s) | (.error .record, s) => (.ok true, s)
      | (.error .file, s) => (.ok true, { s with input := none })
      | (.error leave, s) => (.error leave, s)

def followEach (rules : List Rule) : Run Unit :=
  match rules with
  | [] => return ()
  | rule :: rules => do
    follow rule
    followEach rules

def rulesAt (condition : Condition → Bool) (program : Program) : List Rule :=
  program.rules.filter fun rule => condition rule.condition

def isStart : Condition → Bool
  | .atStart => true
  | _ => false

def isEnd : Condition → Bool
  | .atEnd => true
  | _ => false

/-- Runs a part of a program up to its end, or until something leaves it. -/
def part (body : Run Unit) (start : Shell.Starter) (s : State) : Option Leave × State :=
  match body start s with
  | (.ok (), s) => (none, s)
  | (.error leave, s) => (some leave, s)

/-- The part of a program before its end, and its end, which is left out after a fault. -/
def runProgram (program : Program) (start : Shell.Starter) (s : State) : Option Leave × State :=
  let ends := rulesAt isEnd program
  let readsRecords := program.rules.any fun rule => !isStart rule.condition
  let main : Run Unit := do
    followEach (rulesAt isStart program)
    if readsRecords then rounds (recordRound program.rules.zipIdx) roundLimit
  match part main start s with
  | (some (.fault lines), s) => (some (.fault lines), s)
  | (_, s) => part (followEach ends) start s

end DtoGen.Awk

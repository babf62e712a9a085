import DtoGen.Machine.Builtin.Printf
import DtoGen.Machine.Condition
import DtoGen.Machine.Script.Parser

namespace DtoGen.Builtin

/-- An argument of a command that declares variables. -/
inductive Operand
  | text (text : String)
  /-- A name with several values. -/
  | list (name : String) (appends : Bool) (items : List Shell.ListItem)

def Operand.shown : Operand → String
  | .text shown => shown
  | .list name _ _ => name

/-- The parts of `name=value`. -/
def splitAssignment (text : String) : String × Option String :=
  let name := text.toList.takeWhile (· != '=')
  match text.toList.drop name.length with
  | _ :: value => (String.ofList name, some (String.ofList value))
  | [] => (text, none)

def hide (name : String) (shell : Shell) : Shell :=
  match shell.hidden with
  | own :: outer =>
    if (own.lookup name).isSome then shell
    else { shell with hidden := ((name, shell.bindings.lookup name) :: own) :: outer }
  | [] => shell

def listedLine (word name : String) (v : Variable) : Dialect → String
  | .extended => v.declaration name ++ "\n"
  | .plain =>
    let value := match v.value.bind Value.scalar? with
      | some text => "=" ++ Quoting.singleWithDoubles text
      | none => ""
    word ++ " " ++ name ++ value ++ "\n"

def listWith (word : String) (letter : Char) (shell : Shell) : Shell :=
  let lines := shell.variableNames.filterMap fun name => do
    let v ← shell.variableOf? name
    if v.has letter then some (listedLine word name v shell.dialect) else none
  (shell.finish 0).say (String.join lines)

def settingText (name : String) (v : Variable) : Dialect → Option String
  | .plain => v.value.bind fun value => value.scalar?.map fun text =>
    name ++ "=" ++ Quoting.singleWithDoubles text ++ "\n"
  | .extended => v.value.map fun value =>
    let text := match value with
      | .single text => if text = "" then "" else Quoting.ifNeeded text
      | value => Variable.valueText value
    name ++ "=" ++ text ++ "\n"

def listSettings (shell : Shell) : Shell :=
  let lines := shell.variableNames.filterMap fun name => do
    settingText name (← shell.variableOf? name) shell.dialect
  (shell.finish 0).say (String.join lines)

/-- Does something with each variable that is named, after giving it its value. -/
def declarePlain (mark : String → Shell → Shell) (operands : List String) (shell : Shell) : Shell :=
  (operands.filter (· != "--")).foldl
    (fun shell operand =>
      let (name, value) := splitAssignment operand
      if shell.isStopped then shell
      else if !Script.isName name.toList then shell.abort (name ++ ": bad variable name")
      else
        match value with
        | some value => mark name (shell.set name value)
        | none => mark name shell)
    (shell.finish 0)

def localPlain (operands : List String) (shell : Shell) : Shell :=
  if shell.hidden.isEmpty then shell.abort "not in a function"
  else
    let names := operands.map fun operand => (splitAssignment operand).1
    declarePlain (fun _ shell => shell) operands (names.foldl (fun s name => hide name s) shell)

structure Wish where
  given : List Char
  taken : List Char
  prints : Bool
  isGlobal : Bool
  functions : Bool
  onlyNames : Bool
  isLocal : Bool
  /-- Whether the command is there for one attribute. -/
  isMarking : Bool

namespace Wish

def start (given : List Char) (isLocal : Bool) : Wish :=
  ⟨given, [], false, false, false, false, isLocal, !given.isEmpty⟩

def attributes : List Char :=
  ['a', 'A', 'i', 'n', 'r', 't', 'x', 'l', 'u']

def turn? (isOn : Bool) (letter : Char) (wish : Wish) : Option Wish :=
  match letter with
  | 'p' => some { wish with prints := true }
  | 'g' => some { wish with isGlobal := true }
  | 'f' => some { wish with functions := true }
  | 'F' => some { wish with functions := true, onlyNames := true }
  | 'I' => some wish
  | letter =>
    if !attributes.contains letter then none
    else if isOn then some { wish with given := letter :: wish.given }
    else some { wish with taken := letter :: wish.taken }

end Wish

/-- The options in front of the operands, or the letter that is none. -/
def wishOf (wish : Wish) : List Operand → Except Char (Wish × List Operand)
  | [] => .ok (wish, [])
  | .list name appends items :: operands => .ok (wish, .list name appends items :: operands)
  | .text text :: operands =>
    let turnAll (isOn : Bool) (letters : List Char) : Except Char Wish :=
      letters.foldlM
        (fun wish letter =>
          match Wish.turn? isOn letter wish with
          | some wish => .ok wish
          | none => .error letter)
        wish
    match text.toList with
    | ['-', '-'] => .ok (wish, operands)
    | '-' :: c :: cs =>
      match turnAll true (c :: cs) with
      | .ok wish => wishOf wish operands
      | .error letter => .error letter
    | '+' :: c :: cs =>
      match turnAll false (c :: cs) with
      | .ok wish => wishOf wish operands
      | .error letter => .error letter
    | _ => .ok (wish, .text text :: operands)

/-- A variable with the attributes that are wished for. Lists and tables keep what they can. -/
def shaped (wish : Wish) (v : Variable) : Variable :=
  let given := wish.given.filter fun letter => letter != 'r' && letter != 'n'
  let v := given.foldl (fun v letter => v.mark letter) v
  let v := wish.taken.foldl (fun v letter => v.unmark letter) v
  let v := if wish.given.contains 'l' then v.unmark 'u'
    else if wish.given.contains 'u' then v.unmark 'l' else v
  match v.value with
  | some (.single text) =>
    if v.has 'A' then { v with value := some (.table [("0", text)]) }
    else if v.has 'a' then { v with value := some (.list [(0, text)]) }
    else v
  | _ => v

/-- The name, the subscript, whether the value is added, and the value. -/
def operandParts (operand : Operand) : Option (String × Option String × Bool × Option String) :=
  match operand with
  | .list name appends _ => some (name, none, appends, none)
  | .text text =>
    let (front, value) := splitAssignment text
    let appends := value.isSome && front.endsWith "+"
    let front := if appends then (front.dropEnd 1).toString else front
    (placeName? front).map fun (name, subscript) => (name, subscript, appends, value)

def spelledList? (text : String) : Option (List Shell.ListItem) :=
  match text.toList with
  | '(' :: cs =>
    if cs.getLast? = some ')' then
      let manner : Manner := ⟨.extended, false, []⟩
      let words := Script.listWords manner (cs.length + 1) cs.dropLast
      some (words.map fun word =>
        match word with
        | .element "" subscript :: value => (some subscript, Script.Grammar.wordText value)
        | word => (none, Script.Grammar.wordText word))
    else none
  | _ => none

def declareOne (wish : Wish) (operand : Operand) (shell : Shell) : Shell :=
  match operandParts operand with
  | none => invalidName operand.shown 1 shell
  | some (name, subscript, appends, value) =>
    let isOwn := wish.isLocal && !wish.isGlobal && !shell.hidden.isEmpty
    let old := (shell.variableOf? name).getD .absent
    let isList := match operand with
      | .list _ _ _ => true
      | .text _ => false
    let assigns := isList || value.isSome
    if old.has 'r' && (assigns || isOwn || wish.taken.contains 'r') then
      if wish.isMarking then shell.refuseReadOnly name
      else shell.complain (name ++ ": readonly variable") 1
    else
      let isNew := isOwn && ((shell.hidden.headD []).lookup name).isNone
      let shell := if isOwn then hide name shell else shell
      let base := if isNew then .absent else old
      let finishOne (shell : Shell) : Shell :=
        if shell.isStopped then shell
        else
          let shell := if wish.given.contains 'r' then shell.markVariable 'r' name else shell
          if wish.given.contains 'n' then shell.markVariable 'n' name else shell
      if wish.given.contains 'n' then
        let v : Variable := { base with value := (value.map Value.single).or base.value }
        finishOne (shell.putVariable name (v.unmark 'n'))
      else
        let base := if wish.taken.contains 'n' then base.unmark 'n' else base
        let shell := shell.putVariable name (shaped wish base)
        let v := (shell.variableOf? name).getD .absent
        match operand, value with
        | .list _ _ items, _ => finishOne (shell.assignList name appends items)
        | .text _, none => finishOne shell
        | .text _, some text =>
          match if v.isList || v.isTable then spelledList? text else none with
          | some items => finishOne (shell.assignList name appends items)
          | none => finishOne (shell.assignText name subscript appends text)

def printOne (name : String) (shell : Shell) : Shell :=
  let found := (shell.variableOf? name).filter fun v =>
    v.value.isSome || !v.attributes.isEmpty
  match found with
  | some v => shell.say (v.declaration name ++ "\n")
  | none => shell.complain (name ++ ": not found") 1

def functionNames (shell : Shell) : List String :=
  (shell.functions.map Prod.fst).mergeSort fun a b => decide (a ≤ b)

def declareFunctions (wish : Wish) (names : List String) (shell : Shell) : Shell :=
  if names.isEmpty then
    shell.say (String.join ((functionNames shell).map fun name => "declare -f " ++ name ++ "\n"))
  else
    names.foldl
      (fun shell name =>
        if (shell.functions.lookup name).isNone then shell.finish 1
        else if wish.onlyNames then shell.say (name ++ "\n")
        else shell)
      shell

def declareUsage (command : String) : String :=
  command ++ ": usage: " ++ match command with
    | "export" => "export [-fn] [name[=value] ...] or export -p"
    | "readonly" => "readonly [-aAf] [name[=value] ...] or readonly -p"
    | "local" => "local [option] name[=value] ..."
    | _ => command ++ " [-aAfFgiIlnrtux] [name[=value] ...] or " ++ command
      ++ " -p [-aAfFilnrtux] [name ...]"

/-- Declares variables with the attributes that the command always gives. -/
def declareWith (command : String) (given : List Char) (isLocal : Bool) (operands : List Operand)
    (shell : Shell) : Shell :=
  match wishOf (.start given isLocal) operands with
  | .error letter =>
    (shell.complain ("-" ++ String.singleton letter ++ ": invalid option") 2).warn
      (declareUsage command)
  | .ok (wish, operands) =>
    let shell := shell.finish 0
    if wish.functions then declareFunctions wish (operands.map Operand.shown) shell
    else if operands.isEmpty then
      let letters := wish.given
      let lines := shell.variableNames.filterMap fun name => do
        let v ← shell.variableOf? name
        if letters.all fun letter => v.letters.toList.contains letter then
          some (v.declaration name ++ "\n")
        else none
      if letters.isEmpty && !wish.prints then
        if isLocal && command = "local" then shell else listSettings shell
      else shell.say (String.join lines)
    else if wish.prints then
      operands.foldl (fun shell operand => printOne operand.shown shell) shell
    else
      operands.foldl
        (fun shell operand => if shell.isStopped then shell else declareOne wish operand shell)
        shell

/-- With the option `n`, variables are exported no more. -/
def exportExtended (operands : List Operand) (shell : Shell) : Shell :=
  match operands with
  | .text "-n" :: operands =>
    let wish : Wish := { Wish.start [] false with taken := ['x'] }
    operands.foldl (fun shell operand => declareOne wish operand shell) (shell.finish 0)
  | .text "-f" :: _ => shell.finish 0
  | operands =>
    let operands := operands.filter fun operand =>
      match operand with
      | .text "-p" => false
      | _ => true
    declareWith "export" ['x'] false operands shell

abbrev Declarator := List Operand → Shell → Shell

def exportCommand : Declarator := fun operands shell =>
  match shell.dialect, operands with
  | .extended, operands => exportExtended operands shell
  | .plain, [] | .plain, [.text "-p"] => listWith "export" 'x' shell
  | .plain, operands =>
    declarePlain (fun name shell => shell.markVariable 'x' name) (operands.map Operand.shown) shell

def readonlyCommand : Declarator := fun operands shell =>
  match shell.dialect, operands with
  | .plain, [] | .plain, [.text "-p"] => listWith "readonly" 'r' shell
  | .plain, operands =>
    declarePlain (fun name shell => shell.markVariable 'r' name) (operands.map Operand.shown) shell
  | .extended, operands =>
    let operands := operands.filter fun operand =>
      match operand with
      | .text "-p" => false
      | _ => true
    declareWith "readonly" ['r'] false operands shell

def localCommand : Declarator := fun operands shell =>
  match shell.dialect with
  | .plain => localPlain (operands.map Operand.shown) shell
  | .extended =>
    if shell.hidden.isEmpty then shell.complain "can only be used in a function" 1
    else declareWith "local" [] true operands shell

def declareCommand (name : String) : Declarator :=
  declareWith name [] true

/-- Takes away a variable, a place of one, or a function. -/
def unsetOne (kind : Option Char) (text : String) (shell : Shell) : Shell :=
  let isFunction := (shell.functions.lookup text).isSome
  let withoutFunction : Shell :=
    { shell with functions := shell.functions.filter fun entry => entry.1 != text }
  match kind, placeName? text, shell.dialect with
  | some 'f', _, _ => withoutFunction
  | _, some (name, none), .extended =>
    if kind = some 'n' then shell.putVariable name .absent
    else if kind.isNone && isFunction && (shell.lookup? name).all (·.value.isNone) then
      withoutFunction
    else shell.unset name
  | _, some (name, none), .plain => shell.unset name
  | _, some (name, some subscript), .extended =>
    let v := (shell.lookup? name).getD .absent
    if v.has 'r' then shell.complain (name ++ ": cannot unset: readonly variable") 1
    else if subscript = "@" || subscript = "*" then shell.unset name
    else if v.isTable then
      match v.value with
      | some value => shell.setValue name (value.eraseKey subscript)
      | none => shell
    else
      match v.value, shell.calculate subscript with
      | some value, .ok (index, _) =>
        match Shell.placeIn v.value index with
        | some n => shell.setValue name (value.eraseAt n)
        | none => shell.complain (Shell.badSubscript name subscript) 1
      | _, .error fault => shell.complain (fault.message shell.dialect) 1
      | none, _ => shell
  | _, _, .plain => shell.abort (text ++ ": bad variable name")
  | _, none, .extended => if isFunction then withoutFunction else shell

def unset : Shell.Command := fun arguments shell =>
  let options := arguments.takeWhile fun argument =>
    argument.toList.head? == some '-' && argument != "-" && argument != "--"
  let names := (arguments.drop options.length).filter (· != "--")
  let letters := options.flatMap fun option => option.toList.drop 1
  match letters.find? fun letter => !(['v', 'f', 'n'].contains letter) with
  | some letter =>
    match shell.dialect with
    | .plain => shell.abort ("Illegal option -" ++ String.singleton letter)
    | .extended =>
      (shell.complain ("-" ++ String.singleton letter ++ ": invalid option") 2).warn
        "unset: usage: unset [-f] [-v] [-n] [name ...]"
  | none =>
    names.foldl
      (fun shell name =>
        if shell.isStopped then shell else unsetOne letters.getLast? name shell)
      (shell.finish 0)

/-- Works out expressions. The last of them tells whether all went well. -/
def letCommand : Shell.Command := fun arguments shell =>
  match if arguments.head? = some "--" then arguments.drop 1 else arguments with
  | [] => shell.complain "expression expected" 1
  | expressions =>
    let step (state : Option Int × Shell) (text : String) : Option Int × Shell :=
      match state with
      | (none, shell) => (none, shell)
      | (some _, shell) =>
        match shell.calculate text with
        | .ok (value, shell) => (some value, shell)
        | .error fault => (none, shell.complain (fault.message shell.dialect) 1)
    match expressions.foldl step (some 0, shell) with
    | (some value, shell) => shell.finish (if value = 0 then 1 else 0)
    | (none, shell) => shell.finish 1

end DtoGen.Builtin

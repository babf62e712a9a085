import DtoGen.Machine.Arithmetic
import DtoGen.Machine.Quoting
import DtoGen.Machine.Shell

namespace DtoGen.Shell

/-- The number that a value spells, with a sign perhaps. No value is a zero. -/
def numberOf (text : String) : Except Arithmetic.Fault Int :=
  let fault : Arithmetic.Fault := ⟨.noNumber text, text, text⟩
  let cs := (Arithmetic.skipBlanks text.toList).reverse.dropWhile Char.isWhitespace
  let natural (ds : List Char) : Except Arithmetic.Fault Int :=
    match ds, Arithmetic.literal? ds with
    | _ :: _, some n => .ok n
    | _, _ => .error fault
  match cs.reverse with
  | [] => if text = "" then .ok 0 else .error fault
  | '-' :: ds => (natural ds).map fun n => -n
  | '+' :: ds | ds => natural ds

/-- The place that an index means in a list; indexes below zero count from the end. -/
def placeIn (value : Option Value) (index : Int) : Option Nat :=
  if 0 ≤ index then some index.toNat
  else
    let place : Int := (value.map Value.nextIndex).getD 0 + index
    if 0 ≤ place then some place.toNat else none

def textAt? (value : Option Value) (index : Int) : Option String := do
  (← value).listItems.lookup (← placeIn value index)

/-- Variables as numbers. The text of a variable may be an expression in turn, and so may an index;
the first argument bounds how often. -/
def numbers (dialect : Dialect) : Nat → Arithmetic.Store Shell
  | 0 => {
      get := fun name _ _ => .error ⟨.tooDeep, name, name⟩
      set := fun _ _ _ shell => shell
    }
  | depth + 1 =>
    let inner := numbers dialect depth
    let calculate (text : String) (shell : Shell) : Except Arithmetic.Fault Int := do
      let e ← Arithmetic.parse .extended text
      return (← e.evaluate inner text shell).1
    { get := fun name subscript shell =>
        match dialect with
        | .plain => numberOf ((shell.parameter? name).getD "")
        | .extended => do
          let v := (shell.lookup? name).getD .absent
          let text ← match subscript with
            | none => pure (shell.parameter? name)
            | some subscript =>
              if v.isTable then pure ((v.value.map Value.tableItems).bind (·.lookup subscript))
              else pure (textAt? v.value (← calculate subscript shell))
          calculate (text.getD "") shell
      set := fun name subscript result shell =>
        match subscript with
        | none => shell.set name (toString result)
        | some subscript =>
          let v := (shell.lookup? name).getD .absent
          if v.isTable then shell.setValue name (.putKey subscript (toString result) v.value)
          else
            match (calculate subscript shell).toOption.bind (placeIn v.value) with
            | some n => shell.setValue name (.putAt n (toString result) v.value)
            | none => shell }

def calculationDepth : Nat := 64

def calculate (text : String) (shell : Shell) : Except Arithmetic.Fault (Int × Shell) := do
  let e ← Arithmetic.parse shell.dialect text
  e.evaluate (numbers shell.dialect calculationDepth) text shell

/-- A text as a variable takes it, given what the variable holds at that place. -/
def takenText (v : Variable) (old : Option String) (appends : Bool) (text : String)
    (shell : Shell) : Except Arithmetic.Fault (String × Shell) :=
  if v.has 'i' then do
    let (value, shell) ← shell.calculate text
    let (start, shell) ← if appends then shell.calculate (old.getD "") else .ok (0, shell)
    return (toString (Arithmetic.wrap (start + value)), shell)
  else .ok (recased v (if appends then old.getD "" ++ text else text), shell)

def badSubscript (name subscript : String) : String :=
  name ++ "[" ++ subscript ++ "]: bad array subscript"

/-- Gives a text to a variable, or to a place of it. -/
def assignText (name : String) (subscript : Option String) (appends : Bool) (text : String)
    (shell : Shell) : Shell :=
  let v := (shell.lookup? name).getD .absent
  let take (old : Option String) (put : String → Shell → Shell) : Shell :=
    match takenText v old appends text shell with
    | .ok (text, shell) => put text shell
    | .error fault => shell.abort (fault.message shell.dialect)
  match subscript with
  | none => take (v.value.bind Value.scalar?) (set name)
  | some subscript =>
    if v.isTable then
      take ((v.value.map Value.tableItems).bind (·.lookup subscript)) fun text shell =>
        shell.setValue name (.putKey subscript text v.value)
    else
      match shell.calculate subscript with
      | .error fault => shell.abort (fault.message shell.dialect)
      | .ok (index, _) =>
        match placeIn v.value index with
        | none => shell.abort (badSubscript name subscript)
        | some n =>
          take (textAt? v.value n) fun text shell => shell.setValue name (.putAt n text v.value)

/-- Values by their places, where these are written in front. -/
abbrev ListItem := Option String × String

/-- Adds values to a list, each at its place or behind the one before. -/
def listOf (items : List ListItem) (start : Value) (shell : Shell) : Value :=
  let add (state : Value × Nat) (item : ListItem) : Value × Nat :=
    let (value, next) := state
    let place :=
      match item.1 with
      | none => some next
      | some subscript =>
        (shell.calculate subscript).toOption.bind fun result => placeIn (some value) result.1
    match place with
    | some n => (.putAt n item.2 (some value), n + 1)
    | none => (value, next)
  (items.foldl add (start, start.nextIndex)).1

/-- Adds values to a table. Keys may also come as values in front of theirs. -/
def tableOf : List ListItem → Value → Value
  | [], value => value
  | (some key, text) :: items, value => tableOf items (.putKey key text (some value))
  | (none, key) :: (none, text) :: items, value => tableOf items (.putKey key text (some value))
  | (none, key) :: items, value => tableOf items (.putKey key "" (some value))

/-- Gives a variable several values. -/
def assignList (name : String) (appends : Bool) (items : List ListItem) (shell : Shell) : Shell :=
  let v := (shell.lookup? name).getD .absent
  if v.isTable then
    let start : Value := if appends then v.value.getD (.table []) else .table []
    shell.setValue name (tableOf items start)
  else
    let start : Value :=
      match appends, v.value with
      | true, some value => .list value.listItems
      | _, _ => .list []
    shell.setValue name (listOf items start shell)

end DtoGen.Shell

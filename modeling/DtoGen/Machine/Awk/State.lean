import DtoGen.Machine.Awk.Value
import DtoGen.Machine.Launcher

namespace DtoGen.Awk

inductive Leave
  | record
  /-- The file that is being read. -/
  | file
  | loop
  /-- Only this round of a loop. -/
  | round
  | function (value : Value)
  | program
  | fault (lines : List String)

/-- What a name stands for: a value, or a table by its number. -/
structure Slot where
  value : Value
  table : Option Nat

def Slot.empty : Slot :=
  ⟨.unset, none⟩

/-- What has been opened for writing. The input of a command is kept until the command runs. -/
structure Receiver where
  name : String
  isCommand : Bool
  content : ByteArray

/-- What has been opened for reading, with what is left of it. -/
structure Provider where
  name : String
  isCommand : Bool
  rest : Bytes
  /-- How its command has ended. -/
  status : Nat

structure State where
  shell : Shell
  functions : List (String × Function)
  globals : List (String × Slot)
  /-- The variables of the function that is running. -/
  locals : List (String × Slot)
  tables : Array Table
  record : Bytes
  fields : List Value
  /-- What is left of the operand that is being read. -/
  input : Option Bytes
  /-- The number of the next operand. -/
  operand : Nat
  /-- Whether any operand has been a file. -/
  hasRead : Bool
  providers : List Provider
  receivers : List Receiver
  /-- Output that has not been written yet. -/
  pending : ByteArray
  /-- The numbers of the rules between whose limits the record is. -/
  ranges : List Nat
  seed : Nat
  status : Nat

/-- Programs that run with a starter of other programs. -/
abbrev Run (α : Type) := ReaderT Shell.Starter (ExceptT Leave (StateM State)) α

namespace State

def slot (name : String) (s : State) : Slot :=
  ((s.locals.lookup name).or (s.globals.lookup name)).getD .empty

def putSlot (name : String) (own : Slot) (slots : List (String × Slot)) : List (String × Slot) :=
  (name, own) :: slots.filter fun entry => entry.1 != name

def setSlot (name : String) (own : Slot) (s : State) : State :=
  if (s.locals.lookup name).isSome then { s with locals := putSlot name own s.locals }
  else { s with globals := putSlot name own s.globals }

def fieldCount : String :=
  "NF"

def value (name : String) (s : State) : Value :=
  if name = fieldCount then .ofNat s.fields.length else (s.slot name).value

def defaultFormat : Bytes :=
  ofText "%.6g"

/-- How numbers become texts. -/
def format (s : State) : Bytes :=
  (s.value "CONVFMT").toText defaultFormat

def printFormat (s : State) : Bytes :=
  (s.value "OFMT").toText defaultFormat

def text (name : String) (s : State) : Bytes :=
  (s.value name).toText s.format

/-- The separator of fields. In paragraphs a line end separates words as well as a blank does. -/
def separator (s : State) : Separator :=
  match separatorOf (s.text "FS") with
  | .ok separator => separator
  | .error _ => .blanks

def setRecord (record : Bytes) (s : State) : State :=
  { s with record, fields := (splitBy s.separator record).map .input }

/-- Puts the fields together again. -/
def rebuilt (s : State) : State :=
  let texts := s.fields.map (Value.toText s.format)
  { s with record := (s.text "OFS").intercalate texts }

def field (n : Nat) (s : State) : Value :=
  if n = 0 then .input s.record else s.fields.getD (n - 1) .unset

def emptyField : Value :=
  .input []

def setFieldCount (n : Nat) (s : State) : State :=
  let missing := List.replicate (n - s.fields.length) emptyField
  { s with fields := s.fields.take n ++ missing }.rebuilt

def setField (n : Nat) (v : Value) (s : State) : State :=
  if n = 0 then s.setRecord (v.toText s.format)
  else
    let missing := List.replicate (n - s.fields.length) emptyField
    { s with fields := (s.fields ++ missing).set (n - 1) v }.rebuilt

def setValue (name : String) (v : Value) (s : State) : State :=
  if name = fieldCount then s.setFieldCount (v.toNumber.toInt?.getD 0).toNat
  else s.setSlot name { s.slot name with value := v }

def count (name : String) (s : State) : State :=
  s.setValue name (.number ((s.value name).toNumber.plus (.ofNat 1)))

/-- The number of the table that a name stands for, which is made if there is none. -/
def tableId (name : String) (s : State) : Nat × State :=
  let own := s.slot name
  match own.table with
  | some id => (id, s)
  | none =>
    let id := s.tables.size
    (id, { s with tables := s.tables.push [] }.setSlot name { own with table := some id })

def table (id : Nat) (s : State) : Table :=
  s.tables.getD id []

def setTable (id : Nat) (table : Table) (s : State) : State :=
  { s with tables := s.tables.setIfInBounds id table }

def fill (name : String) (entries : List (Bytes × Bool × Value)) (s : State) : State :=
  let (id, s) := s.tableId name
  s.setTable id (entries.foldl (fun table (key, isNumber, v) => table.put key isNumber v) [])

def counted (first : Nat) (values : List Value) : List (Bytes × Bool × Value) :=
  (values.zipIdx first).map fun (v, n) => (ofText (toString n), true, v)

def startGlobals : List (String × Slot) :=
  let texts : List (String × String) :=
    [ ("FS", " "), ("OFS", " "), ("RS", "\n"), ("ORS", "\n"), ("SUBSEP", "\x1c"),
      ("OFMT", "%.6g"), ("CONVFMT", "%.6g"), ("FILENAME", "") ]
  let numbers : List (String × Value) :=
    [ ("NR", .ofNat 0), ("FNR", .ofNat 0), ("RSTART", .ofNat 0),
      ("RLENGTH", .number (Numeral.ofNat 1).negated) ]
  (texts.map fun (name, text) => (name, ⟨.text (ofText text), none⟩))
    ++ numbers.map fun (name, v) => (name, ⟨v, none⟩)

def start (program : Program) (operands : List String) (shell : Shell) : State :=
  let arguments := (shell.name :: operands).map fun text => Value.input (ofText text)
  let environment := shell.environment.entries.map fun (name, text) =>
    (ofText name, false, Value.input (ofText text))
  let bare : State := {
    shell
    functions := program.functions
    globals := startGlobals
    locals := []
    tables := #[]
    record := []
    fields := []
    input := none
    operand := 1
    hasRead := false
    providers := []
    receivers := []
    pending := ByteArray.empty
    ranges := []
    seed := 0
    status := 0 }
  let filled := (bare.fill "ARGV" (counted 0 arguments)).fill "ENVIRON" environment
  filled.setValue "ARGC" (.ofNat arguments.length)

end State

end DtoGen.Awk

import DtoGen.Machine.Awk.State
import DtoGen.Machine.Redirection
import DtoGen.Machine.Process
import DtoGen.Machine.Tool.Input

namespace DtoGen.Awk

/-- Gives up with lines that tell why. -/
def failWith {α : Type} (lines : List String) : Run α :=
  throw (.fault lines)

def cannotOpen {α : Type} (what reason : String) : Run α := do
  failWith [(← get).shell.name ++ ": cannot open " ++ what ++ " (" ++ reason ++ ")"]

/-- Writes what has been kept back. -/
def flushed (s : State) : State :=
  let append (shell : Shell) (receiver : Receiver) : Shell :=
    if receiver.isCommand then shell
    else
      let path := Shell.absolutePath shell.tree ⟨receiver.name⟩
      { shell with tree := (shell.tree.appendBytes path receiver.content).2 }
  let written := s.receivers.map fun receiver =>
    if receiver.isCommand then receiver else { receiver with content := ByteArray.empty }
  { s with
    shell := s.receivers.foldl append (s.shell.write s.pending)
    pending := ByteArray.empty
    receivers := written }

def commandStatus : ExitStatus → Nat
  | .code n => n
  | .signal n => 256 + n

/-- Runs a command, in the shell as it is left by what goes before. -/
def runCommand (start : Shell.Starter) (text : Bytes) (shell : Shell) : Nat × Shell :=
  match start "/bin/sh" ["-c", shownText text] shell with
  | .ok (status, shell) => (commandStatus status, shell)
  | .error fault => (fault.status, shell)

def feedCommand (start : Shell.Starter) (text : Bytes) (input : ByteArray) (shell : Shell) :
    Nat × Shell :=
  let (status, result) := runCommand start text (shell.read 0 .pipe input)
  (status, { result with inputs := shell.inputs })

def readCommand (start : Shell.Starter) (text : Bytes) (shell : Shell) : Bytes × Nat × Shell :=
  let (content, result) := shell.captured fun shell =>
    let (status, shell) := runCommand start text shell
    shell.finish status
  (content.toList, result.status, result.finish shell.status)

def system (text : Bytes) : Run Value := do
  let start ← read
  let s := flushed (← get)
  let (status, shell) := runCommand start text s.shell
  set { s with shell }
  return .ofNat status

/-- What output can be sent to. -/
inductive Direction
  | standard
  | errors
  | file (path : String) (adds : Bool)
  | command (text : String)

def Direction.ofPath (path : String) (adds : Bool) : Direction :=
  if path = "-" || path = "/dev/stdout" then .standard
  else if path = "/dev/stderr" then .errors
  else .file path adds

/-- Makes or empties a file that is not open yet. -/
def openFile (path : String) (adds : Bool) : Run Unit := do
  let s ← get
  let tree := s.shell.tree
  let (isOpen, tree) :=
    if adds then tree.appendBytes ⟨path⟩ ByteArray.empty else tree.writeBytes ⟨path⟩ ByteArray.empty
  if isOpen then set { s with shell := { s.shell with tree } }
  else
    let reason := if (tree.find? ⟨path⟩).any Entry.isDirectory then Tool.isDirectoryText
      else tree.absence ⟨path⟩
    cannotOpen ("\"" ++ path ++ "\" for output") reason

/-- Keeps output for a file or a command, the one used last in front. -/
def keep (name : String) (isCommand : Bool) (content : ByteArray) (s : State) : State :=
  let isOwn (receiver : Receiver) : Bool := receiver.name == name && receiver.isCommand == isCommand
  let old := ((s.receivers.find? isOwn).map Receiver.content).getD ByteArray.empty
  let others := s.receivers.filter fun receiver => !isOwn receiver
  { s with receivers := ⟨name, isCommand, old ++ content⟩ :: others }

def isOpenFor (name : String) (isCommand : Bool) (s : State) : Bool :=
  s.receivers.any fun receiver => receiver.name == name && receiver.isCommand == isCommand

def send (direction : Direction) (content : ByteArray) : Run Unit := do
  match direction with
  | .standard => modify fun s => { s with pending := s.pending ++ content }
  | .errors =>
    modify fun s =>
      match s.shell.outputs.lookup 2 with
      | some sink => { s with shell := s.shell.pour content sink }
      | none => s
  | .file path adds =>
    if !isOpenFor path false (← get) then openFile path adds
    modify (keep path false content)
  | .command text =>
    if !isOpenFor text true (← get) then modify flushed
    modify (keep text true content)

/-- Ends an output. A command runs now; what is kept for a file is written. -/
def closeReceiver (start : Shell.Starter) (receiver : Receiver) (s : State) : Nat × State :=
  let isOther (other : Receiver) : Bool :=
    other.name != receiver.name || other.isCommand != receiver.isCommand
  let (status, s) : Nat × State :=
    if receiver.isCommand then
      let (status, shell) := feedCommand start (ofText receiver.name) receiver.content s.shell
      (status, { s with shell })
    else (0, { flushed { s with pending := ByteArray.empty } with pending := s.pending })
  (status, { s with receivers := s.receivers.filter isOther })

/-- Ends the inputs and outputs of a name. -/
def close (name : String) : Run Value := do
  let start ← read
  let s ← get
  let owns (other : String) : Bool := other == name
  match s.receivers.find? fun r => owns r.name, s.providers.find? fun p => owns p.name with
  | none, none => return .number (Numeral.ofNat 1).negated
  | some receiver, _ =>
    let (status, s) := closeReceiver start receiver s
    set s
    return .ofNat status
  | none, some provider =>
    set { s with providers := s.providers.filter fun p => !owns p.name }
    return .ofNat provider.status

/-- Ends everything that is open. Commands run before the rest of the output is written. -/
def closeAll (start : Shell.Starter) (s : State) : State :=
  let commands := s.receivers.filter Receiver.isCommand
  flushed (commands.foldl (fun s receiver => (closeReceiver start receiver s).2) s)

def takeTo (ending : UInt8) (bs : Bytes) : Bytes × Bytes :=
  let record := bs.takeWhile (· != ending)
  (record, bs.drop (record.length + 1))

/-- A paragraph, up to an empty line. The first line end is gone. -/
def paragraph : Bytes → Bytes × Bytes
  | [] => ([], [])
  | [10] => ([], [])
  | 10 :: 10 :: bs => ([], bs.dropWhile (· == 10))
  | b :: bs =>
    let (record, rest) := paragraph bs
    (b :: record, rest)

/-- The first record of a text, and what follows it. -/
def takeRecord (ending : Bytes) (bs : Bytes) : Option (Bytes × Bytes) :=
  match ending with
  | [] =>
    let bs := bs.dropWhile (· == 10)
    if bs.isEmpty then none else some (paragraph bs)
  | [b] => if bs.isEmpty then none else some (takeTo b bs)
  | ending =>
    if bs.isEmpty then none
    else
      match expressionOf ending with
      | .error _ => some (bs, [])
      | .ok e =>
        match firstMatch e [] bs with
        | some (front, _ :: _, rest) => some (front, rest)
        | _ => some (bs, [])

/-- A variable that an operand gives a value, and the value. -/
def assignment? (text : String) : Option (String × Value) :=
  let cs := text.toList
  let name := cs.takeWhile isNameChar
  match name, cs.drop name.length with
  | c :: _, '=' :: rest =>
    if isNameStart c then
      some (String.ofList name, .input (unescaped (String.ofList rest)))
    else none
  | _, _ => none

def standardPaths : List String :=
  ["-", "/dev/stdin"]

/-- The content of a file, or why it cannot be read. -/
def contentOf (path : String) (s : State) : Except String Bytes × State :=
  let (content, shell) :=
    if standardPaths.contains path then
      let (content, shell) := Tool.takeAll 0 s.shell
      (.ok content, shell)
    else Tool.fileContent path s.shell
  (content.map ByteArray.toList, { s with shell })

def readFrom (path : String) (s : State) (content : Bytes) : State :=
  ({ s with input := some content, hasRead := true }.setValue "FILENAME" (.text (ofText path))).setValue
    "FNR" (.ofNat 0)

/-- Goes to the next operand that is a file, if there is one. Without any, the standard input is
read. The first argument bounds the number of operands. -/
def openNext : Nat → Run Bool
  | 0 => return false
  | bound + 1 => do
    let s ← get
    let count := ((s.value "ARGC").toNumber.toInt?.getD 0).toNat
    if count ≤ s.operand then
      if s.hasRead then return false
      else
        let (content, s) := contentOf "-" s
        set (readFrom "-" s (content.toOption.getD []))
        return true
    else
      let (id, s) := s.tableId "ARGV"
      let key := ofText (toString s.operand)
      let path := shownText ((((s.table id).find? key).getD .unset).toText s.format)
      set { s with operand := s.operand + 1 }
      if path = "" then openNext bound
      else
        match assignment? path with
        | some (name, v) =>
          modify fun s => s.setValue name v
          openNext bound
        | none =>
          let (content, s) := contentOf path (← get)
          set s
          match content with
          | .ok content =>
            modify fun s => readFrom path s content
            return true
          | .error reason => cannotOpen path reason

def operandLimit : Nat := 10000

/-- The next record of the operands. The first argument bounds their number. -/
def nextRecord : Nat → Run (Option Bytes)
  | 0 => return none
  | bound + 1 => do
    let s ← get
    match s.input with
    | none => if ← openNext operandLimit then nextRecord bound else return none
    | some rest =>
      match takeRecord (s.text "RS") rest with
      | some (record, rest) =>
        set ((({ s with input := some rest } : State).count "NR").count "FNR")
        return some record
      | none =>
        set { s with input := none }
        nextRecord bound

/-- What a name provides, which is opened where it is not open yet. -/
def provider (name : String) (isCommand : Bool) : Run (Option Provider) := do
  let start ← read
  let s ← get
  match s.providers.find? fun p => p.name == name && p.isCommand == isCommand with
  | some own => return some own
  | none =>
    if isCommand then
      let s := flushed s
      let (rest, status, shell) := readCommand start (ofText name) s.shell
      let own : Provider := ⟨name, true, rest, status⟩
      set { s with shell, providers := own :: s.providers }
      return some own
    else
      match contentOf name (flushed { s with pending := ByteArray.empty }) with
      | (.ok rest, opened) =>
        let own : Provider := ⟨name, false, rest, 0⟩
        set { opened with pending := s.pending, providers := own :: s.providers }
        return some own
      | (.error _, _) => return none

/-- The next record of a file or of the output of a command: nothing where it cannot be opened, and
no record at its end. -/
def provided (name : String) (isCommand : Bool) : Run (Option (Option Bytes)) := do
  match ← provider name isCommand with
  | none => return none
  | some own =>
    let s ← get
    match takeRecord (s.text "RS") own.rest with
    | none => return some none
    | some (record, rest) =>
      let others := s.providers.filter fun p => p.name != name || p.isCommand != isCommand
      set { s with providers := { own with rest } :: others }
      return some (some record)

end DtoGen.Awk

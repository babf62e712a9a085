import DtoGen.Environment
import DtoGen.Machine.FileTree
import DtoGen.Machine.Invocation
import DtoGen.Machine.ShellOption
import DtoGen.Machine.Value

namespace DtoGen

inductive Sink
  | channel (n : Nat)
  | file (path : Path)
  | nowhere
  /-- Has no room for what is written. -/
  | full
deriving DecidableEq, Repr

inductive SourceKind
  | pipe
  | file
  | device
deriving DecidableEq, Repr

structure Source where
  content : ByteArray
  /-- How much has been read. -/
  position : Nat
  kind : SourceKind

namespace Source

def rest (source : Source) : ByteArray :=
  source.content.extract source.position source.content.size

/-- The end of the line that starts at a position, if the line has one. The first argument bounds
the length. -/
def lineEnd? (delimiter : UInt8) (content : ByteArray) : Nat → Nat → Option Nat
  | 0, _ => none
  | bound + 1, i =>
    match content[i]? with
    | none => none
    | some b => if b = delimiter then some i else lineEnd? delimiter content bound (i + 1)

end Source

/-- What leaves the commands around it: that many loops, that many loops but the last one, a
function, or the command line. -/
inductive Leap
  | leave (loops : Nat)
  | again (loops : Nat)
  | back
  | line
deriving DecidableEq, Repr

structure Job where
  id : Nat
  status : Nat
  /-- When the job is over, by the clock of the shell. -/
  ending : Nat
deriving DecidableEq, Repr

/-- A function that is running, and the line that has called it. -/
structure Activation where
  name : String
  line : Nat
deriving DecidableEq, Repr

abbrev Bindings := List (String × Variable)

structure Shell where
  tree : FileTree
  environment : Environment
  dialect : Dialect
  name : String
  /-- The script that is being read in place, which messages name instead. -/
  file : Option String
  arguments : List String
  bindings : Bindings
  functions : List (String × Script)
  aliases : List (String × String)
  /-- Options that have names only. -/
  settings : List String
  /-- For every function that is running, the variables that its own ones hide. -/
  hidden : List (List (String × Option Variable))
  /-- The functions that are running, the innermost one first. -/
  calls : List Activation
  /-- What to run on a signal, or at the end under `EXIT`. -/
  traps : List (String × String)
  /-- The traps of the script itself, where a part of it is a process of its own. -/
  scriptTraps : Option (List (String × String))
  /-- Texts of traps whose signals have come. -/
  caught : List String
  sources : Array Source
  /-- The sources that descriptors read. -/
  inputs : List (Nat × Nat)
  outputs : List (Nat × Sink)
  channels : List ByteArray
  options : List Char
  line : Nat
  /-- The command of the shell that is running, as messages have it. -/
  command : Option String
  /-- How many loops are running, up to the innermost function. -/
  loops : Nat
  status : Nat
  /-- How the parts of the last pipeline ended. -/
  statuses : List Nat
  jobs : List Job
  /-- Directories that are kept to come back to. -/
  stack : List String
  /-- Files that stand for commands, by their numbers. Those that are written to have a command that
  reads them in the end. -/
  processes : List (Nat × Option String)
  /-- Commands whose paths have been found, and how often they have been run. -/
  tracked : List (String × Nat)
  /-- How many texts that are read as scripts are around the command. -/
  depth : Nat
  /-- How much of a cluster of options has been looked at. -/
  clusterOffset : Nat
  /-- Milliseconds that have been waited for. -/
  clock : Nat
  /-- When the process is stopped from outside. -/
  deadline : Option Nat
  /-- How the last command inside of a word ended. -/
  collected : Option Nat
  leap : Option Leap
  ending : Option ExitStatus

namespace Shell

abbrev Command := List String → Shell → Shell

def bytes (text : String) : ByteArray :=
  text.toUTF8

def isExtended (shell : Shell) : Bool :=
  shell.dialect == .extended

/-- Whether no further command is run. -/
def isStopped (shell : Shell) : Bool :=
  shell.ending.isSome || shell.leap.isSome

def finish (status : Nat) (shell : Shell) : Shell :=
  { shell with status }

def stop (ending : ExitStatus) (shell : Shell) : Shell :=
  { shell with ending := some ending }

/-- Lets time pass, up to the end that is set from outside. -/
def pass (milliseconds : Nat) (shell : Shell) : Shell :=
  let clock := shell.clock + milliseconds
  match shell.deadline with
  | some limit =>
    if limit ≤ clock then { shell with clock := limit, ending := some (.signal 15) }
    else { shell with clock }
  | none => { shell with clock }

def hasOption (option : Char) (shell : Shell) : Bool :=
  shell.options.contains option

def hasSetting (name : String) (shell : Shell) : Bool :=
  shell.settings.contains name

def manner (shell : Shell) : Manner where
  dialect := shell.dialect
  hasPatternLists := shell.hasSetting "extglob"
  aliases :=
    if shell.dialect == .plain || shell.hasSetting "expand_aliases" then shell.aliases else []

def pour (content : ByteArray) (sink : Sink) (shell : Shell) : Shell :=
  match sink with
  | .channel n => { shell with channels := shell.channels.modify n (· ++ content) }
  | .file path => { shell with tree := (shell.tree.appendBytes path content).2 }
  | .nowhere => shell
  | .full => if content.isEmpty then shell else shell.finish 1

def write (content : ByteArray) (shell : Shell) : Shell :=
  match shell.outputs.lookup 1 with
  | some sink => shell.pour content sink
  | none => if content.isEmpty then shell else shell.finish 1

def say (text : String) (shell : Shell) : Shell :=
  shell.write (bytes text)

def warn (text : String) (shell : Shell) : Shell :=
  match shell.outputs.lookup 2 with
  | some sink => shell.pour (bytes (text ++ "\n")) sink
  | none => shell

/-- The place in the script, as messages have it. Outside of scripts one dialect tells none. -/
def placeTexts (shell : Shell) : List String :=
  match shell.dialect with
  | .plain => [toString shell.line]
  | .extended => if shell.line = 0 then [] else ["line " ++ toString shell.line]

/-- A message with the place in the script in front. -/
def complain (message : String) (status : Nat) (shell : Shell) : Shell :=
  let parts :=
    shell.file.getD shell.name :: shell.placeTexts ++ shell.command.toList ++ [message]
  (shell.warn (": ".intercalate parts)).finish status

def complainPlainly (message : String) (status : Nat) (shell : Shell) : Shell :=
  { { shell with command := none }.complain message status with command := shell.command }

/-- The status of what the shell itself cannot do. -/
def faultStatus : Dialect → Nat
  | .plain => 2
  | .extended => 1

/-- Gives up the script, or only the command line where the dialect is patient. -/
def giveUp (shell : Shell) : Shell :=
  let status := faultStatus shell.dialect
  match shell.dialect with
  | .plain => shell.stop (.code status)
  | .extended => { shell.finish status with leap := some .line }

/-- A message about a fault behind which the command line does not go on. -/
def abort (message : String) (shell : Shell) : Shell :=
  (shell.complain message (faultStatus shell.dialect)).giveUp

def abortScript (message : String) (shell : Shell) : Shell :=
  let status := if shell.isExtended && shell.hasOption 'c' then 127 else faultStatus shell.dialect
  (shell.complain message status).stop (.code status)

/-- A message in the words of the dialect; only one of them ends the script. -/
def refuse (plain extended : String) (status : Nat) (shell : Shell) : Shell :=
  match shell.dialect with
  | .plain => shell.abort plain
  | .extended => shell.complain extended status

def sourceOf? (descriptor : Nat) (shell : Shell) : Option Source := do
  shell.sources[← shell.inputs.lookup descriptor]?

def setSource (descriptor : Nat) (source : Source) (shell : Shell) : Shell :=
  match shell.inputs.lookup descriptor with
  | some n => { shell with sources := shell.sources.setIfInBounds n source }
  | none => shell

/-- Opens something new to read. -/
def openSource (descriptor : Nat) (kind : SourceKind) (content : ByteArray) (shell : Shell) :
    Shell :=
  let others := shell.inputs.filter fun entry => entry.1 != descriptor
  { shell with
    sources := shell.sources.push ⟨content, 0, kind⟩
    inputs := (descriptor, shell.sources.size) :: others }

def closeInput (descriptor : Nat) (shell : Shell) : Shell :=
  { shell with inputs := shell.inputs.filter fun entry => entry.1 != descriptor }

def takeInput (shell : Shell) : ByteArray × Shell :=
  match shell.sourceOf? 0 with
  | some source =>
    (source.rest, shell.setSource 0 { source with position := source.content.size })
  | none => (ByteArray.empty, shell)

/-- The next bytes up to a delimiter, and whether it is there. -/
def takeUntil (descriptor : Nat) (delimiter : UInt8) (shell : Shell) :
    List UInt8 × Bool × Shell :=
  match shell.sourceOf? descriptor with
  | none => ([], false, shell)
  | some source =>
    let start := source.position
    let size := source.content.size
    let stop := Source.lineEnd? delimiter source.content (size - start) start
    let position := stop.elim size (· + 1)
    ((source.content.extract start (stop.getD size)).toList, stop.isSome,
      shell.setSource descriptor { source with position })

/-- A number that stands for the shell's own process. -/
def processId : String :=
  "4711"

def parentId : String :=
  "4710"

def firstJobId : Nat := 4712

def workingPath (shell : Shell) : String :=
  "/" ++ "/".intercalate shell.tree.workingDirectory

def searchPath : String :=
  "/usr/local/sbin:/usr/local/bin:/usr/sbin:/usr/bin:/sbin:/bin"

def startVariables : Dialect → List (String × String)
  | .plain =>
    [ ("IFS", " \t\n"), ("OPTIND", "1"), ("PATH", searchPath), ("PPID", parentId), ("PS1", "# "),
      ("PS2", "> "), ("PS4", "+ ") ]
  | .extended =>
    [ ("BASH", "/bin/bash"), ("BASHPID", processId), ("BASH_VERSION", "5.2.15(1)-release"),
      ("EUID", "0"), ("HOSTTYPE", "x86_64"), ("IFS", " \t\n"), ("MACHTYPE", "x86_64-pc-linux-gnu"),
      ("OPTERR", "1"), ("OPTIND", "1"), ("OSTYPE", "linux-gnu"), ("PATH", searchPath),
      ("PPID", parentId), ("PS4", "+ "), ("RANDOM", "17325"), ("SHLVL", "1"), ("UID", "0") ]

/-- Variables whose values follow the state of the shell. -/
def livingValue? (name : String) (shell : Shell) : Option Value :=
  match shell.dialect, name with
  | .plain, _ => none
  | .extended, "LINENO" => some (.single (toString shell.line))
  | .extended, "SECONDS" => some (.single (toString (shell.clock / 1000)))
  | .extended, "PIPESTATUS" => some (.ofList (shell.statuses.map toString))
  | .extended, "FUNCNAME" =>
    if shell.calls.isEmpty then none
    else some (.ofList (shell.calls.map Activation.name ++ ["main"]))
  | .extended, "BASH_LINENO" =>
    some (.ofList ((shell.calls.map fun call => toString call.line) ++ ["0"]))
  | .extended, "BASH_SOURCE" =>
    some (.ofList (shell.file.getD shell.name :: shell.calls.map fun _ => shell.name))
  | .extended, "BASH_VERSINFO" =>
    some (.ofList ["5", "2", "15", "1", "release", "x86_64-pc-linux-gnu"])
  | .extended, _ => none

/-- A variable by its name; those of the environment are exported. -/
def variableOf? (name : String) (shell : Shell) : Option Variable :=
  match shell.bindings.lookup name, shell.livingValue? name with
  | some v, _ => some v
  | none, some value => some ⟨some value, []⟩
  | none, none =>
    match shell.environment name with
    | some text => some ⟨some (.single text), ['x']⟩
    | none =>
      ((startVariables shell.dialect).lookup name).map fun text => ⟨some (.single text), []⟩

/-- The name that a variable stands for, where it is only another name. The first argument bounds
how often. -/
def targetName (shell : Shell) : Nat → String → String
  | 0, name => name
  | bound + 1, name =>
    match shell.bindings.lookup name with
    | some ⟨some (.single target), letters⟩ =>
      if letters.contains 'n' && target != "" then targetName shell bound target else name
    | _ => name

def aliasDepth : Nat := 8

def lookup? (name : String) (shell : Shell) : Option Variable :=
  shell.variableOf? (shell.targetName aliasDepth name)

def valueOf? (name : String) (shell : Shell) : Option String :=
  (shell.lookup? name).bind fun v => v.value.bind Value.scalar?

def hasAttribute (letter : Char) (name : String) (shell : Shell) : Bool :=
  (shell.lookup? name).any (·.has letter)

def parameter? (name : String) (shell : Shell) : Option String :=
  match name with
  | "*" | "@" => if shell.arguments.isEmpty then none else some (" ".intercalate shell.arguments)
  | "#" => some (toString shell.arguments.length)
  | "?" => some (toString shell.status)
  | "$" => some processId
  | "!" => shell.jobs.head?.map fun job => toString job.id
  | "-" => some (ShellOption.shown shell.dialect shell.options)
  | "0" => some shell.name
  | _ =>
    match name.toNat? with
    | some n => shell.arguments[n - 1]?
    | none => shell.valueOf? name

/-- Characters at which unquoted values fall apart. -/
def separators (shell : Shell) : List Char :=
  ((shell.valueOf? "IFS").getD " \t\n").toList

def putBinding (name : String) (v : Variable) (bindings : Bindings) : Bindings :=
  (name, v) :: bindings.filter fun entry => entry.1 != name

def putVariable (name : String) (v : Variable) (shell : Shell) : Shell :=
  { shell with bindings := putBinding name v shell.bindings }

def refuseReadOnly (name : String) (shell : Shell) : Shell :=
  match shell.dialect with
  | .plain => shell.abort (name ++ ": is read only")
  | .extended => shell.complainPlainly (name ++ ": readonly variable") 1

/-- The letter case that a variable wants. -/
def recased (v : Variable) (text : String) : String :=
  if v.has 'l' then text.toLower else if v.has 'u' then text.toUpper else text

/-- Gives a variable a value of any form. -/
def setValue (name : String) (value : Value) (shell : Shell) : Shell :=
  let name := shell.targetName aliasDepth name
  let v := (shell.variableOf? name).getD .absent
  if v.has 'r' then shell.refuseReadOnly name
  else
    let v := if shell.hasOption 'a' then v.mark 'x' else v
    let shell := if name = "OPTIND" then { shell with clusterOffset := 0 } else shell
    let shell := if name = "PATH" then { shell with tracked := [] } else shell
    shell.putVariable name { v with value := some value }

/-- Gives a variable a text. One that holds several values takes it at its start. -/
def set (name text : String) (shell : Shell) : Shell :=
  let v := (shell.lookup? name).getD .absent
  let text := recased v text
  match v.value with
  | some (.list _) => shell.setValue name (.putAt 0 text v.value)
  | some (.table _) => shell.setValue name (.putKey "0" text v.value)
  | _ => shell.setValue name (.single text)

def unset (name : String) (shell : Shell) : Shell :=
  let name := shell.targetName aliasDepth name
  if shell.hasAttribute 'r' name then
    match shell.dialect with
    | .plain => shell.refuseReadOnly name
    | .extended => shell.complain (name ++ ": cannot unset: readonly variable") 1
  else shell.putVariable name .absent

/-- Marks a variable, whether or not it has a value. -/
def markVariable (letter : Char) (name : String) (shell : Shell) : Shell :=
  shell.putVariable name (((shell.variableOf? name).getD .absent).mark letter)

def unmarkVariable (letter : Char) (name : String) (shell : Shell) : Shell :=
  shell.putVariable name (((shell.variableOf? name).getD .absent).unmark letter)

/-- Gives variables back what they were. -/
def restore (saved : List (String × Option Variable)) (shell : Shell) : Shell :=
  saved.foldl
    (fun shell (name, old) =>
      let others := shell.bindings.filter fun entry => entry.1 != name
      match old with
      | some v => { shell with bindings := (name, v) :: others }
      | none => { shell with bindings := others })
    shell

/-- The names of all variables that have been given a value, or that were there from the start. -/
def variableNames (shell : Shell) : List String :=
  let names := shell.bindings.map Prod.fst ++ shell.environment.names
    ++ (startVariables shell.dialect).map Prod.fst
  let valued := names.eraseDups.filter fun name =>
    (shell.variableOf? name).any fun v => v.value.isSome || !v.attributes.isEmpty
  valued.mergeSort fun a b => decide (a ≤ b)

/-- The environment of the programs that the script starts. -/
def childEnvironment (shell : Shell) : Environment :=
  let names := shell.environment.names ++ (shell.bindings.map Prod.fst).reverse
  .ofEntries <| names.eraseDups.filterMap fun name => do
    let v ← shell.variableOf? name
    let text ← v.value.bind Value.scalar?
    if v.has 'x' then some (name, text) else none

end Shell

end DtoGen

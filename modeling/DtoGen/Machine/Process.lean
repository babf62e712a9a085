import DtoGen.Machine.Builtin
import DtoGen.Machine.Program
import DtoGen.Machine.Redirection

namespace DtoGen.Shell

/-- Runs a script. The failure of a command that is tested ends nothing. -/
abbrev Runner := Bool → Script → Shell → Shell

/-- A text that is to be run. -/
structure Reading where
  /-- What messages about its form have behind the name of the script. -/
  title : Option String
  line : Nat
  text : String

def tellFault (reading : Reading) (fault : ScriptFault) (shell : Shell) : Shell :=
  let passage : Script.Passage := ⟨reading.text.toList, reading.line⟩
  let messages := Script.Fault.messages shell.dialect passage fault
  let shell := { shell with line := fault.line }
  match shell.dialect with
  | .plain => messages.foldl (fun shell message => shell.abort message) shell
  | .extended =>
    let name := ": ".intercalate (shell.file.getD shell.name :: reading.title.toList)
    let told := messages.foldl
      (fun shell message => shell.complainPlainly message 2) { shell with file := some name }
    { told with file := shell.file }

/-- What comes behind a fault that only the command line does not survive. In a process of its own
nothing does. -/
def nextLine (shell : Shell) : Shell :=
  if shell.leap == some .line && shell.scriptTraps.isNone then { shell with leap := none }
  else shell

/-- Runs one command line after the other. The first argument bounds their number. -/
def runLines (run : Runner) (isTested : Bool) (reading : Reading) :
    Nat → Script.Reader → Shell → Shell
  | 0, _, shell => shell
  | bound + 1, reader, shell =>
    if shell.isStopped then shell
    else
      match reader.next? with
      | none => shell
      | some (.error fault) => tellFault reading fault shell
      | some (.ok (script, reader)) =>
        let manner := shell.manner
        let shell := if shell.hasOption 'n' then shell else nextLine (run isTested script shell)
        let reader := if shell.manner = manner then reader else reader.renew shell.manner
        runLines run isTested reading bound reader shell

/-- Runs the command lines of a text, up to the first that is not one. -/
def runText (run : Runner) (isTested : Bool) (reading : Reading) (shell : Shell) : Shell :=
  let passage : Script.Passage := ⟨reading.text.toList, reading.line⟩
  let reader := passage.reader shell.manner
  let isEmpty := reader.next?.isNone
  let shell := if isEmpty then shell.finish 0 else shell
  let result := runLines run isTested reading (reading.text.length + 1) reader
    { shell with depth := shell.depth + 1 }
  { result with depth := shell.depth }

/-- Runs the text of a trap, which keeps the status. -/
def runTrap (run : Runner) (title text : String) (shell : Shell) : Shell :=
  let line := if shell.isExtended then max shell.line 1 else 1
  let result := runText run false ⟨some title, line, text⟩ shell
  if result.isStopped then result else { result.finish shell.status with line := shell.line }

def exitTrap : String :=
  "EXIT"

/-- Runs what is left for the end, which keeps the status unless it ends the script itself. -/
def atEnd (run : Runner) (shell : Shell) : Shell :=
  match shell.ending, shell.traps.lookup exitTrap with
  | some (.signal _), _ | _, none => shell
  | ending, some text =>
    let status :=
      match ending with
      | some (.code n) => n
      | _ => shell.status
    let traps := shell.traps.filter fun entry => entry.1 != exitTrap
    let shell := runText run false ⟨some "exit trap", 1, text⟩
      { shell.finish status with traps, leap := none, ending := none }
    { shell with ending := shell.ending.or (some (.code status)) }

def attend (run : Runner) (shell : Shell) : Shell :=
  if shell.scriptTraps.isSome || shell.caught.isEmpty then shell
  else
    shell.caught.foldl (fun shell text => runTrap run "trap" text shell) { shell with caught := [] }

/-- What one process leaves behind for another: files, output and the rest of the input. -/
def after (child shell : Shell) : Shell :=
  { shell with
    tree := { child.tree with
      workingDirectory := shell.tree.workingDirectory
      mask := shell.tree.mask }
    channels := child.channels
    sources := child.sources
    clock := max shell.clock child.clock
    processes := child.processes }

/-- Runs a part of the script as a process of its own. A signal reaches the script itself. -/
def apart (run : Runner) (body : Shell → Shell) (shell : Shell) : Shell :=
  let traps := shell.traps.filter fun entry =>
    entry.2 == "" || (shell.isExtended && (entry.1 == "ERR" && shell.hasOption 'E'
      || entry.1 == "DEBUG" && shell.hasOption 'T'))
  let child := body { shell with
    traps
    scriptTraps := some (shell.scriptTraps.getD shell.traps) }
  let child := atEnd run { child with leap := none }
  let parent := { child.after shell with caught := child.caught }
  match child.ending with
  | some (.signal n) => parent.stop (.signal n)
  | some (.code n) => parent.finish n
  | none => parent.finish child.status

/-- Runs something with its output collected. -/
def captured (body : Shell → Shell) (shell : Shell) : ByteArray × Shell :=
  let number := shell.channels.length
  let opened := { shell with channels := shell.channels ++ [ByteArray.empty] }
  let result := body (opened.aim 1 (.channel number))
  (result.channels.getD number ByteArray.empty,
    { result with
      channels := result.channels.take number
      outputs := shell.outputs
      inputs := shell.inputs })

/-- The text that stands for a command in a word. -/
def outputText (content : ByteArray) : String :=
  let bs := content.toList.filter (· != 0)
  Text.decode ⟨(bs.reverse.dropWhile (· == 10)).reverse.toArray⟩

def inputOnly? (reading : Reading) (shell : Shell) : Option (List Redirect) :=
  let passage : Script.Passage := ⟨reading.text.toList, reading.line⟩
  match shell.dialect, (passage.reader shell.manner).next? with
  | .extended, some (.ok (.simple ⟨_, [], [], [⟨0, .input word⟩]⟩, reader)) =>
    if reader.next?.isNone then some [⟨0, .input word⟩] else none
  | _, _ => none

/-- Where the files are that stand for commands. -/
def processPlace (number : Nat) : Place :=
  ["proc", "self", "fd", toString number]

def firstProcess : Nat := 63

mutual

/-- The output of a text. The first argument bounds how deep such texts stand in redirections. -/
def collectFrom (run : Runner) : Nat → String → Shell → String × Shell
  | 0, _, shell => ("", shell)
  | bound + 1, text, shell =>
    let reading : Reading := ⟨some "command substitution", max shell.line 1, text⟩
    let options := if shell.isExtended && !shell.hasSetting "inherit_errexit" then
        shell.options.filter (· != 'e') else shell.options
    let body : Shell → Shell :=
      match inputOnly? reading shell with
      | some redirects =>
        redirected (substitution run bound) redirects id fun shell =>
          let (content, shell) := shell.takeInput
          (shell.finish 0).write content
      | none => runText run false reading
    let (content, result) := shell.captured fun inner =>
      { apart run body { inner with options } with options := shell.options }
    (outputText content,
      { result with status := shell.status, collected := some result.status })

/-- A file that stands for a command. -/
def processFrom (run : Runner) : Nat → String → Bool → Shell → String × Shell
  | 0, _, _, shell => ("", shell)
  | _ + 1, text, isSource, shell =>
    let number := firstProcess - shell.processes.length
    let path := "/dev/fd/" ++ toString number
    let put (content : ByteArray) (script : Option String) (shell : Shell) : Shell :=
      { shell with
        tree := shell.tree.set (processPlace number) (.file content Entry.plainMode)
        processes := (number, script) :: shell.processes }
    if isSource then
      let reading : Reading := ⟨some "process substitution", max shell.line 1, text⟩
      let (content, result) := shell.captured (apart run (runText run false reading))
      (path, put content none (result.finish shell.status))
    else (path, put ByteArray.empty (some text) shell)

def substitution (run : Runner) : Nat → Substitution
  | 0 => ⟨fun _ shell => ("", shell), fun _ _ shell => ("", shell)⟩
  | bound + 1 => ⟨collectFrom run bound, processFrom run bound⟩

end

def substitutionDepth : Nat := 64

def collect (run : Runner) : Substitution :=
  substitution run substitutionDepth

/-- Takes away the files that stand for commands, down to so many. What was written to one is read
by its command. The first argument bounds their number. -/
def endProcesses (run : Runner) (count : Nat) : Nat → Shell → Shell
  | 0, shell => shell
  | bound + 1, shell =>
    if shell.processes.length ≤ count then shell
    else
      match shell.processes with
      | [] => shell
      | (number, script) :: others =>
        let place := processPlace number
        let content := ((shell.tree.entry? place).bind Entry.content?).getD ByteArray.empty
        let shell := { shell with tree := shell.tree.remove place, processes := others }
        let shell :=
          match script with
          | some text =>
            let reading : Reading := ⟨some "process substitution", max shell.line 1, text⟩
            let body (shell : Shell) : Shell :=
              apart run (runText run false reading) (shell.read 0 .pipe content)
            let result := body shell
            { result.finish shell.status with inputs := shell.inputs, outputs := shell.outputs }
          | none => shell
        endProcesses run count bound shell

def runMain (run : Runner) (reading : Reading) (shell : Shell) : ExitStatus × Shell :=
  let result := atEnd run (runText run false reading shell)
  let status := result.ending.getD (.code result.status)
  let result := endProcesses run shell.processes.length result.processes.length
    { result with ending := none, leap := none }
  (status, result)

/-- Runs the parts of a pipeline. Each reads what the one before has written; what a part leaves of
the input stays. Answers with how the parts have ended. -/
def pipeline (run : Runner) : List (Shell → Shell) → Shell → List Nat × Shell
  | [], shell => ([], shell)
  | [last], shell =>
    let result :=
      if shell.isExtended && shell.hasSetting "lastpipe" then last shell else apart run last shell
    ([result.status], result)
  | part :: parts, shell =>
    let (content, fed) := shell.captured (apart run part)
    if fed.isStopped then ([fed.status], fed)
    else
      let (statuses, result) := pipeline run parts
        ((fed.read 0 .pipe content).finish shell.status)
      (fed.status :: statuses, { result with inputs := shell.inputs, outputs := shell.outputs })

/-- The last failure among the parts of a pipeline. -/
def lastFailure (statuses : List Nat) : Nat :=
  (statuses.reverse.find? (· != 0)).getD 0

def runPipeline (run : Runner) (parts : List (Shell → Shell)) (shell : Shell) : Shell :=
  let (statuses, result) := pipeline run parts shell
  let status := if shell.hasOption 'o' then lastFailure statuses else result.status
  { result.finish status with statuses }

/-- Runs a part of the script beside it. -/
def background (run : Runner) (body : Shell → Shell) (shell : Shell) : Shell :=
  let result := apart run body (shell.read 0 .device ByteArray.empty)
  let job : Job := ⟨firstJobId + shell.jobs.length, result.status, result.clock⟩
  { result.finish 0 with
    jobs := job :: shell.jobs
    clock := shell.clock
    inputs := shell.inputs
    outputs := shell.outputs }

/-- A shell at the start of a script. -/
def fresh (tree : FileTree) (environment : Environment) (sources : Array Source)
    (inputs : List (Nat × Nat)) (outputs : List (Nat × Sink)) (channels : List ByteArray)
    (clock : Nat) : Shell where
  tree := tree
  environment := environment
  dialect := .plain
  name := ""
  file := none
  arguments := []
  bindings := []
  functions := []
  aliases := []
  settings := []
  hidden := []
  calls := []
  traps := []
  scriptTraps := none
  caught := []
  sources := sources
  inputs := inputs
  outputs := outputs
  channels := channels
  options := []
  line := 0
  command := none
  loops := 0
  status := 0
  statuses := []
  jobs := []
  stack := []
  processes := []
  tracked := []
  depth := 0
  clusterOffset := 0
  clock := clock
  deadline := none
  collected := none
  leap := none
  ending := none

/-- The shell of a program that is started from another shell. -/
def child (name : String) (arguments : List String) (shell : Shell) : Shell :=
  { fresh shell.tree shell.childEnvironment shell.sources shell.inputs shell.outputs shell.channels
      shell.clock with
    name, arguments, processes := shell.processes, deadline := shell.deadline }

def startBindings (dialect : Dialect) (shell : Shell) : Bindings :=
  let exported (text : String) : Variable := ⟨some (.single text), ['x']⟩
  let level := ((shell.environment "SHLVL").bind String.toNat?).getD 0 + 1
  let place := ("PWD", exported shell.workingPath)
  match dialect with
  | .plain => [place]
  | .extended => [place, ("SHLVL", exported (toString level))]

def speaking (dialect : Dialect) (shell : Shell) : Shell :=
  { shell with
    dialect
    bindings := shell.startBindings dialect ++ shell.bindings
    options := ShellOption.start dialect
    settings := match dialect with
      | .plain => []
      | .extended => ShellOption.startSettings }

/-- How a shell is started: whether the script is an argument or the standard input, and what
follows the options. -/
structure Call where
  takesText : Bool
  takesInput : Bool
  rest : List String

def callLetters : List Char :=
  ['c', 's', 'i', 'l']

/-- Long options of the extended shell that change nothing here. -/
def idleOptions : List String :=
  ["--norc", "--noprofile", "--login", "--posix", "--noediting"]

/-- Reads the options of a shell. The first argument bounds their number. -/
def callFrom : Nat → List String → Call → Shell → Call × Shell
  | 0, rest, call, shell => ({ call with rest }, shell)
  | _, [], call, shell => ({ call with rest := [] }, shell)
  | bound + 1, first :: rest, call, shell =>
    let options (isOn : Bool) (cs : List Char) : Call × Shell :=
      let call := { call with
        takesText := call.takesText || cs.contains 'c'
        takesInput := call.takesInput || cs.contains 's' }
      let others := cs.filter fun c => !callLetters.contains c
      let (rest, shell) := Builtin.turnAll isOn others rest shell
      let shell := if cs.contains 'c' then Builtin.turn true 'c' shell else shell
      if shell.isStopped then (call, shell)
      else if shell.status != 0 then (call, shell.stop (.code shell.status))
      else callFrom bound rest call shell
    match first.toList with
    | ['-'] | ['-', '-'] => ({ call with rest }, shell)
    | '-' :: '-' :: _ =>
      if shell.isExtended && idleOptions.contains first then callFrom bound rest call shell
      else
        (call, (shell.warn (shell.name ++ ": " ++ first ++ ": invalid option")).stop (.code 2))
    | ['-', 'O'] =>
      let name := rest.headD ""
      callFrom bound rest.tail call { shell with settings := name :: shell.settings }
    | '-' :: cs => options true cs
    | '+' :: cs => options false cs
    | _ => ({ call with rest := first :: rest }, shell)

/-- Tells that there is no script to read. -/
def refuseScript (file : String) (reason : String) (shell : Shell) : ExitStatus × Shell :=
  match shell.dialect with
  | .plain =>
    let shell := shell.complain ("cannot open " ++ file ++ ": No such file") 2
    (.code 2, shell)
  | .extended =>
    let isDirectory := reason = "Is a directory"
    let front := if isDirectory then file ++ ": " ++ file else shell.name ++ ": " ++ file
    (.code (if isDirectory then 126 else 127), shell.warn (front ++ ": " ++ reason))

def runShell (run : Runner) (launch : Launch) (dialect : Dialect) (shell : Shell) :
    ExitStatus × Shell :=
  let stopped (shell : Shell) : ExitStatus × Shell :=
    (shell.ending.getD (.code shell.status), shell)
  let (call, shell) := callFrom (launch.arguments.length + 1) launch.arguments ⟨false, false, []⟩
    ((shell.child launch.name []).speaking dialect)
  if shell.isStopped then stopped shell
  else
    match call.takesText, call.takesInput, call.rest with
    | true, _, [] =>
      match dialect with
      | .plain => stopped (shell.abort "-c requires an argument")
      | .extended =>
        (.code 2, shell.warn (shell.name ++ ": -c: option requires an argument"))
    | true, _, text :: rest =>
      runMain run ⟨some "-c", 1, text⟩
        { shell with name := rest.headD launch.name, arguments := rest.drop 1 }
    | false, false, file :: arguments =>
      match shell.tree.find? ⟨file⟩, shell.tree.readBytes? ⟨file⟩ with
      | some .directory, _ =>
        match dialect with
        | .plain => (.code 0, shell)
        | .extended => refuseScript file "Is a directory" shell
      | _, some content =>
        runMain run ⟨none, 1, Text.decode content⟩ { shell with name := file, arguments }
      | _, none => refuseScript file (shell.tree.absence ⟨file⟩) shell
    | false, _, arguments =>
      let (content, shell) := shell.takeInput
      runMain run ⟨none, 1, Text.decode content⟩ { shell with arguments }

end DtoGen.Shell

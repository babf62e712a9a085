import DtoGen.Machine.Naming
import DtoGen.Machine.Process
import DtoGen.Machine.Toolbox

namespace DtoGen.Shell

open Builtin (Operand)

/-- Commands of the shell that are programs as well, and tools. -/
def runCommand (name : String) (arguments : List String) (shell : Shell) : Shell :=
  match Toolbox.tools.lookup name, (Builtin.ordinary .plain).lookup name with
  | some tool, _ => tool arguments shell
  | none, some command => command arguments { shell with dialect := .extended }
  | none, none => shell

def runTool (run : Runner) (starter : Starter) (launch : Launch) (shell : Shell) :
    ExitStatus × Shell :=
  let own := shell.child launch.name []
  let (status, result) :=
    match launch.tool, Toolbox.launchers.lookup launch.tool with
    | "dash", _ => runShell run launch .plain shell
    | "bash", _ => runShell run launch .extended shell
    | _, some launcher => launcher starter launch.arguments own
    | name, none =>
      let result := runCommand name launch.arguments own
      (result.ending.getD (.code result.status), result)
  (status, result.after shell)

/-- Runs a file that does not say what reads it as a script. -/
def runUnmarked (run : Runner) (path text : String) (arguments : List String) (shell : Shell) :
    ExitStatus × Shell :=
  let (status, result) := runMain run ⟨none, 1, text⟩
    ((shell.child path arguments).speaking shell.dialect)
  (status, result.after shell)

/-- Starts a program. The first argument bounds how often a program only starts another one. -/
def start (run : Runner) : Nat → Starter
  | 0, _, _, _ => .error .missing
  | bound + 1, program, arguments, shell =>
    let searchPath := (shell.valueOf? "PATH").getD ""
    match Launch.ofName? shell.tree searchPath program arguments with
    | .ok launch => .ok (runTool run (start run bound) launch shell)
    | .error (.unmarked path text) => .ok (runUnmarked run path text arguments shell)
    | .error fault => .error fault

/-- How many programs may start one another. -/
def startLimit : Nat := 40

/-- Goes on after a program has ended. -/
def await (status : ExitStatus) (shell : Shell) : Shell :=
  if shell.deadline.any (· ≤ shell.clock) then shell.stop (.signal 15)
  else
    match status with
    | .code n => shell.finish n
    | .signal n =>
      let shell :=
        match shell.dialect, Signal.describe? n with
        | .plain, some text => shell.warn text
        | _, _ => shell
      shell.finish (128 + n)

/-- Runs a command of the shell, which messages name. -/
def named (name : String) (body : Shell → Shell) (shell : Shell) : Shell :=
  { body { shell with command := some name } with command := shell.command }

/-- Traps that a function does not take over, by the options that make it. -/
def isOwnTrap (shell : Shell) (name : String) : Bool :=
  shell.isExtended &&
    match name with
    | "ERR" => !shell.hasOption 'E'
    | "DEBUG" | "RETURN" => !shell.hasOption 'T'
    | _ => false

/-- Runs something with its own traps for what is no signal. Those of the caller come back, unless
they have been set anew. -/
def withOwnTraps (run : Runner) (body : Shell → Shell) (shell : Shell) : Shell :=
  let (own, others) := shell.traps.partition fun entry => isOwnTrap shell entry.1
  let result := body { shell with traps := others }
  let result :=
    match result.isExtended, result.traps.lookup "RETURN" with
    | true, some text =>
      if result.ending.isSome then result
      else
        let told := runTrap run "return trap" text { result with leap := none }
        if told.ending.isSome then told else { told with leap := result.leap }
    | _, _ => result
  let hidden := own.filter fun entry => (result.traps.lookup entry.1).isNone
  { result with traps := result.traps ++ hidden }

/-- Runs a function. What it declares as its own gets back the value that it had. In one dialect
every function looks through its own arguments from the start. -/
def callFunction (run : Runner) (isTested : Bool) (name : String) (body : Script)
    (arguments : List String) (shell : Shell) : Shell :=
  let isPlain := !shell.isExtended
  let place := shell.bindings.lookup "OPTIND"
  let entered := { shell with
    arguments
    hidden := [] :: shell.hidden
    calls := ⟨name, shell.line⟩ :: shell.calls
    loops := 0 }
  let entered := if isPlain && place.isSome then entered.set "OPTIND" "1" else entered
  let result := withOwnTraps run (run isTested body) entered
  let result := result.restore (result.hidden.headD [])
  let result := if isPlain && place.isSome then
      { result.restore [("OPTIND", place)] with clusterOffset := shell.clusterOffset }
    else result
  { result with
    arguments := shell.arguments
    hidden := shell.hidden
    calls := shell.calls
    loops := shell.loops
    leap := if result.leap == some .back then none else result.leap }

def evalCommand (run : Runner) (isTested : Bool) (arguments : List String) (shell : Shell) :
    Shell :=
  let arguments := if arguments.head? = some "--" then arguments.tail else arguments
  let text := " ".intercalate arguments
  match shell.dialect with
  | .plain => named "eval" (runText run isTested ⟨none, 1, text⟩) shell
  | .extended => runText run isTested ⟨some "eval", max shell.line 1, text⟩ shell

/-- The file that is read in place by a name. A name without a slash is looked for. -/
def scriptPath? (name : String) (shell : Shell) : Option String :=
  if name.toList.contains '/' then some name
  else
    let paths := Launch.candidates ((shell.valueOf? "PATH").getD "") name
    let isFile (path : String) : Bool :=
      match shell.tree.find? ⟨path⟩ with
      | some (.file _ _) | some (.program _) => true
      | _ => false
    match paths.find? isFile, shell.dialect with
    | some path, _ => some path
    | none, .plain => none
    | none, .extended => some name

def readInPlace (run : Runner) (isTested : Bool) (path text : String) (arguments : List String)
    (shell : Shell) : Shell :=
  let body := runText run isTested ⟨none, 1, text⟩
  let result :=
    match shell.dialect with
    | .plain => named path body shell
    | .extended =>
      let entered := { shell with
        command := none
        file := some path
        calls := ⟨"source", shell.line⟩ :: shell.calls
        arguments := if arguments.isEmpty then shell.arguments else arguments }
      let result := body entered
      { result with
        command := shell.command
        file := shell.file
        calls := shell.calls
        line := shell.line
        arguments := if arguments.isEmpty then result.arguments else shell.arguments }
  { result with leap := if result.leap == some .back then none else result.leap }

/-- Reads another script in place. -/
def sourceCommand (run : Runner) (isTested : Bool) (command : String) (arguments : List String)
    (shell : Shell) : Shell :=
  match if arguments.head? = some "--" then arguments.tail else arguments, shell.dialect with
  | [], .plain => shell.finish 0
  | [], .extended =>
    (shell.complain "filename argument required" 2).warn
      (command ++ ": usage: " ++ command ++ " filename [arguments]")
  | name :: arguments, dialect =>
    match shell.scriptPath? name with
    | none => shell.abort (name ++ ": not found")
    | some path =>
      match shell.tree.find? ⟨path⟩, shell.tree.readBytes? ⟨path⟩, dialect with
      | some .directory, _, .extended => shell.complain (path ++ ": is a directory") 1
      | some .directory, _, .plain => readInPlace run isTested path "" arguments shell
      | _, some content, _ =>
        readInPlace run isTested path (Text.decode content) arguments shell
      | _, none, .plain => shell.abort ("cannot open " ++ path ++ ": No such file")
      | _, none, .extended =>
        shell.complainPlainly (path ++ ": " ++ shell.tree.absence ⟨path⟩) 1

def startFault (dialect : Dialect) (program : String) (fault : LaunchFault) : String :=
  let hasSlash := program.toList.contains '/'
  match dialect, fault with
  | .plain, .missing => if program = "" then "Permission denied" else "not found"
  | .plain, .noReader | .plain, .blocked => "not found"
  | .plain, _ => "Permission denied"
  | .extended, .missing => if hasSlash then "No such file or directory" else "command not found"
  | .extended, .isDirectory => "Is a directory"
  | .extended, .blocked => "Not a directory"
  | .extended, .noReader => "cannot execute: required file not found"
  | .extended, .badReader reader => reader ++ ": bad interpreter: Permission denied"
  | .extended, _ => "Permission denied"

def startStatus (dialect : Dialect) : LaunchFault → Nat
  | .missing | .noReader => 127
  | .blocked => if dialect == .plain then 127 else 126
  | _ => 126

def complainOfStart (program : String) (fault : LaunchFault) (shell : Shell) : Shell :=
  shell.complain (program ++ ": " ++ startFault shell.dialect program fault)
    (startStatus shell.dialect fault)

/-- Runs a program, which learns its own path in one dialect. -/
def runProgram (run : Runner) (name : String) (arguments : List String) (shell : Shell) : Shell :=
  let path := (shell.programPaths name).headD name
  let shell := shell.track 1 name
  let shell := if shell.isExtended then shell.putVariable "_" ⟨some (.single path), ['x']⟩
    else shell
  match start run startLimit name arguments shell with
  | .ok (status, result) => await status result
  | .error fault =>
    match fault, shell.isExtended, shell.functions.lookup "command_not_found_handle" with
    | .missing, true, some body =>
      if name.toList.contains '/' then shell.complainOfStart name fault
      else
        apart run (callFunction run false "command_not_found_handle" body (name :: arguments))
          shell
    | _, _, _ => shell.complainOfStart name fault

/-- Tells why a program cannot take over. -/
def refuseReplacing (program : String) (fault : LaunchFault) (shell : Shell) : Shell :=
  let status := startStatus shell.dialect fault
  match shell.dialect, fault with
  | .plain, _ => shell.complainOfStart program fault
  | .extended, .missing =>
    if program.toList.contains '/' then
      shell.complainPlainly (program ++ ": No such file or directory") status
    else shell.complain (program ++ ": not found") status
  | .extended, fault =>
    let text := startFault .extended program fault
    let told := shell.complainPlainly (program ++ ": " ++ text) status
    if status = 126 then told.complain (program ++ ": cannot execute: " ++ text) status else told

/-- The options of a command that gives the process away, as far as they matter. -/
def replacingOptions : List String → List String
  | "-a" :: _ :: rest => replacingOptions rest
  | "-c" :: rest | "-l" :: rest | "-cl" :: rest => replacingOptions rest
  | "--" :: rest => rest
  | arguments => arguments

/-- Gives the process to another program. -/
def replace (run : Runner) (arguments : List String) (shell : Shell) : Shell :=
  let isBare := shell.isExtended && arguments.contains "-c"
  match if shell.isExtended then replacingOptions arguments else arguments with
  | [] => shell.finish 0
  | program :: rest =>
    let started := if isBare then { shell with environment := .empty, bindings := [] } else shell
    match start run startLimit program rest started with
    | .ok (status, result) => { result with traps := [] }.stop status
    | .error fault =>
      let shell := refuseReplacing program fault shell
      shell.stop (.code shell.status)

def runNamed (run : Runner) (isTested : Bool) (name : String) (operands : List Operand)
    (shell : Shell) : Shell :=
  let arguments := operands.map Operand.shown
  let declarator := (Builtin.declarators shell.dialect).lookup name
  match Builtin.special.lookup name, declarator, name with
  | some command, _, _ => named name (command arguments) shell
  | none, some declare, _ => named name (declare operands) shell
  | none, none, "eval" => evalCommand run isTested arguments shell
  | none, none, "exec" => named name (replace run arguments) shell
  | none, none, "." => named name (sourceCommand run isTested name arguments) shell
  | none, none, "type" => named name (typeCommand arguments) shell
  | none, none, "hash" => named name (hashCommand arguments) shell
  | none, none, _ =>
    match (Builtin.ordinary shell.dialect).lookup name, shell.dialect, name with
    | some command, _, _ => named name (command arguments) shell
    | none, .extended, "source" =>
      named name (sourceCommand run isTested name arguments) shell
    | none, .extended, "caller" => named name (callerCommand arguments) shell
    | none, _, _ => runProgram run name arguments shell

/-- Special commands that leave the script on purpose. -/
def leavers : List String :=
  ["exit", "exec", "eval", ".", "return"]

/-- Runs a command whose faults do not end the script. -/
def runSoftly (run : Runner) (isTested : Bool) (name : String) (operands : List Operand)
    (shell : Shell) : Shell :=
  let result := runNamed run isTested name operands shell
  let hasFailed := !shell.isExtended && isSpecial name && !leavers.contains name
    && result.ending == some (.code (faultStatus .plain))
  if hasFailed then { result with ending := none }.finish (faultStatus .plain) else result

/-- Runs a command functions aside, or tells what it is. -/
def commandCommand (run : Runner) (isTested : Bool) : List Operand → Shell → Shell
  | [], shell => shell.finish 0
  | .list name appends items :: operands, shell =>
    runNamed run isTested name (.list name appends items :: operands) shell
  | .text text :: operands, shell =>
    let names := operands.map Operand.shown
    let each (tell : String → Shell → Shell) (names : List String) : Shell :=
      names.foldl (fun shell name => tell name shell) (shell.finish 0)
    -- one name that is known is enough
    let any (tell : String → Shell → Shell) (names : List String) : Shell :=
      let (told, isKnown) := names.foldl
        (fun (shell, isKnown) name =>
          let told := tell name (shell.finish 0)
          (told, isKnown || told.status == 0))
        (shell, names.isEmpty)
      if isKnown then told.finish 0 else told
    match text, shell.dialect with
    | "--", _ | "-p", _ | "command", _ => commandCommand run isTested operands shell
    | "-v", .plain | "-pv", .plain | "-vp", .plain => each locateCommand (names.take 1)
    | "-V", .plain => each describeCommand (names.take 1)
    | "-v", .extended | "-pv", .extended => any locateCommand names
    | "-V", .extended => any (fun name => named "command" (describeCommand name)) names
    | text, _ =>
      match text.toList with
      | '-' :: c :: _ =>
        named "command"
          (badOption c "command: usage: command [-pVv] command [arg ...]") shell
      | _ => runSoftly run isTested text operands shell

/-- Runs a command of the shell, functions aside. -/
def builtinCommand (run : Runner) (isTested : Bool) (operands : List Operand) (shell : Shell) :
    Shell :=
  match operands with
  | [] => shell.finish 0
  | operand :: operands =>
    let name := operand.shown
    if name = "command" then commandCommand run isTested operands shell
    else if isBuiltin shell.dialect name then runNamed run isTested name operands shell
    else named "builtin" (complain (name ++ ": not a shell builtin") 1) shell

/-- Runs a command with its arguments. Special commands come before functions in one dialect. -/
def invoke (run : Runner) (isTested : Bool) (name : String) (operands : List Operand)
    (shell : Shell) : Shell :=
  let function :=
    if isSpecial name && !shell.isExtended then none else shell.functions.lookup name
  match function, name, shell.dialect with
  | some body, _, _ => callFunction run isTested name body (operands.map Operand.shown) shell
  | none, "command", _ => commandCommand run isTested operands shell
  | none, "builtin", .extended => builtinCommand run isTested operands shell
  | none, _, _ => runNamed run isTested name operands shell

end DtoGen.Shell

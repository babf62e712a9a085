import DtoGen.Machine.Builtin.Leaving
import DtoGen.Machine.Signal

namespace DtoGen.Builtin

def signalNumber? (dialect : Dialect) (text : String) : Option Nat :=
  match text.toNat? with
  | some n => if n ≤ Signal.last then some n else none
  | none =>
    let name := text.toUpper
    let name :=
      match dialect, name.toList with
      | .extended, 'S' :: 'I' :: 'G' :: rest => String.ofList rest
      | _, _ => name
    if name = "EXIT" && dialect == .extended then some 0 else Signal.numberOfName? dialect name

/-- The job that a text means, by its process or by its place. -/
def job? (text : String) (shell : Shell) : Option Job :=
  match text.toList with
  | '%' :: cs =>
    match cs with
    | [] | ['%'] | ['+'] => shell.jobs.head?
    | ['-'] => shell.jobs[1]?
    | cs => do
      let n ← (String.ofList cs).toNat?
      if n = 0 then none else shell.jobs.reverse[n - 1]?
  | _ => do
    let n ← text.toNat?
    shell.jobs.find? fun job => job.id = n

def putJob (job : Job) (shell : Shell) : Shell :=
  { shell with jobs := shell.jobs.map fun other => if other.id = job.id then job else other }

/-- Sends a signal to a job, which ends it if it is still running. -/
def endJob (n : Nat) (job : Job) (shell : Shell) : Shell :=
  if n = 0 || Signal.isIgnored n || job.ending ≤ shell.clock then shell
  else putJob { job with status := 128 + n, ending := shell.clock } shell

def waitFor (job : Job) (shell : Shell) : Shell :=
  { shell with clock := max shell.clock job.ending, status := job.status }

def waitAll (shell : Shell) : Shell :=
  (shell.jobs.foldl (fun shell job => waitFor job shell) shell).finish 0

def refuseWait (text : String) (shell : Shell) : Shell :=
  let isNumber := text.toNat?.isSome
  let isPlace := text.toList.head? == some '%'
  match shell.dialect with
  | .plain =>
    if isNumber then shell.finish 127
    else if isPlace then shell.complain ("No such job: " ++ text) 2
    else shell.complain (illegalNumber text) 2
  | .extended =>
    if isNumber then shell.complain ("pid " ++ text ++ " is not a child of this shell") 127
    else if isPlace then shell.complain (text ++ ": no such job") 127
    else shell.complain ("\x60" ++ text ++ "': not a pid or valid job spec") 1

def wait : Shell.Command := fun arguments shell =>
  match arguments, shell.dialect with
  | "-n" :: _, .extended =>
    let running := shell.jobs.filter fun job => shell.clock < job.ending
    let next := running.foldl
      (fun (first : Option Job) job =>
        if first.any fun other => other.ending ≤ job.ending then first else some job) none
    match next.or shell.jobs.getLast? with
    | some job => waitFor job shell
    | none => shell.finish 127
  | "-n" :: _, .plain => shell.complain "Illegal option -n" 2
  | [], _ => waitAll shell
  | texts, _ =>
    texts.foldl
      (fun shell text =>
        match job? text shell with
        | some job => waitFor job shell
        | none => refuseWait text shell)
      (shell.finish 0)

/-- Sends a signal to the script itself. -/
def catchSignal (n : Nat) (shell : Shell) : Shell :=
  let isFinal := Signal.name? n == some "KILL"
  let traps := shell.scriptTraps.getD shell.traps
  let action := traps.lookup (Signal.shellName shell.dialect n)
  match action, isFinal with
  | some "", false => shell
  | some action, false =>
    -- one dialect hears of the end of its children in another way
    if shell.isExtended && Signal.name? n == some "CHLD" then shell
    else { shell with caught := shell.caught ++ [action] }
  | _, _ =>
    let isDeaf := shell.isExtended && shell.scriptTraps.isNone && Signal.name? n == some "QUIT"
    if n = 0 || Signal.isIgnored n || isDeaf then shell else shell.stop (.signal n)

def refuseTarget (text : String) (shell : Shell) : Shell :=
  let isNumber := text.toInt?.isSome
  match shell.dialect with
  | .plain =>
    if isNumber then shell.complain "No such process\n" 1
    else shell.complain (illegalNumber text) 2
  | .extended =>
    if isNumber then shell.complain ("(" ++ text ++ ") - No such process") 1
    else if text.toList.head? = some '%' then shell.complain (text ++ ": no such job") 1
    else shell.complain (text ++ ": arguments must be process or job IDs") 1

def sendOne (n : Nat) (target : String) (shell : Shell) : Shell :=
  if shell.isStopped then shell
  else if target = Shell.processId || target = "0" then catchSignal n shell
  else
    match job? target shell with
    | some job => endJob n job shell
    | none => refuseTarget target shell

def killUsage (shell : Shell) : Shell :=
  match shell.dialect with
  | .plain =>
    shell.complain ("Usage: kill [-s sigspec | -signum | -sigspec] [pid | job]... or\n"
      ++ "kill -l [exitstatus]") 2
  | .extended =>
    (shell.finish 2).warn ("kill: usage: kill [-s sigspec | -n signum | -sigspec] pid | jobspec ..."
      ++ " or kill -l [sigspec]")

/-- Only the script itself and its jobs can be reached. -/
def send (n : Nat) (targets : List String) (shell : Shell) : Shell :=
  let targets := if targets.head? = some "--" then targets.drop 1 else targets
  if targets.isEmpty then killUsage shell
  else targets.foldl (fun shell target => sendOne n target shell) (shell.finish 0)

/-- The signal of a number, or of the status that it leaves. -/
def listedSignal? (n : Nat) : Option Nat :=
  let n := if 128 < n then n - 128 else n
  if 0 < n && n ≤ Signal.last then some n else none

/-- All signals, in rows of five. -/
def signalTable : String :=
  let numbers := ((List.range Signal.last).map (· + 1)).filter fun n => n != 32 && n != 33
  let cells := numbers.zipIdx.map fun (n, place) =>
    let number := if n < 10 then " " ++ toString n else toString n
    let ending := if place % 5 = 4 then "\n" else "\t"
    number ++ ") SIG" ++ Signal.shellName .extended n ++ ending
  String.join cells ++ "\n"

def listSignals (arguments : List String) (shell : Shell) : Shell :=
  let shell := shell.finish 0
  match arguments, shell.dialect with
  | [], .plain =>
    let names := ((List.range Signal.last).map (· + 1)).map (Signal.shellName .plain)
    shell.say (String.join (("0" :: names).map (· ++ "\n")))
  | [], .extended => shell.say signalTable
  | texts, dialect =>
    texts.foldl
      (fun shell text =>
        match text.toNat?, dialect with
        | some n, _ =>
          match listedSignal? n with
          | some n => shell.say (Signal.shellName dialect n ++ "\n")
          | none =>
            match dialect with
            | .plain => shell.complain ("invalid signal number or exit status: " ++ text) 2
            | .extended => shell.complain (text ++ ": invalid signal specification") 1
        | none, .plain => shell.complain (illegalNumber text) 2
        | none, .extended =>
          match signalNumber? .extended text with
          | some n => shell.say (toString n ++ "\n")
          | none => shell.complain (text ++ ": invalid signal specification") 1)
      shell

def kill : Shell.Command := fun arguments shell =>
  let named (name : String) (targets : List String) : Shell :=
    match signalNumber? shell.dialect name, shell.dialect with
    | some n, _ => send n targets shell
    | none, .plain => shell.complain ("invalid signal number or name: " ++ name) 2
    | none, .extended => shell.complain (name ++ ": invalid signal specification") 1
  match arguments with
  | "-s" :: name :: targets => named name targets
  | ["-s"] => killUsage shell
  | "-n" :: name :: targets =>
    match shell.dialect with
    | .extended => named name targets
    | .plain => shell.complain "Illegal option -n" 2
  | "-l" :: texts | "-L" :: texts => listSignals texts shell
  | "--" :: targets => send 15 targets shell
  | first :: targets =>
    match first.toList with
    | '-' :: c :: cs =>
      match signalNumber? shell.dialect (String.ofList (c :: cs)), shell.dialect with
      | some n, _ => send n targets shell
      | none, .plain => shell.complain ("Illegal option -" ++ String.singleton c) 2
      | none, .extended =>
        shell.complain (String.ofList (c :: cs) ++ ": invalid signal specification") 1
    | _ => send 15 arguments shell
  | [] => send 15 [] shell

/-- Names of traps for what is no signal. -/
def eventNames : List String :=
  ["DEBUG", "ERR", "RETURN"]

def trapName? (dialect : Dialect) (text : String) : Option String :=
  let upper := if dialect == .extended then text.toUpper else text
  if upper = "EXIT" || text = "0" || (upper = "SIGEXIT" && dialect == .extended) then some "EXIT"
  else if dialect == .extended && eventNames.contains upper then some upper
  else (signalNumber? dialect text).map (Signal.shellName dialect)

/-- All names of traps, in the order in which they are listed. -/
def trapNames (dialect : Dialect) : List String :=
  "EXIT" :: ((List.range Signal.last).map (· + 1)).map (Signal.shellName dialect) ++ eventNames

def trapLine (dialect : Dialect) (name action : String) : String :=
  let action :=
    match dialect with
    | .plain => Quoting.singleWithDoubles action
    | .extended => Quoting.single action
  let isSignal := name != "EXIT" && !eventNames.contains name
  let front := if dialect == .extended && isSignal then "SIG" else ""
  "trap -- " ++ action ++ " " ++ front ++ name ++ "\n"

def listTraps (names : List String) (shell : Shell) : Shell :=
  let lines := names.filterMap fun name =>
    (shell.traps.lookup name).map (trapLine shell.dialect name)
  (shell.finish 0).say (String.join lines)

def putTrap (name : String) (action : Option String) (shell : Shell) : Shell :=
  let others := shell.traps.filter fun entry => entry.1 != name
  match action with
  | some action => { shell with traps := (name, action) :: others }
  | none => { shell with traps := others }

/-- Sets the traps with the names, or takes them away. -/
def setTraps (action : Option String) (names : List String) (shell : Shell) : Shell :=
  names.foldl
    (fun shell name =>
      match trapName? shell.dialect name, shell.dialect with
      | some known, _ => putTrap known action shell
      | none, .plain => (shell.warn ("trap: " ++ name ++ ": bad trap")).finish 1
      | none, .extended => shell.complain (name ++ ": invalid signal specification") 1)
    (shell.finish 0)

def trap : Shell.Command := fun arguments shell =>
  match arguments, shell.dialect with
  | [], dialect => listTraps (trapNames dialect) shell
  | ["-p"], .extended => listTraps (trapNames .extended) shell
  | "-p" :: names, .extended => listTraps (names.filterMap (trapName? .extended)) shell
  | "-l" :: _, .extended => (shell.finish 0).say signalTable
  | first :: rest, dialect =>
    match first.toList, dialect with
    | '-' :: c :: _, .plain =>
      if first = "--" then body rest shell
      else shell.abort ("Illegal option -" ++ String.singleton c)
    | _, _ => body (if first = "--" then rest else first :: rest) shell
where
  body (arguments : List String) (shell : Shell) : Shell :=
    match arguments with
    | [] => listTraps (trapNames shell.dialect) shell
    | [name] => setTraps none [name] shell
    | action :: names =>
      if action.toNat?.isSome then setTraps none (action :: names) shell
      else setTraps (if action = "-" then none else some action) names shell

end DtoGen.Builtin

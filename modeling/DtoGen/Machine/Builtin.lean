import DtoGen.Machine.Builtin.Directories
import DtoGen.Machine.Builtin.Read
import DtoGen.Machine.Builtin.Signals

namespace DtoGen.Builtin

def condition (words : List String) (shell : Shell) : Shell :=
  match Condition.evaluate shell words with
  | .ok value => shell.finish (if value then 0 else 1)
  | .error message => shell.complain message 2

def test : Shell.Command :=
  condition

def bracket : Shell.Command := fun arguments shell =>
  if arguments.getLast? = some "]" then condition arguments.dropLast shell
  else
    match shell.dialect with
    | .plain => shell.complain "missing ]" 2
    | .extended => shell.complain "missing \x60]'" 2

def succeed : Shell.Command := fun _ shell => shell.finish 0

def fail : Shell.Command := fun _ shell => shell.finish 1

/-- Jobs cannot be moved where they are not controlled. -/
def refuseJobs (plain : String) : Shell.Command := fun _ shell =>
  match shell.dialect with
  | .plain => shell.complain plain 2
  | .extended => shell.complain "no job control" 1

def times : Shell.Command := fun _ shell =>
  let line :=
    match shell.dialect with
    | .plain => "0m0.000000s 0m0.000000s\n"
    | .extended => "0m0.000s 0m0.000s\n"
  (shell.finish 0).say (line ++ line)

def ulimit : Shell.Command := fun _ shell =>
  (shell.finish 0).say "unlimited\n"

def aliasLine (dialect : Dialect) (name text : String) : String :=
  match dialect with
  | .plain => name ++ "=" ++ Quoting.singleWithDoubles text ++ "\n"
  | .extended => "alias " ++ name ++ "=" ++ Quoting.single text ++ "\n"

def aliasCommand : Shell.Command := fun arguments shell =>
  let arguments := arguments.filter fun argument => argument != "-p" && argument != "--"
  if arguments.isEmpty then
    let names := shell.aliases.mergeSort fun a b => decide (a.1 ≤ b.1)
    let lines := names.map fun (name, text) => aliasLine shell.dialect name text
    (shell.finish 0).say (String.join lines)
  else
    arguments.foldl
      (fun shell argument =>
        match splitAssignment argument, shell.dialect with
        | (name, some text), _ =>
          let others := shell.aliases.filter fun entry => entry.1 != name
          { shell with aliases := (name, text) :: others }
        | (name, none), dialect =>
          match shell.aliases.lookup name, dialect with
          | some text, _ => shell.say (aliasLine dialect name text)
          | none, .plain => (shell.warn ("alias: " ++ name ++ " not found")).finish 1
          | none, .extended => shell.complain (name ++ ": not found") 1)
      (shell.finish 0)

def unalias : Shell.Command := fun arguments shell =>
  match arguments with
  | "-a" :: _ => { shell.finish 0 with aliases := [] }
  | names =>
    names.foldl
      (fun shell name =>
        if (shell.aliases.lookup name).isSome then
          { shell with aliases := shell.aliases.filter fun entry => entry.1 != name }
        else
          match shell.dialect with
          | .plain => (shell.warn ("unalias: " ++ name ++ " not found")).finish 1
          | .extended => shell.complain (name ++ ": not found") 1)
      (shell.finish 0)

def declarators (dialect : Dialect) : List (String × Declarator) :=
  let plain := [("export", exportCommand), ("readonly", readonlyCommand), ("local", localCommand)]
  match dialect with
  | .plain => plain
  | .extended =>
    ("declare", declareCommand "declare") :: ("typeset", declareCommand "typeset") :: plain

/-- Commands whose faults end the script, and whose assignments stay. -/
def special : List (String × Shell.Command) :=
  [ (":", succeed), ("break", breakCommand), ("continue", continueCommand), ("exit", exit),
    ("return", returnCommand), ("set", set), ("shift", shift), ("times", times), ("trap", trap),
    ("unset", unset) ]

def plainCommands : List (String × Shell.Command) :=
  [ ("echo", echo), ("printf", printf), ("read", read), ("test", test), ("[", bracket),
    ("pwd", pwd), ("cd", cd), ("kill", kill), ("true", succeed), ("false", fail),
    ("umask", umask), ("wait", wait), ("ulimit", ulimit), ("getopts", getopts),
    ("alias", aliasCommand), ("unalias", unalias), ("jobs", succeed),
    ("fg", refuseJobs "No current job"), ("bg", refuseJobs "No current job") ]

def extendedCommands : List (String × Shell.Command) :=
  [ ("let", letCommand), ("shopt", shopt), ("mapfile", mapfile), ("readarray", mapfile),
    ("pushd", pushd), ("popd", popd), ("dirs", dirs), ("disown", fail), ("bind", succeed),
    ("complete", succeed), ("compopt", succeed), ("history", succeed), ("fc", succeed),
    ("enable", succeed), ("suspend", fail), ("logout", fail) ]

def ordinary (dialect : Dialect) : List (String × Shell.Command) :=
  match dialect with
  | .plain => plainCommands
  | .extended => extendedCommands ++ plainCommands

end DtoGen.Builtin

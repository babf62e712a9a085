import DtoGen.Machine.Builtin.Variables

namespace DtoGen.Builtin

def turn (isOn : Bool) (option : Char) (shell : Shell) : Shell :=
  let others := shell.options.filter (· != option)
  { shell with options := if isOn then others ++ [option] else others }

def padRight (width : Nat) (text : String) : String :=
  text ++ String.ofList (List.replicate (width - text.length) ' ')

def stateText (isOn : Bool) : String :=
  if isOn then "on" else "off"

/-- The named options as a table, or as commands that would turn them to what they are. -/
def listOptions (asCommands : Bool) (shell : Shell) : Shell :=
  let names := ShellOption.names shell.dialect
  let line (entry : String × Char) : String :=
    let isOn := shell.hasOption entry.2
    match asCommands, shell.dialect with
    | true, _ => "set " ++ (if isOn then "-o " else "+o ") ++ entry.1 ++ "\n"
    | false, .plain => padRight 16 entry.1 ++ stateText isOn ++ "\n"
    | false, .extended => padRight 15 entry.1 ++ "\t" ++ stateText isOn ++ "\n"
  let title := match asCommands, shell.dialect with
    | false, .plain => "Current option settings\n"
    | _, _ => ""
  shell.say (title ++ String.join (names.map line))

def setUsage : String :=
  "set: usage: set [-abefhkmnptuvxBCEHPT] [-o option-name] [--] [-] [arg ...]"

def refuseSetLetter (sign : String) (letter : Char) (shell : Shell) : Shell :=
  match shell.dialect with
  | .plain => shell.abort ("Illegal option " ++ sign ++ String.singleton letter)
  | .extended =>
    (shell.complain (sign ++ String.singleton letter ++ ": invalid option") 2).warn setUsage

def refuseSetName (sign name : String) (shell : Shell) : Shell :=
  match shell.dialect with
  | .plain => shell.abort ("Illegal option " ++ sign ++ "o " ++ name)
  | .extended => shell.complain (name ++ ": invalid option name") 2

/-- Turns options on or off by their letters; `o` takes a name. -/
def turnAll (isOn : Bool) : List Char → List String → Shell → List String × Shell
  | [], rest, shell => (rest, shell)
  | 'o' :: cs, rest, shell =>
    match rest with
    | [] => ([], listOptions (!isOn) shell)
    | name :: rest =>
      match (ShellOption.names shell.dialect).lookup name with
      | some option => turnAll isOn cs rest (turn isOn option shell)
      | none => ([], refuseSetName (if isOn then "-" else "+") name shell)
  | c :: cs, rest, shell =>
    if ShellOption.isLetter shell.dialect c then turnAll isOn cs rest (turn isOn c shell)
    else ([], refuseSetLetter (if isOn then "-" else "+") c shell)

/-- The first argument bounds the number of arguments. -/
def setFrom : Nat → List String → Shell → Shell
  | 0, _, shell | _, [], shell => shell
  | bound + 1, first :: rest, shell =>
    match first.toList with
    | ['-', '-'] => { shell with arguments := rest }
    | ['-'] =>
      let shell := turn false 'x' (turn false 'v' shell)
      if rest.isEmpty then shell else { shell with arguments := rest }
    | '-' :: c :: cs =>
      let (rest, shell) := turnAll true (c :: cs) rest shell
      if shell.isStopped || shell.status != 0 then shell else setFrom bound rest shell
    | '+' :: c :: cs =>
      let (rest, shell) := turnAll false (c :: cs) rest shell
      if shell.isStopped || shell.status != 0 then shell else setFrom bound rest shell
    | _ => { shell with arguments := first :: rest }

def set : Shell.Command := fun arguments shell =>
  if arguments.isEmpty then listSettings shell
  else setFrom (arguments.length + 1) arguments (shell.finish 0)

/-- What is asked about named options. -/
structure ShoptWish where
  turns : Option Bool
  isQuiet : Bool
  asCommands : Bool
  ofSet : Bool
  names : List String

def shoptWish : List String → ShoptWish → Except Char ShoptWish
  | [], wish => .ok wish
  | argument :: rest, wish =>
    match argument.toList with
    | '-' :: c :: cs =>
      let step (wish : ShoptWish) (letter : Char) : Except Char ShoptWish :=
        match letter with
        | 's' => .ok { wish with turns := some true }
        | 'u' => .ok { wish with turns := some false }
        | 'q' => .ok { wish with isQuiet := true }
        | 'p' => .ok { wish with asCommands := true }
        | 'o' => .ok { wish with ofSet := true }
        | letter => .error letter
      match (c :: cs).foldlM step wish with
      | .ok wish => shoptWish rest wish
      | .error letter => .error letter
    | _ => .ok { wish with names := argument :: rest }

def settingLine (wish : ShoptWish) (name : String) (isOn : Bool) : String :=
  match wish.asCommands, wish.ofSet with
  | true, true => "set " ++ (if isOn then "-o " else "+o ") ++ name ++ "\n"
  | true, false => "shopt " ++ (if isOn then "-s " else "-u ") ++ name ++ "\n"
  | false, _ => padRight 15 name ++ "\t" ++ stateText isOn ++ "\n"

def settingState? (wish : ShoptWish) (shell : Shell) (name : String) : Option Bool :=
  if wish.ofSet then
    ((ShellOption.names .extended).lookup name).map fun letter => shell.hasOption letter
  else (ShellOption.settings.lookup name).map fun _ => shell.hasSetting name

def turnSetting (wish : ShoptWish) (isOn : Bool) (name : String) (shell : Shell) : Shell :=
  if wish.ofSet then
    match (ShellOption.names .extended).lookup name with
    | some letter => turn isOn letter shell
    | none => shell
  else
    let others := shell.settings.filter (· != name)
    { shell with settings := if isOn then name :: others else others }

def shopt : Shell.Command := fun arguments shell =>
  match shoptWish arguments ⟨none, false, false, false, []⟩ with
  | .error letter =>
    (shell.complain ("-" ++ String.singleton letter ++ ": invalid option") 2).warn
      "shopt: usage: shopt [-pqsu] [-o] [optname ...]"
  | .ok wish =>
    let shell := shell.finish 0
    let all := if wish.ofSet then (ShellOption.names .extended).map Prod.fst
      else ShellOption.settings.map Prod.fst
    match wish.names, wish.turns with
    | [], turns =>
      let shown := all.filter fun name =>
        match turns, settingState? wish shell name with
        | some wanted, state => state == some wanted
        | none, _ => true
      if wish.isQuiet then shell
      else
        shell.say (String.join (shown.map fun name =>
          settingLine wish name ((settingState? wish shell name).getD false)))
    | names, turns =>
      names.foldl
        (fun shell name =>
          match settingState? wish shell name, turns with
          | none, _ => shell.complain (name ++ ": invalid shell option name") 1
          | some _, some isOn => turnSetting wish isOn name shell
          | some isOn, none =>
            let shell := if wish.isQuiet then shell else shell.say (settingLine wish name isOn)
            if isOn then shell else shell.finish 1)
        shell

end DtoGen.Builtin

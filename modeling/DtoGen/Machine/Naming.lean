import DtoGen.Machine.Builtin
import DtoGen.Machine.Program
import DtoGen.Machine.Redirection

namespace DtoGen.Shell

/-- Whether assignments in front of the command stay, and its faults end the script. -/
def isSpecial (name : String) : Bool :=
  Script.Grammar.specialNames.contains name

def namers : Dialect → List String
  | .plain => ["command", "type", "hash"]
  | .extended => ["command", "type", "hash", "builtin", "caller", "source"]

def isBuiltin (dialect : Dialect) (name : String) : Bool :=
  isSpecial name || (namers dialect).contains name
    || ((Builtin.ordinary dialect).lookup name).isSome
    || ((Builtin.declarators dialect).lookup name).isSome

inductive NameKind
  | alias (text : String)
  | keyword
  | special
  | function
  | ordinary
  /-- A program whose place is known. -/
  | tracked (path : String)
  | program (path : String)
deriving DecidableEq, Repr

def programPaths (name : String) (shell : Shell) : List String :=
  let isThere (path : String) : Bool := (shell.tree.find? ⟨path⟩).any Launch.isExecutable
  if name.toList.contains '/' then
    match shell.dialect with
    | .plain => if (shell.tree.find? ⟨name⟩).isSome then [name] else []
    | .extended => if isThere name then [name] else []
  else if name = "" then []
  else (Launch.candidates ((shell.valueOf? "PATH").getD "") name).filter isThere

/-- All that a name stands for, the first of which counts. -/
def kindsOf (name : String) (shell : Shell) : List NameKind :=
  let dialect := shell.dialect
  let aliases := (shell.manner.aliases.lookup name).toList.map .alias
  let keywords := if (Script.Grammar.keywordsOf dialect).contains name then [.keyword] else []
  let functions := if (shell.functions.lookup name).isSome then [.function] else []
  let builtins :=
    if !isBuiltin dialect name then []
    else [if isSpecial name then .special else .ordinary]
  let paths := shell.programPaths name
  let tracked :=
    if (shell.tracked.lookup name).isSome then (paths.take 1).map .tracked else []
  let programs := tracked ++ paths.map .program
  match dialect with
  | .plain =>
    if isSpecial name then keywords ++ aliases ++ builtins ++ functions ++ programs
    else keywords ++ aliases ++ functions ++ builtins ++ programs
  | .extended => aliases ++ keywords ++ functions ++ builtins ++ programs

def kindText (dialect : Dialect) (name : String) : NameKind → String
  | .alias text =>
    match dialect with
    | .plain => name ++ " is an alias for " ++ text
    | .extended => name ++ " is aliased to \x60" ++ text ++ "'"
  | .keyword => name ++ " is a shell keyword"
  | .special =>
    name ++ if dialect == .plain then " is a special shell builtin" else " is a shell builtin"
  | .function => name ++ if dialect == .plain then " is a shell function" else " is a function"
  | .ordinary => name ++ " is a shell builtin"
  | .tracked path =>
    match dialect with
    | .plain => name ++ " is a tracked alias for " ++ path
    | .extended => name ++ " is hashed (" ++ path ++ ")"
  | .program path => name ++ " is " ++ path

def kindWord : NameKind → String
  | .alias _ => "alias"
  | .keyword => "keyword"
  | .special | .ordinary => "builtin"
  | .function => "function"
  | .tracked _ | .program _ => "file"

def pathOf? : NameKind → Option String
  | .tracked path | .program path => some path
  | _ => none

/-- What a name comes to, as a command can be written. -/
def spellingOf (dialect : Dialect) (name : String) (kind : NameKind) : String :=
  match kind with
  | .alias text => (Builtin.aliasLine dialect name text).dropEnd 1 |>.toString
  | .keyword | .special | .function | .ordinary => name
  | .tracked path | .program path => path

/-- Writes how a name would be run. -/
def locateCommand (name : String) (shell : Shell) : Shell :=
  let kinds := (shell.kindsOf name).filter fun kind =>
    match shell.dialect, kind with
    | .plain, .tracked _ => false
    | _, _ => true
  match kinds, shell.dialect with
  | kind :: _, dialect => (shell.finish 0).say (spellingOf dialect name kind ++ "\n")
  | [], .plain => shell.finish 127
  | [], .extended => shell.finish 1

/-- Tells what a name stands for, in words. -/
def describeCommand (name : String) (shell : Shell) : Shell :=
  match shell.kindsOf name, shell.dialect with
  | kind :: _, dialect => shell.say (kindText dialect name kind ++ "\n")
  | [], .plain => (shell.say (name ++ ": not found\n")).finish 127
  | [], .extended => shell.complain (name ++ ": not found") 1

/-- Tells what names stand for, as the letters of the options want it. -/
def typeOne (letters : List Char) (name : String) (shell : Shell) : Shell :=
  let has (c : Char) : Bool := letters.contains c
  let kinds := shell.kindsOf name
  let kinds := if has 'f' then kinds.filter (· != .function) else kinds
  let kinds :=
    if has 'P' then (shell.programPaths name).map .program
    else if has 'a' then kinds.filter fun kind => !(kind matches .tracked _)
    else kinds.take 1
  let kinds := if has 'a' then kinds else kinds.take 1
  let texts :=
    if has 't' then kinds.map kindWord
    else if has 'p' || has 'P' then kinds.filterMap pathOf?
    else kinds.map (kindText .extended name)
  if kinds.isEmpty then
    if has 't' || has 'p' || has 'P' then shell.finish 1
    else shell.complain (name ++ ": not found") 1
  else shell.say (String.join (texts.map (· ++ "\n")))

def optionLetters (arguments : List String) : List Char × List String :=
  let isOption (text : String) : Bool :=
    text.toList.head? == some '-' && text.length > 1 && text != "--"
  let options := arguments.takeWhile isOption
  let rest := arguments.drop options.length
  (options.flatMap fun text => text.toList.drop 1,
    if rest.head? = some "--" then rest.tail else rest)

def badOption (letter : Char) (usage : String) (shell : Shell) : Shell :=
  match shell.dialect with
  | .plain => shell.complain ("Illegal option -" ++ String.singleton letter) 2
  | .extended =>
    (shell.complain ("-" ++ String.singleton letter ++ ": invalid option") 2).warn usage

def typeCommand (arguments : List String) (shell : Shell) : Shell :=
  match shell.dialect with
  | .plain =>
    arguments.foldl (fun shell name => shell.describeCommand name) (shell.finish 0)
  | .extended =>
    let (letters, names) := optionLetters arguments
    match letters.find? fun c => !("afptP".toList.contains c) with
    | some letter => shell.badOption letter "type: usage: type [-afptP] name [name ...]"
    | none => names.foldl (fun shell name => shell.typeOne letters name) (shell.finish 0)

def track (runs : Nat) (name : String) (shell : Shell) : Shell :=
  if name.toList.contains '/' || (shell.programPaths name).isEmpty then shell
  else
    let known := (shell.tracked.lookup name).getD 0
    let others := shell.tracked.filter fun entry => entry.1 != name
    { shell with tracked := others ++ [(name, known + runs)] }

/-- Where a name stands in a listing of known places. -/
def trackOrder (dialect : Dialect) (name : String) : Nat :=
  let bs := name.toUTF8.toList
  match dialect with
  | .plain =>
    let first := (bs.head?.getD 0).toNat * 16
    (bs.foldl (fun n b => n + b.toNat) first) % 32768 % 31
  | .extended => (bs.foldl Value.hashStep 2166136261).toNat % 256

def padRuns (text : String) : String :=
  String.ofList (List.replicate (4 - text.length) ' ') ++ text

def listTracked (shell : Shell) : Shell :=
  let order (name : String) : Nat := trackOrder shell.dialect name
  let known := shell.tracked.mergeSort fun a b => decide (order a.1 ≤ order b.1)
  let lines := known.filterMap fun (name, runs) =>
    (shell.programPaths name).head?.map fun path =>
      match shell.dialect with
      | .plain => path ++ "\n"
      | .extended => padRuns (toString runs) ++ "\t" ++ path ++ "\n"
  let shell := shell.finish 0
  match shell.dialect, lines with
  | .plain, lines => shell.say (String.join lines)
  | .extended, [] => shell.say "hash: hash table empty\n"
  | .extended, lines => shell.say ("hits\tcommand\n" ++ String.join lines)

def hashCommand (arguments : List String) (shell : Shell) : Shell :=
  let (letters, names) := optionLetters arguments
  let known := if shell.isExtended then ['r', 'l', 'd', 't', 'p'] else ['r']
  let usage := "hash: usage: hash [-lr] [-p pathname] [-dt] [name ...]"
  match letters.find? fun c => !known.contains c, letters, names with
  | some letter, _, _ => shell.badOption letter usage
  | none, [], [] => shell.listTracked
  | none, letters, names =>
    let shell := if letters.contains 'r' then { shell with tracked := [] } else shell
    names.foldl
      (fun shell name =>
        if (shell.programPaths name).isEmpty then
          if isBuiltin shell.dialect name || (shell.functions.lookup name).isSome then shell
          else shell.complain (name ++ ": not found") 1
        else if letters.contains 'd' then
          { shell with tracked := shell.tracked.filter fun entry => entry.1 != name }
        else if letters.contains 't' then
          shell.say (((shell.programPaths name).headD "") ++ "\n")
        else shell.track 0 name)
      (shell.finish 0)

/-- Tells which call the function that is running belongs to. -/
def callerCommand (arguments : List String) (shell : Shell) : Shell :=
  match arguments, shell.calls with
  | [], call :: _ => (shell.finish 0).say (toString call.line ++ " " ++ shell.name ++ "\n")
  | [], [] => (shell.finish 0).say "0 NULL\n"
  | text :: _, calls =>
    match text.toNat?.bind fun n => calls[n]?.map fun call => (n, call) with
    | some (n, call) =>
      let outer := ((calls[n + 1]?).map Activation.name).getD "main"
      (shell.finish 0).say (toString call.line ++ " " ++ outer ++ " " ++ shell.name ++ "\n")
    | none => shell.finish 1

end DtoGen.Shell

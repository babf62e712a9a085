import DtoGen.Machine.Builtin.Variables

namespace DtoGen.Builtin

def illegalNumber (text : String) : String :=
  "Illegal number: " ++ text

def leaveLine (message : String) (shell : Shell) : Shell :=
  { shell.complain message 1 with leap := some .line }

def exitStatusOf (i : Int) : Nat :=
  (i % 256).toNat

def exit : Shell.Command := fun arguments shell =>
  match arguments, shell.dialect with
  | [], _ => shell.stop (.code shell.status)
  | text :: _, .plain =>
    match text.toNat? with
    | some n => shell.stop (.code (n % 256))
    | none => shell.abort (illegalNumber text)
  | text :: rest, .extended =>
    match text.toInt? with
    | none => (shell.complain (text ++ ": numeric argument required") 2).stop (.code 2)
    | some i =>
      if rest.isEmpty then shell.stop (.code (exitStatusOf i))
      else leaveLine "too many arguments" shell

def returnCommand : Shell.Command := fun arguments shell =>
  let leave (status : Nat) (shell : Shell) : Shell :=
    { shell.finish status with leap := some .back }
  match shell.dialect with
  | .plain =>
    match arguments with
    | [] => leave shell.status shell
    | text :: _ =>
      match text.toNat? with
      | some n => leave (n % 256) shell
      | none => shell.abort (illegalNumber text)
  | .extended =>
    if shell.calls.isEmpty then
      shell.complain "can only \x60return' from a function or sourced script" 2
    else
      match arguments with
      | [] => leave shell.status shell
      | text :: rest =>
        match text.toInt? with
        | none => leave 2 (shell.complain (text ++ ": numeric argument required") 2)
        | some i =>
          if rest.isEmpty then leave (exitStatusOf i) shell
          else leaveLine "too many arguments" shell

/-- Outside of loops there is nothing to leave. -/
def leapBy (leap : Nat → Leap) (n : Nat) (shell : Shell) : Shell :=
  let shell := shell.finish 0
  if shell.loops = 0 then
    match shell.dialect with
    | .plain => shell
    | .extended =>
      shell.complain "only meaningful in a \x60for', \x60while', or \x60until' loop" 0
  else { shell with leap := some (leap (min n shell.loops)) }

def leaveLoops (leap : Nat → Leap) : Shell.Command := fun arguments shell =>
  match arguments, shell.dialect with
  | [], _ => leapBy leap 1 shell
  | text :: _, .plain =>
    match text.toNat? with
    | some (n + 1) => leapBy leap (n + 1) shell
    | _ => shell.abort (illegalNumber text)
  | text :: rest, .extended =>
    match text.toInt? with
    | none => (shell.complain (text ++ ": numeric argument required") 128).stop (.code 128)
    | some i =>
      if !rest.isEmpty then leaveLine "too many arguments" shell
      else if i ≤ 0 then
        let told := shell.complain (text ++ ": loop count out of range") 1
        { told with leap := if shell.loops = 0 then none else some (.leave shell.loops) }
      else leapBy leap i.toNat shell

def breakCommand : Shell.Command :=
  leaveLoops .leave

def continueCommand : Shell.Command :=
  leaveLoops .again

def shift : Shell.Command := fun arguments shell =>
  let text := arguments.headD "1"
  let drop (n : Nat) : Shell := { shell.finish 0 with arguments := shell.arguments.drop n }
  match shell.dialect with
  | .plain =>
    match text.toNat? with
    | none => shell.abort (illegalNumber text)
    | some n =>
      if shell.arguments.length < n then shell.abort "can't shift that many" else drop n
  | .extended =>
    match text.toInt? with
    | none => shell.complain (text ++ ": numeric argument required") 1
    | some i =>
      if arguments.length > 1 then leaveLine "too many arguments" shell
      else if i < 0 then shell.complain (text ++ ": shift count out of range") 1
      else if shell.arguments.length < i.toNat then shell.finish 1
      else drop i.toNat

/-- What the next option of a command line is. -/
inductive OptionFinding
  | ended
  | option (letter : Char) (argument : Option String)
  | unknown (letter : Char)
  | unfollowed (letter : Char)

/-- How far the options of a command line have been looked at: the number of the word, counted from
one, and how many letters of it have been taken. -/
structure OptionPlace where
  word : Nat
  offset : Nat

/-- Whether an option is known, and whether a value belongs to it. -/
def optionKind? (known : List Char) (letter : Char) : Option Bool :=
  if letter = ':' then none
  else
    match known.dropWhile (· != letter) with
    | _ :: ':' :: _ => some true
    | _ :: _ => some false
    | [] => none

def nextOption (known : List Char) (words : List String) (place : OptionPlace) :
    OptionFinding × OptionPlace :=
  let text := ((words[place.word - 1]?).getD "").toList
  let letters := text.drop (max place.offset 1)
  let behind (rest : List Char) : OptionPlace :=
    if rest.isEmpty then ⟨place.word + 1, 0⟩ else ⟨place.word, text.length - rest.length⟩
  match text.head?, letters with
  | some '-', letter :: rest =>
    if text = ['-', '-'] then (.ended, ⟨place.word + 1, 0⟩)
    else
      match optionKind? known letter with
      | none => (.unknown letter, behind rest)
      | some false => (.option letter none, behind rest)
      | some true =>
        if !rest.isEmpty then
          (.option letter (some (String.ofList rest)), ⟨place.word + 1, 0⟩)
        else
          match words[place.word]? with
          | some value => (.option letter (some value), ⟨place.word + 2, 0⟩)
          | none => (.unfollowed letter, ⟨place.word + 1, 0⟩)
  | _, _ => (.ended, ⟨place.word, 0⟩)

/-- Where the variables say that the options have been looked at up to. -/
def optionPlace (shell : Shell) : OptionPlace :=
  let n := (((shell.valueOf? "OPTIND").bind String.toNat?).getD 1)
  let n := max n 1
  match shell.dialect with
  | .plain => ⟨if shell.clusterOffset = 0 then n else n - 1, shell.clusterOffset⟩
  | .extended => ⟨n, shell.clusterOffset⟩

def keepOptionPlace (place : OptionPlace) (shell : Shell) : Shell :=
  let n :=
    match shell.dialect with
    | .plain => if place.offset = 0 then place.word else place.word + 1
    | .extended => place.word
  { shell.set "OPTIND" (toString n) with clusterOffset := place.offset }

def warnOfOption (text : String) (letter : Char) (shell : Shell) : Shell :=
  let isSilent := shell.isExtended && shell.valueOf? "OPTERR" == some "0"
  let letter := String.singleton letter
  if isSilent then shell
  else
    match shell.dialect with
    | .plain => shell.warn (text.replace "%" letter)
    | .extended => shell.warn (shell.name ++ ": " ++ text.replace "%" letter)

def noteOption (known : List Char) (name : String) (finding : OptionFinding) (shell : Shell) :
    Shell :=
  let isQuiet := known.head? == some ':'
  let withoutArgument (shell : Shell) : Shell := shell.putVariable "OPTARG" .absent
  let isPlain := !shell.isExtended
  match finding with
  | .ended => (withoutArgument (shell.set name "?")).finish 1
  | .option letter argument =>
    let shell := shell.set name (String.singleton letter)
    match argument with
    | some value => (shell.set "OPTARG" value).finish 0
    | none => (if isPlain then shell.set "OPTARG" "" else withoutArgument shell).finish 0
  | .unknown letter =>
    let shell := shell.set name "?"
    if isQuiet then (shell.set "OPTARG" (String.singleton letter)).finish 0
    else
      let text := if isPlain then "Illegal option -%" else "illegal option -- %"
      (withoutArgument (warnOfOption text letter shell)).finish 0
  | .unfollowed letter =>
    if isQuiet then
      ((shell.set name ":").set "OPTARG" (String.singleton letter)).finish 0
    else
      let text := if isPlain then "No arg for -% option" else "option requires an argument -- %"
      (withoutArgument (warnOfOption text letter (shell.set name "?"))).finish 0

def getopts : Shell.Command := fun arguments shell =>
  match arguments with
  | known :: name :: words =>
    let words := if words.isEmpty then shell.arguments else words
    let (finding, place) := nextOption known.toList words (optionPlace shell)
    let shell := keepOptionPlace place shell
    if Script.isName name.toList then noteOption known.toList name finding shell
    else
      match shell.dialect with
      | .plain => shell.complain (name ++ ": bad variable name") 2
      | .extended => invalidName name 1 shell
  | _ =>
    match shell.dialect with
    | .plain => shell.complain "Usage: getopts optstring var [arg...]" 2
    | .extended => (shell.finish 2).warn "getopts: usage: getopts optstring name [arg ...]"

end DtoGen.Builtin

import DtoGen.Machine.Builtin.Options

namespace DtoGen.Builtin

/-- The working directory by the way that led to it. -/
def logicalPath (shell : Shell) : String :=
  match shell.valueOf? "PWD" with
  | some path =>
    let isRight := path.toList.head? == some '/'
      && shell.tree.locate? ⟨path⟩ == some shell.tree.workingDirectory
    if isRight then path else shell.workingPath
  | none => shell.workingPath

def pwd : Shell.Command := fun arguments shell =>
  let isPhysical := arguments.getLast? == some "-P"
  (shell.finish 0).say ((if isPhysical then shell.workingPath else logicalPath shell) ++ "\n")

/-- A path without steps that lead nowhere or back. -/
def normalized (path : String) : String :=
  let step (names : List String) (name : String) : List String :=
    if name = "" || name = "." then names
    else if name = ".." then names.dropLast
    else names ++ [name]
  "/" ++ "/".intercalate ((path.splitOn "/").foldl step [])

/-- Goes to a directory, which is at `path` by its spelling. -/
def goTo (path : String) (shell : Shell) : Option Shell := do
  let place ← shell.tree.locate? ⟨path⟩
  if !shell.tree.isDirectory place then none
  else
    let old := logicalPath shell
    let shell := { shell with tree := { shell.tree with workingDirectory := place } }
    some ((shell.set "OLDPWD" old).set "PWD" path)

def refuseDirectory (directory : String) (shell : Shell) : Shell :=
  match shell.dialect with
  | .plain => shell.complain ("can't cd to " ++ directory) 2
  | .extended =>
    let isFound := (shell.tree.find? ⟨directory⟩).isSome
    let reason := if isFound then "Not a directory" else shell.tree.absence ⟨directory⟩
    shell.complain (directory ++ ": " ++ reason) 1

/-- Goes to a directory by a text as it was given. -/
def enter (isPhysical : Bool) (directory : String) (shell : Shell) : Shell :=
  let whole := if directory.toList.head? = some '/' then directory
    else logicalPath shell ++ "/" ++ directory
  let found :=
    if (shell.tree.find? ⟨if directory = "" then "." else directory⟩).isSome || !isPhysical then
      goTo (normalized whole) shell
    else none
  match found with
  | some entered =>
    let entered := entered.finish 0
    if isPhysical then entered.set "PWD" entered.workingPath else entered
  | none => refuseDirectory directory shell

def searched? (directory : String) (shell : Shell) : Option String :=
  let isPlain := directory.toList.head? == some '/'
    || (directory.splitOn "/").head?.any fun step => step == "." || step == ".."
  if isPlain then none
  else do
    let starts := ((shell.valueOf? "CDPATH").getD "").splitOn ":"
    starts.findSome? fun start =>
      let path := start ++ "/" ++ directory
      if start != "" && (shell.tree.find? ⟨path⟩).any Entry.isDirectory then some path else none

def cdUsage : String :=
  "cd: usage: cd [-L|[-P [-e]] [-@]] [dir]"

/-- The options in front, and whether the last of them asks for the physical path. -/
def cdOptions : List String → Bool → Except Char (Bool × List String)
  | [], isPhysical => .ok (isPhysical, [])
  | first :: rest, isPhysical =>
    match first.toList with
    | ['-', '-'] => .ok (isPhysical, rest)
    | '-' :: c :: cs =>
      match (c :: cs).find? fun letter => !(['L', 'P', 'e', '@'].contains letter) with
      | some letter => .error letter
      | none => cdOptions rest ((c :: cs).getLast? == some 'P')
    | _ => .ok (isPhysical, first :: rest)

def cd : Shell.Command := fun arguments shell =>
  match cdOptions arguments false with
  | .error letter =>
    match shell.dialect with
    | .plain => shell.complain ("Illegal option -" ++ String.singleton letter) 2
    | .extended =>
      (shell.complain ("-" ++ String.singleton letter ++ ": invalid option") 2).warn cdUsage
  | .ok (isPhysical, operands) =>
    let announced (shell : Shell) : Shell :=
      if shell.status = 0 then shell.say (logicalPath shell ++ "\n") else shell
    match operands, shell.dialect with
    | [], dialect =>
      match shell.valueOf? "HOME", dialect with
      | some home, _ => if home = "" then shell.finish 0 else enter isPhysical home shell
      | none, .plain => shell.finish 0
      | none, .extended => shell.complain "HOME not set" 1
    | _ :: _ :: _, .extended => shell.complain "too many arguments" 1
    | "-" :: _, dialect =>
      match shell.valueOf? "OLDPWD", dialect with
      | some old, _ => announced (enter isPhysical old shell)
      | none, .plain => announced (shell.finish 0)
      | none, .extended => shell.complain "OLDPWD not set" 1
    | directory :: _, _ =>
      match searched? directory shell with
      | some path => announced (enter isPhysical path shell)
      | none => if directory = "" then shell.finish 0 else enter isPhysical directory shell

/-- A directory with a tilde for the home directory. -/
def homeward (shell : Shell) (path : String) : String :=
  match shell.valueOf? "HOME" with
  | some home =>
    if home != "" && path = home then "~"
    else if home != "" && (home ++ "/").toList.isPrefixOf path.toList then
      "~" ++ (path.drop home.length).toString
    else path
  | none => path

def stackLine (shell : Shell) : String :=
  " ".intercalate ((logicalPath shell :: shell.stack).map (homeward shell)) ++ "\n"

def sayStack (shell : Shell) : Shell :=
  if shell.status = 0 then shell.say (stackLine shell) else shell

def pushd : Shell.Command := fun arguments shell =>
  match arguments with
  | [] =>
    match shell.stack with
    | [] => shell.complain "no other directory" 1
    | first :: rest =>
      let here := logicalPath shell
      let entered := enter false first shell
      sayStack (if entered.status = 0 then { entered with stack := here :: rest } else entered)
  | directory :: _ =>
    let here := logicalPath shell
    let entered := enter false directory shell
    sayStack (if entered.status = 0 then { entered with stack := here :: shell.stack } else entered)

def popd : Shell.Command := fun _ shell =>
  match shell.stack with
  | [] => shell.complain "directory stack empty" 1
  | first :: rest =>
    let entered := enter false first shell
    sayStack (if entered.status = 0 then { entered with stack := rest } else entered)

def dirs : Shell.Command := fun arguments shell =>
  let shell := shell.finish 0
  let all := logicalPath shell :: shell.stack
  match arguments with
  | "-c" :: _ => { shell with stack := [] }
  | "-l" :: _ => shell.say (" ".intercalate all ++ "\n")
  | "-p" :: _ => shell.say (String.join (all.map fun path => homeward shell path ++ "\n"))
  | "-v" :: _ =>
    let line (entry : String × Nat) : String :=
      let number := toString entry.2
      (if number.length < 2 then " " else "") ++ number ++ "  " ++ homeward shell entry.1 ++ "\n"
    shell.say (String.join (all.zipIdx.map line))
  | _ => shell.say (stackLine shell)

/-- The letters of the modes that a group is granted. -/
def grantText (bits : Nat) : String :=
  (if bits / 4 % 2 = 1 then "r" else "") ++ (if bits / 2 % 2 = 1 then "w" else "")
    ++ (if bits % 2 = 1 then "x" else "")

def maskText (mask : Nat) : String :=
  let granted := 0o777 - mask % 512
  ",".intercalate
    [ "u=" ++ grantText (granted / 64), "g=" ++ grantText (granted / 8 % 8),
      "o=" ++ grantText (granted % 8) ]

def octalText (width n : Nat) : String :=
  let ds := Nat.toDigits 8 n
  String.ofList (List.replicate (width - ds.length) '0' ++ ds)

def octal? (text : String) : Option Nat :=
  let cs := text.toList
  if cs.isEmpty then none
  else cs.foldlM (fun n c => (octalDigit? c).map fun digit => n * 8 + digit) 0

/-- The modes that a clause such as `u+x` makes of others. -/
def clauseModes? (modes : Nat) (clause : String) : Option Nat :=
  let cs := clause.toList
  let who := cs.takeWhile ['u', 'g', 'o', 'a'].contains
  let shifts := (if who.isEmpty || who.contains 'a' then ['u', 'g', 'o'] else who).map fun c =>
    if c = 'u' then 64 else if c = 'g' then 8 else 1
  match cs.drop who.length with
  | sign :: letters =>
    if !(['+', '-', '='].contains sign) || !letters.all ['r', 'w', 'x', 's', 't', 'X'].contains then
      none
    else
      let bits := (if letters.contains 'r' then 4 else 0) + (if letters.contains 'w' then 2 else 0)
        + (if letters.contains 'x' || letters.contains 'X' then 1 else 0)
      let change (modes shift : Nat) : Nat :=
        let old := modes / shift % 8
        let new := match sign with
          | '+' => Nat.lor old bits
          | '-' => old - Nat.land old bits
          | _ => bits
        modes - old * shift + new * shift
      some (shifts.foldl change modes)
  | [] => none

def umask : Shell.Command := fun arguments shell =>
  let shell := shell.finish 0
  match arguments with
  | [] => shell.say (octalText 4 shell.tree.mask ++ "\n")
  | ["-S"] => shell.say (maskText shell.tree.mask ++ "\n")
  | ["-p"] => shell.say ("umask " ++ octalText 4 shell.tree.mask ++ "\n")
  | text :: _ =>
    let clauses := text.splitOn ","
    match octal? text, clauses.foldlM clauseModes? (0o777 - shell.tree.mask % 512) with
    | some n, _ => { shell with tree := { shell.tree with mask := n % 512 } }
    | none, some modes => { shell with tree := { shell.tree with mask := 0o777 - modes } }
    | none, none =>
      match shell.dialect with
      | .plain => shell.complain ("Illegal mode: " ++ text) 2
      | .extended =>
        if text.toList.head?.any Char.isDigit then
          shell.complain (text ++ ": octal number out of range") 1
        else
          let bad := text.toList.find? fun c => !(['u', 'g', 'o', 'a'].contains c)
          shell.complain
            ("\x60" ++ String.singleton (bad.getD ' ') ++ "': invalid symbolic mode operator") 1

end DtoGen.Builtin

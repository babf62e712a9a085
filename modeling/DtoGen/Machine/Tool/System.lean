import DtoGen.Machine.Program
import DtoGen.Machine.Tool.Input

namespace DtoGen.Tool

/-- What is known of the system, by the options that ask for it. -/
def systemParts : List (String × String) :=
  [ ("s", "Linux"), ("n", "localhost"), ("r", "5.15.0"), ("v", "#1 SMP"), ("m", "x86_64"),
    ("p", "unknown"), ("i", "unknown"), ("o", "GNU/Linux") ]

def uname : Shell.Command :=
  withOperands (grammar ["a|all", "s|kernel-name|sysname", "n|nodename", "r|kernel-release|release",
      "v|kernel-version", "m|machine", "p|processor", "i|hardware-platform",
      "o|operating-system"]) 0 (some 0) fun a shell =>
    let isWanted (option text : String) : Bool :=
      if a.has "a" then text != "unknown"
      else a.has option || (a.options.isEmpty && option == "s")
    let parts := (systemParts.filter fun (option, text) => isWanted option text).map Prod.snd
    shell.say (" ".intercalate parts ++ "\n")

def telling (line : String) : Shell.Command :=
  withOperands (grammar []) 0 (some 0) fun _ shell => shell.say (line ++ "\n")

def nproc : Shell.Command :=
  withOperands (grammar ["all", "ignore="]) 0 (some 0) fun a shell =>
    let count := 4 - (a.number? "ignore").getD 0
    shell.say (toString (max count 1) ++ "\n")

def hostname : Shell.Command := fun arguments shell =>
  match arguments with
  | [] | ["-s"] | ["-f"] => (shell.finish 0).say "localhost\n"
  | _ => (shell.finish 1).warn "hostname: you must be root to change the host name"

/-- The users that every system has, by name and number. -/
def users : List (String × Nat) :=
  [ ("root", 0), ("daemon", 1), ("bin", 2), ("sys", 3), ("sync", 4), ("games", 5), ("man", 6),
    ("lp", 7), ("mail", 8), ("news", 9), ("www-data", 33), ("backup", 34), ("nobody", 65534) ]

def groupName (name : String) : String :=
  if name = "nobody" then "nogroup" else name

def id : Shell.Command :=
  withOperands (grammar ["a", "u|user", "g|group", "G|groups", "n|name", "r|real", "z|zero", "Z"])
    0 (some 1) fun a shell =>
    let name := a.operands.headD "root"
    let found := (users.find? fun user => user.1 == name).or
      (users.find? fun user => toString user.2 == name)
    match found with
    | none => fail (quoted name ++ ": no such user") 1 shell
    | some (name, number) =>
      let numbered (name : String) : String := toString number ++ "(" ++ name ++ ")"
      let wanted := ["u", "g", "G"].filter fun option => a.has option
      match wanted with
      | [] =>
        if a.has "n" || a.has "r" then
          fail "cannot print only names or real IDs in default format" 1 shell
        else
          shell.say ("uid=" ++ numbered name ++ " gid=" ++ numbered (groupName name) ++ " groups="
            ++ numbered (groupName name) ++ "\n")
      | [option] =>
        let text :=
          if !a.has "n" then toString number
          else if option = "u" then name else groupName name
        shell.say (text ++ "\n")
      | _ => fail "cannot print \"only\" of more than one choice" 1 shell

def groups : Shell.Command := fun arguments shell =>
  match arguments with
  | [] => (shell.finish 0).say "root\n"
  | names =>
    names.foldl
      (fun shell name =>
        match users.lookup name with
        | some _ => shell.say (name ++ " : " ++ groupName name ++ "\n")
        | none => fail (quoted name ++ ": no such user") 1 shell)
      (shell.finish 0)

def logname : Shell.Command :=
  withOperands (grammar []) 0 (some 0) fun _ shell => fail "no login name" 1 shell

def tty : Shell.Command :=
  withOperands (grammar ["s|silent|quiet"]) 0 (some 0) fun a shell =>
    (if a.has "s" then shell else shell.say "not a tty\n").finish 1

def printenv : Shell.Command :=
  withArguments (frontGrammar ["0|null"]) 2 fun a shell =>
    let ending := if a.has "0" then "\x00" else "\n"
    match a.operands with
    | [] => shell.say (String.join (shell.environment.texts.map (· ++ ending)))
    | names =>
      names.foldl
        (fun shell name =>
          match if name.toList.contains '=' then none else shell.environment name with
          | some value => shell.say (value ++ ending)
          | none => shell.finish 1)
        shell

/-- Writes where programs are found. -/
def which : Shell.Command := fun arguments shell =>
  let all := arguments.contains "-a"
  let names := arguments.filter fun argument => argument != "-a" && argument != "--"
  match names.find? fun name => name.toList.head? == some '-' && name.length > 1 with
  | some option =>
    let letter := String.singleton ((option.toList[1]?).getD '-')
    let shell := (shell.finish 2).warn ("Illegal option -" ++ letter)
    shell.say ("Usage: " ++ shell.name ++ " [-as] args\n")
  | none =>
    let searchPath := (shell.environment "PATH").getD Shell.searchPath
    names.foldl
      (fun shell name =>
        let candidates := if name.toList.contains '/' then [name]
          else Launch.candidates searchPath name
        let found := candidates.filter fun path =>
          (shell.tree.find? ⟨path⟩).any Launch.isExecutable
        match found with
        | [] => shell.finish 1
        | path :: others =>
          let shown := if all then path :: others else [path]
          shell.say (String.join (shown.map (· ++ "\n"))))
      (shell.finish (if names.isEmpty then 1 else 0))

def constant (status : Nat) : Shell.Command := fun _ shell =>
  shell.finish status

/-- How much is written by a tool that never ends before its reader is gone. -/
def endlessOutput : Nat := 65536

def yes : Shell.Command :=
  withArguments (frontGrammar []) 1 fun a shell =>
    let line := textBytes ((if a.operands.isEmpty then "y" else " ".intercalate a.operands) ++ "\n")
    let count := endlessOutput / line.length + 1
    (shell.write (ofBytes (List.replicate count line).flatten)).stop (.signal 13)

def blockCount (size total : Nat) : String :=
  toString (total / size) ++ "+" ++ (if total % size = 0 then "0" else "1")

def dd : Shell.Command := fun arguments shell =>
  let shell := shell.finish 0
  let operands := arguments.map fun argument =>
    let cs := argument.toList
    let name := cs.takeWhile (· != '=')
    (String.ofList name, String.ofList (cs.drop (name.length + 1)))
  let known := ["if", "of", "bs", "ibs", "obs", "cbs", "count", "skip", "seek", "conv", "iflag",
    "oflag", "status"]
  let sizeOf (name : String) : Except String (Option Nat) :=
    match operands.reverse.lookup name with
    | none => .ok none
    | some text =>
      match sizeOf? text with
      | some n => .ok (some n)
      | none => .error ("invalid number: " ++ quoted text)
  match (arguments.zip operands).find? fun entry => !known.contains entry.2.1 with
  | some (argument, _) => misuse ("unrecognized operand " ++ quoted argument) 1 shell
  | none =>
    let numbers : Except String (Option Nat × Option Nat × Option Nat × Option Nat) := do
      let bs ← sizeOf "bs"
      let ibs ← sizeOf "ibs"
      return (bs.or ibs, ← sizeOf "count", ← sizeOf "skip", ← sizeOf "seek")
    match numbers with
    | .error message => fail message 1 shell
    | .ok (bs, count, skip, seek) =>
      let size := max (bs.getD 512) 1
      let start := inputStart shell
      let source : Except String ByteArray × Shell :=
        match operands.reverse.lookup "if" with
        | some path => fileContent path shell
        | none =>
          let (content, shell) := takeAll 0 shell
          (.ok content, shell)
      match source with
      | (.error reason, shell) =>
        let path := (operands.reverse.lookup "if").getD ""
        if reason = isDirectoryText then
          let shell := fail ("error reading " ++ quoted path ++ ": " ++ reason) 1 shell
          (shell.warn "0+0 records in").warn "0+0 records out"
        else fail ("failed to open " ++ quoted path ++ ": " ++ reason) 1 shell
      | (.ok content, shell) =>
        let first := size * skip.getD 0
        let kept := content.extract first (count.elim content.size fun n => first + n * size)
        let shell :=
          if (operands.lookup "if").isNone then giveBackExactly (first + kept.size) start shell
          else shell
        let convs := ((operands.reverse.lookup "conv").getD "").splitOn ","
        let upper (b : UInt8) : UInt8 := if 97 ≤ b && b ≤ 122 then b - 32 else b
        let lower (b : UInt8) : UInt8 := if 65 ≤ b && b ≤ 90 then b + 32 else b
        let kept :=
          if convs.contains "ucase" then ofBytes (kept.toList.map upper)
          else if convs.contains "lcase" then ofBytes (kept.toList.map lower)
          else kept
        let shell :=
          match operands.reverse.lookup "of" with
          | none => shell.write kept
          | some path =>
            let old := (shell.tree.readBytes? ⟨path⟩).getD ByteArray.empty
            let gap := size * seek.getD 0
            let front := old.extract 0 gap
            let zeros : ByteArray := ⟨(List.replicate (gap - front.size) (0 : UInt8)).toArray⟩
            let rest := if convs.contains "notrunc" then old.extract (gap + kept.size) old.size
              else ByteArray.empty
            match (Condition.descriptorOf? path).bind fun n => shell.outputs.lookup n with
            | some sink => shell.pour kept sink
            | none =>
              match shell.tree.writeBytes ⟨path⟩ (front ++ zeros ++ kept ++ rest) with
              | (true, tree) => { shell with tree }
              | (false, _) =>
                fail ("failed to open " ++ quoted path ++ ": " ++ shell.tree.absence ⟨path⟩) 1 shell
        let status := (operands.reverse.lookup "status").getD ""
        if status = "none" then shell
        else
          let records := blockCount size kept.size
          let shell := (shell.warn (records ++ " records in")).warn (records ++ " records out")
          if status = "noxfer" then shell
          else
            let unit := if kept.size = 1 then " byte" else " bytes"
            shell.warn (toString kept.size ++ unit ++ " copied, 0.0001 s, 1.0 MB/s")
where
  giveBackExactly (used start : Nat) (shell : Shell) : Shell :=
    match shell.sourceOf? 0 with
    | some source =>
      shell.setSource 0 { source with position := min source.content.size (start + used) }
    | none => shell

end DtoGen.Tool

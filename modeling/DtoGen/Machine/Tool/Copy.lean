import DtoGen.Machine.Tool.Directory

namespace DtoGen.Tool

structure Transfer where
  sources : List String
  target : String
  /-- Whether the target is a directory that the sources go into. -/
  goesInside : Bool

def insidePath (directory source : String) : String :=
  let name := lastStep source
  if directory.endsWith "/" then directory ++ name else directory ++ "/" ++ name

/-- Reads sources and a target from the operands, the last of which is the target unless an option
names it. -/
def transferOf (a : Arguments) (run : Transfer → Shell → Shell) (shell : Shell) : Shell :=
  let isDirectory (path : String) : Bool := (shell.tree.find? ⟨path⟩).any Entry.isDirectory
  let refuseTarget (target : String) : Shell :=
    let isFound := (shell.tree.find? ⟨target⟩).isSome
    let reason := if isFound then "Not a directory" else shell.tree.absence ⟨target⟩
    fail ("target " ++ quoted target ++ ": " ++ reason) 1 shell
  match a.value? "t", a.operands with
  | some target, sources =>
    if sources.isEmpty then misuse "missing file operand" 1 shell
    else if isDirectory target then run ⟨sources, target, true⟩ shell
    else refuseTarget target
  | none, [] => misuse "missing file operand" 1 shell
  | none, [source] => misuse ("missing destination file operand after " ++ quoted source) 1 shell
  | none, operands =>
    let target := operands.getLastD ""
    let sources := operands.dropLast
    if a.has "T" then
      match operands with
      | [_, _] => run ⟨sources, target, false⟩ shell
      | _ => extraOperand (operands.getD 2 "") shell
    else if isDirectory target then run ⟨sources, target, true⟩ shell
    else if sources.length = 1 then run ⟨sources, target, false⟩ shell
    else refuseTarget target

def eachSource (one : String → String → Shell → Shell) (t : Transfer) (shell : Shell) : Shell :=
  t.sources.foldl
    (fun shell source =>
      one source (if t.goesInside then insidePath t.target source else t.target) shell)
    shell

def arrowText (source target : String) : String :=
  quoted source ++ " -> " ++ quoted target

/-- Whether a copy may take the place of what is there. -/
def mayReplace (a : Arguments) (tree : FileTree) (target : String) : Bool :=
  !(a.hasAny ["n", "u"] && (tree.findAt? ⟨target⟩).isSome)

def copyFile (a : Arguments) (source target : String) (shell : Shell) : Shell :=
  let mode := ((shell.tree.find? ⟨source⟩).map Entry.mode).getD Entry.plainMode
  let isNew := (shell.tree.find? ⟨target⟩).isNone
  match fileContent source shell with
  | (.error reason, shell) =>
    fail ("cannot open " ++ quoted source ++ " for reading: " ++ reason) 1 shell
  | (.ok content, shell) =>
    match shell.tree.writeBytes ⟨target⟩ content with
    | (false, _) =>
      fail ("cannot create regular file " ++ quoted target ++ ": " ++ shell.tree.obstacle ⟨target⟩)
        1 shell
    | (true, tree) =>
      let tree :=
        match tree.locate? ⟨target⟩, tree.find? ⟨target⟩ with
        | some place, some (.file content _) =>
          if isNew || a.hasAny ["p", "a"] then tree.set place (.file content mode) else tree
        | _, _ => tree
      let shell := { shell with tree }
      if a.has "v" then shell.say (arrowText source target ++ "\n") else shell

def copyLink (a : Arguments) (source target content : String) (shell : Shell) : Shell :=
  match shell.tree.freePlace? ⟨target⟩ with
  | some place =>
    let shell := { shell with tree := shell.tree.replace place (.link content) }
    if a.has "v" then shell.say (arrowText source target ++ "\n") else shell
  | none =>
    fail ("cannot create symbolic link " ++ quoted target ++ ": " ++ shell.tree.obstacle ⟨target⟩) 1
      shell

/-- Copies what is at a path. The first argument bounds the depth of directories. -/
def copyPath (a : Arguments) : Nat → String → String → Shell → Shell
  | 0, _, _, shell => shell
  | depth + 1, source, target, shell =>
    let isRecursive := a.hasAny ["r", "a"]
    let follows := a.has "L" || (!isRecursive && !a.hasAny ["d", "P"])
    let found := if follows then shell.tree.find? ⟨source⟩ else shell.tree.findAt? ⟨source⟩
    let isDirectory := (shell.tree.find? ⟨target⟩).any Entry.isDirectory
    let targetFound := (shell.tree.findAt? ⟨target⟩).isSome
    match found, shell.tree.locate? ⟨source⟩, shell.tree.locate? ⟨target⟩ with
    | none, _, _ =>
      fail ("cannot stat " ++ quoted source ++ ": " ++ shell.tree.absence ⟨source⟩) 1 shell
    | some .directory, some place, goal =>
      if !isRecursive then
        fail ("-r not specified; omitting directory " ++ quoted source) 1 shell
      else if targetFound && !isDirectory then
        fail ("cannot overwrite non-directory " ++ quoted target ++ " with directory "
          ++ quoted source) 1 shell
      else if goal.any place.isPrefixOf then
        fail ("cannot copy a directory, " ++ quoted source ++ ", into itself, " ++ quoted target) 1
          shell
      else
        let names := shell.tree.names ⟨source⟩
        match isDirectory, shell.tree.freePlace? ⟨target⟩ with
        | false, none =>
          fail ("cannot create directory " ++ quoted target ++ ": " ++ shell.tree.obstacle ⟨target⟩)
            1 shell
        | isThere, free =>
          let shell :=
            match isThere, free with
            | false, some place =>
              let made := { shell with tree := shell.tree.set place .directory }
              if a.has "v" then made.say (arrowText source target ++ "\n") else made
            | _, _ => shell
          names.foldl
            (fun shell name =>
              copyPath a depth (insidePath source name) (insidePath target name) shell)
            shell
    | some entry, place, goal =>
      if !mayReplace a shell.tree target then shell
      else if place.isSome && place.map shell.tree.identity == goal.map shell.tree.identity
          && follows then
        fail (quoted source ++ " and " ++ quoted target ++ " are the same file") 1 shell
      else if isDirectory then
        fail ("cannot overwrite directory " ++ quoted target ++ " with non-directory") 1 shell
      else
        match entry with
        | .link content => copyLink a source target content shell
        | _ => copyFile a source target shell

def copyDepth : Nat := 200

def cp : Shell.Command :=
  withArguments (grammar ["r|R|recursive", "a|archive", "d", "p", "f|force", "n|no-clobber",
      "u|update", "v|verbose", "i|interactive", "t|target-directory=", "T|no-target-directory",
      "L|dereference", "P|no-dereference", "H", "x", "preserve?", "no-preserve=", "b", "reflink?",
      "remove-destination"]) 1 fun a =>
    transferOf a (eachSource (copyPath a copyDepth))

def moveOne (a : Arguments) (source target : String) (shell : Shell) : Shell :=
  let refuse (reason : String) : Shell :=
    fail ("cannot move " ++ quoted source ++ " to " ++ quoted target ++ ": " ++ reason) 1 shell
  match shell.tree.findAt? ⟨source⟩, shell.tree.placeOf? ⟨source⟩ with
  | some entry, some place =>
    match shell.tree.freePlace? ⟨target⟩ with
    | none => refuse (shell.tree.obstacle ⟨target⟩)
    | some goal =>
      let there := shell.tree.entry? goal
      if !mayReplace a shell.tree target then shell
      else if place = goal then
        fail (quoted source ++ " and " ++ quoted target ++ " are the same file") 1 shell
      else if entry.isDirectory && place.isPrefixOf goal then
        fail ("cannot move " ++ quoted source ++ " to a subdirectory of itself, " ++ quoted target) 1
          shell
      else
        match entry.isDirectory, there with
        | true, some .directory =>
          if shell.tree.isEmptyAt goal then done place goal
          else refuse "Directory not empty"
        | true, some _ =>
          fail ("cannot overwrite non-directory " ++ quoted target ++ " with directory "
            ++ quoted source) 1 shell
        | false, some .directory =>
          fail ("cannot overwrite directory " ++ quoted target ++ " with non-directory") 1 shell
        | _, _ => done place goal
  | _, _ => fail ("cannot stat " ++ quoted source ++ ": " ++ shell.tree.absence ⟨source⟩) 1 shell
where
  done (place goal : Place) : Shell :=
    let shell := { shell with tree := shell.tree.move place goal }
    if a.has "v" then shell.say ("renamed " ++ arrowText source target ++ "\n") else shell

def mv : Shell.Command :=
  withArguments (grammar ["f|force", "v|verbose", "n|no-clobber", "i|interactive", "u|update", "b",
      "t|target-directory=", "T|no-target-directory"]) 1 fun a =>
    transferOf a (eachSource (moveOne a))

/-- A second name for a file, or a link to it. -/
def linkOne (a : Arguments) (source target : String) (shell : Shell) : Shell :=
  let isSymbolic := a.has "s"
  let kind := if isSymbolic then "symbolic link" else "hard link"
  let found := if isSymbolic then some (.link source) else shell.tree.findAt? ⟨source⟩
  let there := shell.tree.findAt? ⟨target⟩
  let behind := if isSymbolic then "" else " => " ++ quoted source
  match found, shell.tree.freePlace? ⟨target⟩ with
  | none, _ =>
    fail ("failed to access " ++ quoted source ++ ": " ++ shell.tree.absence ⟨source⟩) 1 shell
  | some .directory, _ => fail (source ++ ": hard link not allowed for directory") 1 shell
  | some entry, some place =>
    if source = "" then
      fail ("failed to create symbolic link " ++ quoted target ++ " -> '': No such file or directory")
        1 shell
    else if there.isSome && !(a.has "f" && !there.any Entry.isDirectory) then
      fail ("failed to create " ++ kind ++ " " ++ quoted target ++ behind.replace " => " " -> "
        ++ ": File exists") 1 shell
    else
      let tree :=
        match isSymbolic, shell.tree.placeOf? ⟨source⟩ with
        | false, some named => shell.tree.addName named place
        | _, _ => shell.tree.replace place entry
      let shell := { shell with tree }
      if a.has "v" then
        shell.say (quoted target ++ (if isSymbolic then " -> " else " => ") ++ quoted source ++ "\n")
      else shell
  | some _, none =>
    fail ("failed to create " ++ kind ++ " " ++ quoted target ++ behind ++ ": "
      ++ shell.tree.obstacle ⟨target⟩) 1 shell

def ln : Shell.Command :=
  withArguments (grammar ["s|symbolic", "f|force", "n|no-dereference", "v|verbose", "r|relative",
      "T|no-target-directory", "t|target-directory=", "P", "L", "i", "b"]) 1 fun a shell =>
    let isKept := a.has "n" && (a.operands.getLast?.bind fun target =>
      shell.tree.findAt? ⟨target⟩).any fun entry => entry matches .link _
    match a.operands, a.has "t" with
    | [source], false => linkOne a source (insidePath "." source |>.drop 2).toString shell
    | _, _ =>
      let a := if isKept then { a with options := ("T", "") :: a.options } else a
      transferOf a (eachSource (linkOne a)) shell

def link : Shell.Command :=
  withOperands (grammar []) 2 (some 2) fun a shell =>
    match a.operands with
    | [source, target] => linkOne a source target shell
    | _ => shell

def withMode (mode : Nat) (path : String) (shell : Shell) : Shell :=
  match shell.tree.locate? ⟨path⟩, shell.tree.find? ⟨path⟩ with
  | some place, some (.file content _) =>
    { shell with tree := shell.tree.set place (.file content mode) }
  | _, _ => shell

def install : Shell.Command :=
  withArguments (grammar ["d|directory", "D", "m|mode=", "v|verbose", "c", "p", "s", "C", "b",
      "o|owner=", "g|group=", "t|target-directory=", "T|no-target-directory"]) 1 fun a shell =>
    let mode := match (a.value? "m").bind (modeChange? 0) with
      | some change => change false 0
      | none => Entry.executableMode
    if a.has "d" then eachOperand a (mkdirStepwise a) shell
    else
      let shell :=
        if a.has "D" then
          match a.operands with
          | [_, target] => mkdirStepwise { a with options := [] } (frontSteps target) shell
          | _ => shell
        else shell
      let one (source target : String) (shell : Shell) : Shell :=
        withMode mode target (copyPath a copyDepth source target shell)
      transferOf a (eachSource one) shell

end DtoGen.Tool

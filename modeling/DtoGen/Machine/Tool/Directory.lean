import DtoGen.Machine.Tool.Mode

namespace DtoGen.Tool

def eachOperand (a : Arguments) (run : String → Shell → Shell) (shell : Shell) : Shell :=
  a.operands.foldl (fun shell operand => run operand shell) shell

def stepwise (path : String) : List String :=
  let names := path.splitOn "/"
  let fronts := (List.range names.length).map fun n => "/".intercalate (names.take (n + 1))
  fronts.filter fun front => front != "" && !front.endsWith "/"

/-- Makes the directories of a path that are missing, one after the other. -/
def mkdirStepwise (a : Arguments) (operand : String) (shell : Shell) : Shell :=
  let step (state : Bool × Shell) (front : String) : Bool × Shell :=
    let (isOpen, shell) := state
    if !isOpen then (false, shell)
    else
      match shell.tree.find? ⟨front⟩, shell.tree.freePlace? ⟨front⟩ with
      | some .directory, _ => (true, shell)
      | some _, _ =>
        let reason := if front = operand then "File exists" else "Not a directory"
        (false, fail ("cannot create directory " ++ quoted front ++ ": " ++ reason) 1 shell)
      | none, some place =>
        let shell := { shell with tree := shell.tree.set place .directory }
        (true, if a.has "v" then
            shell.say (shell.name ++ ": created directory " ++ quoted front ++ "\n")
          else shell)
      | none, none =>
        (false, fail ("cannot create directory " ++ quoted front ++ ": "
          ++ shell.tree.obstacle ⟨front⟩) 1 shell)
  ((stepwise operand).foldl step (true, shell)).2

def mkdirOne (a : Arguments) (operand : String) (shell : Shell) : Shell :=
  let refuse (reason : String) :=
    fail ("cannot create directory " ++ quoted operand ++ ": " ++ reason) 1 shell
  match shell.tree.findAt? ⟨operand⟩, shell.tree.freePlace? ⟨operand⟩ with
  | some _, _ => refuse "File exists"
  | none, some place =>
    let shell := { shell with tree := shell.tree.set place .directory }
    if a.has "v" then shell.say (shell.name ++ ": created directory " ++ quoted operand ++ "\n")
    else shell
  | none, none => refuse (shell.tree.obstacle ⟨operand⟩)

def mkdir : Shell.Command :=
  withOperands (grammar ["p|parents", "v|verbose", "m|mode=", "Z"]) 1 none fun a shell =>
    match (a.value? "m").filter fun mode => (modeChange? shell.tree.mask mode).isNone with
    | some mode => fail ("invalid mode " ++ quoted mode) 1 shell
    | none =>
      eachOperand a (if a.has "p" then mkdirStepwise a else mkdirOne a) shell

/-- Takes an empty directory away. Answers whether it could be done. -/
def rmdirOne (a : Arguments) (isParent : Bool) (operand : String) (shell : Shell) : Bool × Shell :=
  let what := if isParent then "directory " else ""
  let refuse (reason : String) : Bool × Shell :=
    (false, fail ("failed to remove " ++ what ++ quoted operand ++ ": " ++ reason) 1 shell)
  let announce (shell : Shell) : Shell :=
    if a.has "v" then shell.say (shell.name ++ ": removing directory, " ++ quoted operand ++ "\n")
    else shell
  match shell.tree.findAt? ⟨operand⟩, shell.tree.placeOf? ⟨operand⟩ with
  | some .directory, some place =>
    if shell.tree.isEmptyAt place then
      (true, announce { shell with tree := shell.tree.remove place })
    else if a.has "ignore-fail-on-non-empty" then (false, announce shell)
    else refuse "Directory not empty"
  | some _, _ => refuse "Not a directory"
  | none, _ => refuse (shell.tree.absence ⟨operand⟩)

def rmdirUpwards (a : Arguments) : List String → Bool → Shell → Shell
  | [], _, shell => shell
  | path :: paths, isParent, shell =>
    match rmdirOne a isParent path shell with
    | (true, shell) => rmdirUpwards a paths true shell
    | (false, shell) => shell

def rmdir : Shell.Command :=
  withOperands (grammar ["p|parents", "v|verbose", "ignore-fail-on-non-empty"]) 1 none fun a shell =>
    eachOperand a
      (fun operand shell =>
        let path := String.ofList (withoutSlashes operand.toList)
        if a.has "p" then rmdirUpwards a (stepwise path).reverse false shell
        else (rmdirOne a false operand shell).2)
      shell

/-- What is below a place with the paths it is shown by, the inner ones first. -/
def branchPaths (tree : FileTree) (operand : String) (place : Place) : List (String × Entry) :=
  let branch := tree.branch place
  let show? (p : Place) : String :=
    let inner := "/".intercalate (p.drop place.length)
    if inner = "" then operand else operand ++ "/" ++ inner
  let rec inOrder : Nat → Place → List (String × Entry)
    | 0, _ => []
    | bound + 1, p =>
      let children := (branch.filter fun (q, _) => q.length = p.length + 1 && p.isPrefixOf q).map
        Prod.fst
      let children := children.mergeSort fun a b => decide (a ≤ b)
      children.flatMap (inOrder bound) ++ (branch.lookup p).toList.map fun e => (show? p, e)
  inOrder (branch.length + 1) place

def removedText (path : String) (entry : Entry) : String :=
  "removed " ++ (if entry.isDirectory then "directory " else "") ++ quoted path ++ "\n"

def rmOne (a : Arguments) (operand : String) (shell : Shell) : Shell :=
  let refuse (reason : String) :=
    fail ("cannot remove " ++ quoted operand ++ ": " ++ reason) 1 shell
  let isRecursive := a.has "r"
  let last := lastStep operand
  match shell.tree.findAt? ⟨operand⟩, shell.tree.placeOf? ⟨operand⟩ with
  | some entry, some place =>
    if entry.isDirectory && !isRecursive && !(a.has "d" && shell.tree.isEmptyAt place) then
      refuse (if a.has "d" then "Directory not empty" else "Is a directory")
    else if entry.isDirectory && (last = "." || last = "..") then
      fail ("refusing to remove '.' or '..' directory: skipping " ++ quoted operand) 1 shell
    else
      let removed := { shell with tree := shell.tree.remove place }
      if a.has "v" then
        removed.say (String.join ((branchPaths shell.tree operand place).map fun (path, entry) =>
          removedText path entry))
      else removed
  | _, _ =>
    if a.has "f" then shell else refuse (shell.tree.absence ⟨operand⟩)

def rm : Shell.Command :=
  withArguments (grammar ["r|R|recursive", "f|force", "d|dir", "v|verbose", "i", "I", "interactive?",
      "one-file-system", "no-preserve-root", "preserve-root?"]) 1 fun a shell =>
    if a.operands.isEmpty && !a.has "f" then misuse "missing operand" 1 shell
    else eachOperand a (rmOne a) shell

def unlink : Shell.Command :=
  withOperands (grammar []) 1 (some 1) fun a shell =>
    eachOperand a
      (fun operand shell =>
        let refuse (reason : String) :=
          fail ("cannot unlink " ++ quoted operand ++ ": " ++ reason) 1 shell
        match shell.tree.findAt? ⟨operand⟩, shell.tree.placeOf? ⟨operand⟩ with
        | some .directory, _ => refuse isDirectoryText
        | some _, some place => { shell with tree := shell.tree.remove place }
        | _, _ => refuse (shell.tree.absence ⟨operand⟩))
      shell

def touchOne (a : Arguments) (operand : String) (shell : Shell) : Shell :=
  if (shell.tree.find? ⟨operand⟩).isSome || a.has "c" then shell
  else
    match shell.tree.writeBytes ⟨operand⟩ ByteArray.empty with
    | (true, tree) => { shell with tree }
    | (false, _) =>
      fail ("cannot touch " ++ quoted operand ++ ": " ++ shell.tree.obstacle ⟨operand⟩) 1 shell

def touch : Shell.Command :=
  withArguments (grammar ["c|no-create", "a", "m", "d|date=", "t=", "r|reference=", "f",
      "h|no-dereference", "time="]) 1 fun a shell =>
    if a.operands.isEmpty then misuse "missing file operand" 1 shell
    else eachOperand a (touchOne a) shell

/-- The size that a text asks for, given the size that there is. -/
def newSize? (text : String) (old : Nat) : Option Nat :=
  match text.toList with
  | '+' :: ds => (sizeOf? (String.ofList ds)).map (old + ·)
  | '-' :: ds => (sizeOf? (String.ofList ds)).map (old - ·)
  | '<' :: ds => (sizeOf? (String.ofList ds)).map (min old)
  | '>' :: ds => (sizeOf? (String.ofList ds)).map (max old)
  | _ => sizeOf? text

def resized (size : Nat) (content : ByteArray) : ByteArray :=
  let kept := content.extract 0 size
  kept ++ ⟨(List.replicate (size - kept.size) (0 : UInt8)).toArray⟩

def truncate : Shell.Command :=
  withArguments (grammar ["s|size=", "c|no-create", "r|reference=", "o|io-blocks"]) 1 fun a shell =>
    match a.value? "s", a.value? "r" with
    | none, none => misuse "you must specify either '--size' or '--reference'" 1 shell
    | size, reference =>
      let likeOther := reference.bind fun path => (shell.tree.readBytes? ⟨path⟩).map ByteArray.size
      if a.operands.isEmpty then misuse "missing file operand" 1 shell
      else
        eachOperand a
          (fun operand shell =>
            let old := shell.tree.readBytes? ⟨operand⟩
            let content := old.getD ByteArray.empty
            let wanted := match size with
              | some text => newSize? text (likeOther.getD content.size)
              | none => likeOther
            match wanted with
            | none => fail ("Invalid number: " ++ quoted (size.getD "")) 1 shell
            | some n =>
              if old.isNone && a.has "c" then shell
              else
                match shell.tree.writeBytes ⟨operand⟩ (resized n content) with
                | (true, tree) => { shell with tree }
                | (false, _) =>
                  fail ("cannot open " ++ quoted operand ++ " for writing: "
                    ++ shell.tree.obstacle ⟨operand⟩) 1 shell)
          shell

def tee : Shell.Command :=
  withArguments (grammar ["a|append", "i|ignore-interrupts", "p", "output-error?"]) 1 fun a shell =>
    let (content, shell) := takeAll 0 shell
    eachOperand a
      (fun operand shell =>
        match (Condition.descriptorOf? operand).bind fun n => shell.outputs.lookup n with
        | some sink => shell.pour content sink
        | none =>
          let (isWritten, tree) :=
            if a.has "a" then shell.tree.appendBytes ⟨operand⟩ content
            else shell.tree.writeBytes ⟨operand⟩ content
          let isDirectory := (shell.tree.find? ⟨operand⟩).any Entry.isDirectory
          let isFull := shell.tree.find? ⟨operand⟩ matches some (.device .full)
          let reason := if isDirectory then isDirectoryText
            else if isFull then "No space left on device"
            else shell.tree.obstacle ⟨operand⟩
          if isWritten then { shell with tree } else fail (becauseOf operand reason) 1 shell)
      (shell.write content)

def nameLetters : List Char :=
  "abcdefghijklmnopqrstuvwxyzABCDEFGHIJKLMNOPQRSTUVWXYZ0123456789".toList

/-- So many letters that depend on a number. -/
def lettersFor (count seed : Nat) : String :=
  String.ofList ((List.range count).map fun n =>
    nameLetters.getD ((seed * 7919 + n * 31 + seed / 3 * n) % nameLetters.length) 'x')

/-- A name made by a template, which tells with several `X` where the letters go. -/
def nameFor? (template : String) (seed : Nat) : Option String :=
  let cs := template.toList
  let behind := (cs.reverse.takeWhile (· != 'X')).reverse
  let front := cs.take (cs.length - behind.length)
  let marks := front.reverse.takeWhile (· == 'X')
  if marks.length < 3 then none
  else
    some (String.ofList (front.take (front.length - marks.length)) ++ lettersFor marks.length seed
      ++ String.ofList behind)

def mktemp : Shell.Command :=
  withOperands (grammar ["d|directory", "u|dry-run", "q|quiet", "p|tmpdir?", "t", "suffix="])
    0 (some 1) fun a shell =>
    let temporary := (shell.valueOf? "TMPDIR").getD "/tmp"
    let template := a.operands.headD "tmp.XXXXXXXXXX" ++ (a.value? "suffix").getD ""
    let directory :=
      match a.value? "p" with
      | some "" => some temporary
      | some directory => some directory
      | none => if a.operands.isEmpty || a.has "t" then some temporary else none
    match nameFor? template (shell.tree.entries.length + shell.clock) with
    | none =>
      if a.has "q" then shell.finish 1
      else fail ("too few X's in template " ++ quoted template) 1 shell
    | some name =>
      let path := match directory with
        | some directory => directory ++ "/" ++ name
        | none => name
      if a.has "u" then shell.say (path ++ "\n")
      else
        let kind := if a.has "d" then "directory" else "file"
        match shell.tree.freePlace? ⟨path⟩ with
        | none =>
          fail ("failed to create " ++ kind ++ " via template " ++ quoted path ++ ": "
            ++ shell.tree.obstacle ⟨path⟩) 1 shell
        | some place =>
          let entry : Entry := if a.has "d" then .directory else .file ByteArray.empty 0o600
          { shell with tree := shell.tree.set place entry }.say (path ++ "\n")

end DtoGen.Tool

import DtoGen.Machine.Shell

namespace DtoGen.Condition

inductive Finding
  | directory
  | file (size mode : Nat)
  | device
  | pipe
  | program
deriving DecidableEq, Repr

/-- Paths that stand for what is open already. -/
def descriptorOf? (path : String) : Option Nat :=
  match path with
  | "/dev/stdin" => some 0
  | "/dev/stdout" => some 1
  | "/dev/stderr" => some 2
  | _ =>
    let starts := ["/dev/fd/", "/proc/self/fd/"]
    starts.findSome? fun start =>
      if start.toList.isPrefixOf path.toList then (path.drop start.length).toNat? else none

def ofEntry (tree : FileTree) (place : Place) : Entry → Option Finding
  | .directory => some .directory
  | .file content mode =>
    if place.take 3 = ["proc", "self", "fd"] then some .pipe else some (.file content.size mode)
  | .device _ => some .device
  | .program _ => some .program
  | .link _ =>
    match tree.directoryAt? place with
    | some _ => some .directory
    | none => none

def ofSource (source : Source) : Finding :=
  match source.kind with
  | .pipe => .pipe
  | .file => .file source.content.size Entry.plainMode
  | .device => .device

def ofSink (tree : FileTree) : Sink → Finding
  | .channel _ => .pipe
  | .file path => .file ((tree.readBytes? path).elim 0 ByteArray.size) Entry.plainMode
  | .nowhere | .full => .device

def find? (shell : Shell) (path : String) : Option Finding :=
  let opened : Option Finding := do
    let n ← descriptorOf? path
    match shell.outputs.lookup n, shell.sourceOf? n with
    | some sink, _ => some (ofSink shell.tree sink)
    | none, some source => some (ofSource source)
    | none, none => none
  opened.or do
    let place ← shell.tree.locate? ⟨path⟩
    ofEntry shell.tree place (← shell.tree.find? ⟨path⟩)

def isLink (shell : Shell) (path : String) : Bool :=
  match shell.tree.findAt? ⟨path⟩ with
  | some (.link _) => true
  | _ => false

def allowsExecution : Finding → Bool
  | .directory | .program => true
  | .file _ mode => Entry.allowsExecution mode
  | .device | .pipe => false

def allowsWriting : Finding → Bool
  | .program => false
  | .file _ mode => mode.testBit 7
  | .directory | .device | .pipe => true

def isNotEmpty : Finding → Bool
  | .directory | .program => true
  | .file size _ => 0 < size
  | .device | .pipe => false

def hasMode (bit : Nat) : Finding → Bool
  | .file _ mode => mode / bit % 2 == 1
  | _ => false

def holdsOfFile (shell : Shell) (operator path : String) : Bool :=
  let found := find? shell path
  match operator with
  | "-e" | "-a" | "-r" | "-O" | "-G" => found.isSome
  | "-w" => found.any fun f => shell.tree.isPrivileged || allowsWriting f
  | "-d" => found == some .directory
  | "-f" => found.any fun f => match f with
    | .file _ _ | .program => true
    | _ => false
  | "-c" => found == some .device
  | "-p" => found == some .pipe
  | "-x" => found.any allowsExecution
  | "-s" => found.any isNotEmpty
  | "-u" => found.any (hasMode 0o4000)
  | "-g" => found.any (hasMode 0o2000)
  | "-k" => found.any (hasMode 0o1000)
  | "-h" | "-L" => isLink shell path
  | _ => false

/-- Whether two paths lead to one file. -/
def isSame (shell : Shell) (left right : String) : Bool :=
  match find? shell left, find? shell right with
  | some _, some _ =>
    left == right || shell.tree.fileOf? ⟨left⟩ == shell.tree.fileOf? ⟨right⟩
  | _, _ => false

/-- The answer of an operator on two paths. No file is newer than another one. -/
def holdsOfFiles (shell : Shell) (operator left right : String) : Bool :=
  let isFound (path : String) : Bool := (find? shell path).isSome
  match operator, shell.dialect with
  | "-ef", _ => isSame shell left right
  | "-nt", .extended => isFound left && !isFound right
  | "-ot", .extended => isFound right && !isFound left
  | _, _ => false

end DtoGen.Condition

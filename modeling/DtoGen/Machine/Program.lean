import DtoGen.Machine.Shell
import DtoGen.Text.Utf8

namespace DtoGen

/-- Why a program cannot be started. -/
inductive LaunchFault
  | missing
  | forbidden
  | isDirectory
  /-- A step of the path is no directory. -/
  | blocked
  /-- What a script names in its first line is not there. -/
  | noReader
  /-- What a script names in its first line is no program. -/
  | badReader (program : String)
  /-- A file that may be executed but does not say by what. -/
  | unmarked (path text : String)
deriving DecidableEq, Repr

/-- A tool of the system with its arguments and the name that it was started by. -/
structure Launch where
  tool : String
  name : String
  arguments : List String
deriving DecidableEq, Repr

namespace Launch

def mark : List UInt8 :=
  [35, 33]

/-- How much of a file is looked at for the end of its first line. -/
def headSize : Nat := 256

def isBlank (b : UInt8) : Bool :=
  b == 32 || b == 9

def trimmed (bs : List UInt8) : List UInt8 :=
  ((bs.dropWhile isBlank).reverse.dropWhile isBlank).reverse

def endsName (b : UInt8) : Bool :=
  isBlank b || b == 0

def text (bs : List UInt8) : String :=
  Text.decode ⟨bs.toArray⟩

/-- The first line of a script behind its mark. A line that goes on past what is looked at is cut
off, which may not be in the middle of its first word. -/
def firstLine? (head : List UInt8) : Option (List UInt8) :=
  let line := (head.drop mark.length).takeWhile (· != 10)
  if mark.length + line.length < headSize then some line
  else if (line.dropWhile isBlank).any endsName then some line.dropLast
  else none

/-- The program that a script names, and the one argument that may follow. -/
def interpreter? (content : List UInt8) : Option (String × Option String) := do
  let head := content.take headSize
  if !mark.isPrefixOf head then none
  else
    let words := trimmed (← firstLine? head)
    let name := words.takeWhile fun b => !endsName b
    let argument := ((words.drop name.length).dropWhile isBlank).takeWhile (· != 0)
    if name.isEmpty then none
    else some (text name, if argument.isEmpty then none else some (text argument))

/-- Finds what a file comes down to. A script is read by what it names, which may be a script
again; the first argument bounds how often. -/
def ofPath? (tree : FileTree) : Nat → String → List String → Except LaunchFault Launch
  | 0, _, _ => .error .missing
  | depth + 1, path, arguments =>
    match tree.find? ⟨path⟩ with
    | none => .error (if tree.isBlocked ⟨path⟩ then .blocked else .missing)
    | some .directory => .error .isDirectory
    | some (.program tool) => .ok ⟨tool, path, arguments⟩
    | some (.device _) | some (.link _) => .error .forbidden
    | some (.file content mode) =>
      if !Entry.allowsExecution mode then .error .forbidden
      else
        match interpreter? content.toList with
        | none => .error (.unmarked path (Text.decode content))
        | some (program, argument) =>
          match ofPath? tree depth program (argument.toList ++ path :: arguments) with
          | .ok launch => .ok launch
          | .error .missing => .error .noReader
          | .error (.unmarked _ _) => .error (.unmarked path (Text.decode content))
          | .error _ => .error (.badReader program)

/-- How many scripts may be named one by the other. -/
def depthLimit : Nat := 6

/-- The paths at which a name may be found. -/
def candidates (searchPath name : String) : List String :=
  (searchPath.splitOn ":").map fun directory =>
    if directory = "" then name else directory ++ "/" ++ name

def isExecutable : Entry → Bool
  | .program _ => true
  | .file _ mode => Entry.allowsExecution mode
  | _ => false

/-- The path that a name without a slash stands for. -/
def search? (tree : FileTree) (searchPath name : String) : Except LaunchFault String :=
  let paths := if name = "" then [] else candidates searchPath name
  let isFile (path : String) : Bool := (tree.find? ⟨path⟩).any fun entry => !entry.isDirectory
  match paths.find? fun path => (tree.find? ⟨path⟩).any isExecutable with
  | some path => .ok path
  | none => .error (if paths.any isFile then .forbidden else .missing)

/-- Finds a program. A name without a slash is looked for, and stays the name. -/
def ofName? (tree : FileTree) (searchPath name : String) (arguments : List String) :
    Except LaunchFault Launch := do
  if name.toList.contains '/' then ofPath? tree depthLimit name arguments
  else
    let path ← search? tree searchPath name
    let launch ← ofPath? tree depthLimit path arguments
    return if launch.name = path then { launch with name } else launch

end Launch

end DtoGen

import DtoGen.Machine.Entry
import DtoGen.Path

namespace DtoGen

/-- A file system in memory. -/
structure FileTree where
  /-- What is there, each thing with its names. -/
  items : List (List Place × Entry)
  workingDirectory : Place
  /-- The modes that new files do not get. -/
  mask : Nat
  /-- Whether the user may put anything into a directory. The others are as the mask leaves them. -/
  admitting : List (Place × Bool)
  /-- Whether no mode of a file keeps the user from writing. -/
  isPrivileged : Bool

/-- What tells files apart, whatever their names. -/
inductive FileIdentity
  | stored (number : Nat)
  | absent (place : Place)
deriving DecidableEq, Repr

namespace FileTree

/-- What every system brings along, and nothing else. -/
def ofSystem (workingDirectory : Place) : FileTree where
  items := BaseSystem.entries.map fun (place, entry) => ([place], entry)
  workingDirectory := workingDirectory
  mask := 0o022
  admitting := BaseSystem.closed.map (·, false)
  isPrivileged := true

/-- What is under each name. -/
def entries (tree : FileTree) : List (Place × Entry) :=
  tree.items.flatMap fun (names, entry) => names.map fun name => (name, entry)

/-- The root is no item. -/
def number? (tree : FileTree) (place : Place) : Option Nat :=
  if place = [] then none else tree.items.findIdx? fun item => item.1.contains place

/-- All names of what is under a name. -/
def namesOf (tree : FileTree) (place : Place) : List Place :=
  match (tree.number? place).bind (tree.items[·]?) with
  | some item => item.1
  | none => [place]

def identity (tree : FileTree) (place : Place) : FileIdentity :=
  match tree.number? place with
  | some number => .stored number
  | none => .absent place

/-- The root is always there. -/
def entry? (tree : FileTree) (place : Place) : Option Entry :=
  if place = [] then some .directory
  else (tree.number? place).bind fun number => tree.items[number]?.map Prod.snd

def isDirectory (tree : FileTree) (place : Place) : Bool :=
  (tree.entry? place).any Entry.isDirectory

/-- Takes a name away, and what is below it. -/
def remove (tree : FileTree) (place : Place) : FileTree :=
  { tree with
    items := tree.items.filterMap fun (names, entry) =>
      let names := names.filter fun name => !place.isPrefixOf name
      if names.isEmpty then none else some (names, entry) }

/-- Changes what is under a name, and with it what is under the other names of the file. -/
def set (tree : FileTree) (place : Place) (entry : Entry) : FileTree :=
  match tree.number? place with
  | some number => { tree with items := tree.items.modify number fun item => (item.1, entry) }
  | none => { tree with items := tree.items ++ [([place], entry)] }

def longestName : Nat := 255

def longestPath : Nat := 4095

def fits (name : String) : Bool :=
  name.utf8ByteSize ≤ longestName

/-- Whether the text can be a path at all. -/
def isUsable (path : Path) : Bool :=
  path.text != "" && path.text.utf8ByteSize ≤ longestPath && !path.text.toList.contains '\x00'

/-- Whether the spelling says that it means a directory. -/
def meansDirectory (path : Path) : Bool :=
  path.fileName?.isNone ||
    match (Path.pieces path.text.toList).getLast? with
    | some piece => Path.isFiller piece
    | none => true

def start (tree : FileTree) (path : Path) : Place :=
  if path.isAbsolute then [] else tree.workingDirectory

def next (place : Place) : Component → Option Place
  | .root => some []
  | .here => some place
  | .up => some place.dropLast
  | .name text => if fits text then some (place ++ [text]) else none

/-- The first argument bounds the steps, so that links that stand for each other lead nowhere. The
number of links is not bounded apart; a system gives up behind forty of them. -/
def walk (tree : FileTree) (followsLast : Bool) : Nat → Place → List Component → Option Place
  | _, place, [] => some place
  | 0, _, _ => none
  | bound + 1, place, component :: rest => do
    let reached ← next place component
    match tree.entry? reached with
    | some .directory => walk tree followsLast bound reached rest
    | some (.link target) =>
      if rest.isEmpty && !followsLast then some reached
      else
        let path : Path := ⟨target⟩
        let start := if path.isAbsolute then [] else place
        walk tree followsLast bound start (path.components ++ rest)
    | _ => if rest.isEmpty then some reached else none

def longestWalk : Nat := 2 * longestPath

def locateFrom? (tree : FileTree) (followsLast : Bool) (path : Path) : Option Place :=
  if isUsable path && tree.isDirectory (tree.start path) then
    tree.walk followsLast longestWalk (tree.start path) path.components
  else none

/-- Where a path leads, whether or not something is there. -/
def locate? (tree : FileTree) (path : Path) : Option Place :=
  tree.locateFrom? true path

/-- The place that a path names: a link itself, unless the spelling says that it means a
directory. -/
def placeOf? (tree : FileTree) (path : Path) : Option Place :=
  tree.locateFrom? (meansDirectory path) path

def visible? (path : Path) (entry : Entry) : Option Entry :=
  if entry.isDirectory || !meansDirectory path then some entry else none

/-- The file that a path leads to, whether or not it is there. -/
def fileOf? (tree : FileTree) (path : Path) : Option FileIdentity :=
  (tree.locate? path).map tree.identity

/-- The tree as it is seen from a directory. -/
def enter? (tree : FileTree) : Option Path → Option FileTree
  | none => some tree
  | some directory => do
    let place ← tree.locate? directory
    if tree.isDirectory place then some { tree with workingDirectory := place } else none

/-- What a path leads to. -/
def find? (tree : FileTree) (path : Path) : Option Entry := do
  visible? path (← tree.entry? (← tree.locate? path))

/-- What is at the place that a path names. -/
def findAt? (tree : FileTree) (path : Path) : Option Entry := do
  visible? path (← tree.entry? (← tree.placeOf? path))

/-- Whether something on the way is there, but is no directory. -/
def isBlocked (tree : FileTree) (path : Path) : Bool :=
  let components := path.components
  let isFile (place : Place) : Bool :=
    match tree.entry? place with
    | some .directory | some (.link _) | none => false
    | some _ => true
  let blocks (n : Nat) : Bool :=
    (tree.walk true longestWalk (tree.start path) (components.take n)).any isFile
  (List.range components.length).any blocks || meansDirectory path && blocks components.length

/-- Whether the user may write over what is there. Files are the user's own. -/
def admits (tree : FileTree) : Entry → Bool
  | .file _ mode => tree.isPrivileged || mode.testBit 7
  | .program _ => tree.isPrivileged
  | _ => true

/-- Why a path leads nowhere or cannot be written to, in the words of the system. -/
def absence (tree : FileTree) (path : Path) : String :=
  let tooLong := path.components.any fun component =>
    match component with
    | .name text => !fits text
    | _ => false
  if tooLong || longestPath < path.text.utf8ByteSize then "File name too long"
  else if tree.isBlocked path then "Not a directory"
  else if (tree.find? path).any fun entry => !tree.admits entry then "Permission denied"
  else "No such file or directory"

def readBytes? (tree : FileTree) (path : Path) : Option ByteArray :=
  tree.find? path >>= Entry.content?

def readText? (tree : FileTree) (path : Path) : Option String :=
  tree.readBytes? path >>= String.fromUTF8?

/-- Where a directory is at a place, or at what a link there stands for. -/
def directoryAt? (tree : FileTree) (place : Place) : Option Place :=
  match tree.entry? place with
  | some .directory => some place
  | some (.link target) =>
    let path : Path := ⟨target⟩
    let start := if path.isAbsolute then [] else place.dropLast
    (tree.walk true longestWalk start path.components).filter tree.isDirectory
  | _ => none

/-- The mode of what is made. -/
def newMode (tree : FileTree) (mode : Nat) : Nat :=
  mode - Nat.land mode tree.mask

/-- Whether the user may put anything into a directory that is made. -/
def opensNew (tree : FileTree) : Bool :=
  let mode := tree.newMode 0o777
  tree.isPrivileged || mode.testBit 7 && mode.testBit 6

/-- Whether nothing may be put at a place. -/
def isClosed (tree : FileTree) (place : Place) : Bool :=
  !(tree.admitting.lookup place.dropLast).getD tree.opensNew

/-- Makes the directories that are missing on the way. Those made before a failure stay. -/
def makeDirectories (tree : FileTree) (place : Place) : List Component → Bool × FileTree
  | [] => (true, tree)
  | component :: rest =>
    match next place component with
    | none => (false, tree)
    | some place =>
      match tree.entry? place, tree.directoryAt? place with
      | _, some place => tree.makeDirectories place rest
      | some _, none => (false, tree)
      | none, none =>
        if tree.isClosed place then (false, tree)
        else (tree.set place .directory).makeDirectories place rest

def createDirectories (tree : FileTree) (path : Path) : Bool × FileTree :=
  if path.text = "" then (true, tree)
  else if isUsable path then tree.makeDirectories (tree.start path) path.components
  else (false, tree)

def mayWrite (tree : FileTree) (place : Place) : Bool :=
  match tree.entry? place with
  | some entry => tree.admits entry
  | none => !tree.isClosed place

/-- Where a file may be written: anywhere in a directory but over a directory, as long as nothing
keeps the user from it. -/
def writable? (tree : FileTree) (path : Path) : Option (Place × Option Entry) := do
  let place ← tree.locate? path
  if meansDirectory path || tree.isDirectory place || !tree.mayWrite place then none
  else some (place, tree.entry? place)

/-- Why nothing can be put at a path. -/
def obstacle (tree : FileTree) (path : Path) : String :=
  if (tree.placeOf? path).any tree.isClosed then "Permission denied" else tree.absence path

/-- Replaces the content of a file, or makes the file. A file that is there keeps its mode and its
names. -/
def writeBytes (tree : FileTree) (path : Path) (content : ByteArray) : Bool × FileTree :=
  match tree.writable? path with
  | none => (false, tree)
  | some (place, some (.file _ mode)) => (true, tree.set place (.file content mode))
  | some (_, some (.device .full)) => (content.isEmpty, tree)
  | some (_, some (.device .terminal)) => (false, tree)
  | some (_, some (.device _)) => (true, tree)
  | some (place, some (.program _)) =>
    (true, tree.set place (.file content Entry.executableMode))
  | some (place, _) => (true, tree.set place (.file content (tree.newMode 0o666)))

def appendBytes (tree : FileTree) (path : Path) (content : ByteArray) : Bool × FileTree :=
  match tree.find? path with
  | some (.file old _) => tree.writeBytes path (old ++ content)
  | _ => tree.writeBytes path content

def writeText (tree : FileTree) (path : Path) (content : String) : Bool × FileTree :=
  tree.writeBytes path content.toUTF8

end FileTree

end DtoGen

import DtoGen.FileSpec
import DtoGen.Formatter
import DtoGen.Generation.Error
import DtoGen.Machine.FileTree

namespace DtoGen

structure Disk (m : Type → Type) where
  /-- Makes a directory and those above it, and says whether it is there now. -/
  createDirectories : Path → m Bool
  /-- Replaces the content of a file, or makes the file, and says whether it did. -/
  write : Path → String → m Bool

namespace Disk

def ofFileTree : Disk (StateM FileTree) where
  createDirectories path tree := tree.createDirectories path
  write path content tree := tree.writeText path content

end Disk

/-- A formatter with the configuration that it found. -/
structure Formatting (m : Type → Type) where
  formatter : Formatter m
  config : Option Path

namespace Formatting

variable {m : Type → Type} [Monad m]

/-- Without a formatter a text stays as it is. -/
def apply (formatting : Option (Formatting m)) (file : FileSpec) : m (Except String String) :=
  match formatting with
  | none => pure (.ok file.content)
  | some formatting => formatting.formatter.format file.content file.path formatting.config

end Formatting

/-- How far a file has come. -/
inductive Progress
  | waiting
  | prepared
  | formatted (content : String)
  | written
  | failed (error : GenerationError)
deriving DecidableEq, Repr

structure WriteTask where
  file : FileSpec
  progress : Progress
deriving DecidableEq, Repr

namespace FileSpec

/-- The directory that has to be made first. A bare file name needs none. -/
def directoryToMake? (file : FileSpec) : Option Path :=
  file.path.parent?.filter (·.text != "")

end FileSpec

namespace WriteTask

variable {m : Type → Type} [Monad m]

def start (file : FileSpec) : WriteTask :=
  ⟨file, .waiting⟩

def error? (task : WriteTask) : Option GenerationError :=
  match task.progress with
  | .failed error => some error
  | _ => none

def isFinished (task : WriteTask) : Bool :=
  match task.progress with
  | .written => true
  | .failed _ => true
  | _ => false

def prepare (disk : Disk m) (file : FileSpec) : m Progress := do
  match file.directoryToMake? with
  | none => return .prepared
  | some directory =>
    return if ← disk.createDirectories directory then .prepared else .failed (.write directory)

def format (formatting : Option (Formatting m)) (file : FileSpec) : m Progress := do
  match ← Formatting.apply formatting file with
  | .ok content => return .formatted content
  | .error reason => return .failed (.format file.path reason)

def write (disk : Disk m) (path : Path) (content : String) : m Progress := do
  return if ← disk.write path content then .written else .failed (.write path)

/-- One step of a task. A finished task stays as it is. -/
def step (disk : Disk m) (formatting : Option (Formatting m)) (task : WriteTask) :
    m WriteTask := do
  match task.progress with
  | .waiting => return { task with progress := ← prepare disk task.file }
  | .prepared => return { task with progress := ← format formatting task.file }
  | .formatted content => return { task with progress := ← write disk task.file.path content }
  | .written => return task
  | .failed _ => return task

/-- The number of steps that finish any task. -/
def stepCount : Nat :=
  3

def steps (disk : Disk m) (formatting : Option (Formatting m)) : Nat → WriteTask → m WriteTask
  | 0, task => pure task
  | count + 1, task => do steps disk formatting count (← step disk formatting task)

end WriteTask

namespace Writing

variable {m : Type → Type} [Monad m]

/-- Lets one task take a step. A number that no task has changes nothing. -/
def stepAt (disk : Disk m) (formatting : Option (Formatting m)) :
    Nat → List WriteTask → m (List WriteTask)
  | _, [] => pure []
  | 0, task :: tasks => return (← task.step disk formatting) :: tasks
  | index + 1, task :: tasks => return task :: (← stepAt disk formatting index tasks)

/-- Lets the tasks take steps in the order of the schedule. -/
def follow (disk : Disk m) (formatting : Option (Formatting m)) :
    List Nat → List WriteTask → m (List WriteTask)
  | [], tasks => pure tasks
  | index :: schedule, tasks => do
    follow disk formatting schedule (← stepAt disk formatting index tasks)

/-- Finishes the tasks one after another. -/
def finish (disk : Disk m) (formatting : Option (Formatting m)) :
    List WriteTask → m (List WriteTask)
  | [] => pure []
  | task :: tasks => do
    let task ← task.steps disk formatting WriteTask.stepCount
    return task :: (← finish disk formatting tasks)

/-- The most tasks that are looked at all at once. -/
def fewTasks : Nat := 30

/-- The failure that is seen when the tasks are looked at. Of many tasks those count that have no
unfinished one in front of them. -/
def failure? (tasks : List WriteTask) : Option GenerationError :=
  let seen := if tasks.length ≤ fewTasks then tasks else tasks.takeWhile (·.isFinished)
  seen.findSome? WriteTask.error?

/-- Lets the tasks take steps in the order of the schedule, where a number that no task has is a
look at them. The first failure that is seen is kept, and the tasks go on. -/
def watch (disk : Disk m) (formatting : Option (Formatting m)) :
    List Nat → List WriteTask → m (Option GenerationError × List WriteTask)
  | [], tasks => pure (none, tasks)
  | index :: schedule, tasks => do
    let seen := if tasks.length ≤ index then failure? tasks else none
    let (later, tasks) ←
      watch disk formatting schedule (← stepAt disk formatting index tasks)
    return (seen.or later, tasks)

/-- Without a failure that was seen before, the finished tasks are looked at. -/
def outcome (seen : Option GenerationError) (tasks : List WriteTask) :
    Except GenerationError (List Path) :=
  match seen.or (failure? tasks) with
  | some error => .error error
  | none => .ok (tasks.map (·.file.path))

/-- Writes every file. The answer lists the paths in the order of the files, whatever the schedule;
steps that the schedule leaves out are taken at the end. -/
def run (disk : Disk m) (formatting : Option (Formatting m)) (schedule : List Nat)
    (files : List FileSpec) : m (Except GenerationError (List Path)) := do
  let (seen, tasks) ← watch disk formatting schedule (files.map WriteTask.start)
  return outcome seen (← finish disk formatting tasks)

end Writing

end DtoGen

import DtoGen.Generation.Plan
import DtoGen.Generation.Writing

namespace DtoGen

/-- What a generation that went well has done. -/
structure GenerationReport where
  /-- In the order of paths. -/
  written : List Path
  synthesized : Nat
  barrels : Nat
  isFormatted : Bool
  formatterConfig : Option Path
deriving DecidableEq, Repr

namespace GenerationReport

def total (report : GenerationReport) : Nat :=
  report.written.length

/-- Looks for a path between two ranks of an ascending list. -/
def search (paths : Array Path) (path : Path) (low high : Nat) : Bool :=
  if _h : low < high then
    let middle := (low + high) / 2
    match (paths.getD middle default).compareTo path with
    | .eq => true
    | .lt => search paths path (middle + 1) high
    | .gt => search paths path low middle
  else false
termination_by high - low
decreasing_by all_goals omega

/-- Whether a file was written at the path, however it is spelled. -/
def contains (report : GenerationReport) (path : Path) : Bool :=
  search report.written.toArray path 0 report.written.length

end GenerationReport

/-- The parts that a generation works with. -/
structure Pipeline (m : Type → Type) where
  synthesizer : Synthesizer m
  formatter : Formatter m
  disk : Disk m
  /-- Where the search for the formatter's configuration starts if the options do not say it. A
  directory that is gone cannot be told. -/
  workingDirectory : m (Except String Path)

namespace Pipeline

variable {m : Type → Type} [Monad m]

def plan (pipeline : Pipeline m) (request : Request) : m (Except GenerationError Plan) :=
  pipeline.synthesizer.plan request

def searchStart (pipeline : Pipeline m) (options : Options) : m (Except String Path) :=
  match options.prettierConfig with
  | some path => pure (.ok path)
  | none => pipeline.workingDirectory

/-- Looks for the formatter's configuration, once for all files. -/
def resolveFormatting (pipeline : Pipeline m) (options : Options) :
    m (Except GenerationError (Option (Formatting m))) := do
  if !options.usePrettier then return .ok none
  else match ← pipeline.searchStart options with
    | .error reason => return .error (.formatterConfig ⟨"."⟩ reason)
    | .ok start =>
      match ← pipeline.formatter.resolveConfig start with
      | .error reason => return .error (.formatterConfig start reason)
      | .ok config => return .ok (some ⟨pipeline.formatter, config⟩)

def report (plan : Plan) (formatting : Option (Formatting m)) (written : List Path) :
    GenerationReport where
  written := Path.sorted written
  synthesized := plan.synthesized.length
  barrels := plan.barrels.length
  isFormatted := formatting.isSome
  formatterConfig := formatting.bind (·.config)

/-- Writes the files of a plan in the order of a schedule. -/
def write (pipeline : Pipeline m) (schedule : List Nat) (plan : Plan)
    (formatting : Option (Formatting m)) : m (Except GenerationError GenerationReport) := do
  match ← Writing.run pipeline.disk formatting schedule plan.files with
  | .error error => return .error error
  | .ok written => return .ok (report plan formatting written)

def run (pipeline : Pipeline m) (schedule : List Nat) (request : Request) :
    m (Except GenerationError GenerationReport) := do
  match ← pipeline.plan request with
  | .error error => return .error error
  | .ok plan =>
    match ← pipeline.resolveFormatting request.options with
    | .error error => return .error error
    | .ok formatting => pipeline.write schedule plan formatting

end Pipeline

end DtoGen

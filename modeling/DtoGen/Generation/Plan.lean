import DtoGen.Barrel
import DtoGen.Generation.Error
import DtoGen.Synthesizer

namespace DtoGen

inductive Stage
  | normalize
  | synthesize
  | aggregate
  | resolveFormatter
  | write
deriving DecidableEq, Repr

namespace Stage

/-- In the order in which they are taken. -/
def all : List Stage :=
  [normalize, synthesize, aggregate, resolveFormatter, write]

def name : Stage → String
  | normalize => "normalize"
  | synthesize => "synthesize"
  | aggregate => "aggregate"
  | resolveFormatter => "resolve-formatter"
  | write => "write"

end Stage

/-- A warning in the log, which shows warnings unless the user asks for less. Lines of a lower rank
are left out. -/
structure LogLine where
  message : String
  fields : List (String × String)
deriving DecidableEq, Repr

namespace LogLine

def ignoredOption (key : String) : LogLine :=
  ⟨"ignoring unknown generator option", [("stage", Stage.normalize.name), ("key", key)]⟩

end LogLine

/-- What has come out, and what has been logged on the way to it. -/
structure Logged (α : Type) where
  log : List LogLine
  value : α
deriving DecidableEq, Repr

/-- What a generation reads. -/
structure Request where
  options : Options
  schema : Schema
deriving DecidableEq, Repr

namespace Request

/-- Keys that mean nothing are logged, whatever comes of the others. -/
def normalize (env : Environment) (raw : RawOptions) (output : String) (schema : Schema) :
    Logged (Except GenerationError Request) where
  log := raw.unknownKeys.map .ignoredOption
  value :=
    match Options.normalize env raw output with
    | .ok options => .ok ⟨options, schema⟩
    | .error error => .error (.config error)

end Request

structure Plan where
  /-- In the synthesizer's order. -/
  synthesized : List FileSpec
  /-- In the order in which their directories come first. -/
  barrels : List FileSpec
deriving DecidableEq, Repr

namespace Plan

def files (plan : Plan) : List FileSpec :=
  plan.synthesized ++ plan.barrels

def size (plan : Plan) : Nat :=
  plan.synthesized.length + plan.barrels.length

def isEmpty (plan : Plan) : Bool :=
  plan.size == 0

def ofFiles (options : Options) (extension : String) (files : List FileSpec) : Plan :=
  ⟨files, if options.reExport then (Barrels.ofFiles extension files).files else []⟩

end Plan

namespace Synthesizer

variable {m : Type → Type} [Monad m]

def plan (synthesizer : Synthesizer m) (request : Request) : m (Except GenerationError Plan) := do
  match ← synthesizer.synthesize request.options request.schema with
  | .error reason => return .error (.synthesis reason)
  | .ok files => return .ok (.ofFiles request.options synthesizer.extension files)

end Synthesizer

end DtoGen

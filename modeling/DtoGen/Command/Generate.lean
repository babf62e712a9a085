import DtoGen.Report.Generation

namespace DtoGen

structure GenerationInput where
  /-- With the overrides of the command line. -/
  raw : RawOptions
  /-- The output location as written. -/
  output : String
  schema : Schema
  /-- Asks for a preview. -/
  isDryRun : Bool
deriving DecidableEq, Repr

namespace GenerationInput

def warnings (input : GenerationInput) : List String :=
  input.raw.unknownKeys.map unknownOptionWarning

def normalized (env : Environment) (input : GenerationInput) :
    Logged (Except GenerationError Request) :=
  Request.normalize env input.raw input.output input.schema

def request (env : Environment) (input : GenerationInput) : Except GenerationError Request :=
  (input.normalized env).value

/-- What is logged before anything else is done. -/
def log (env : Environment) (input : GenerationInput) : List LogLine :=
  (input.normalized env).log

end GenerationInput

namespace Pipeline

variable {m : Type → Type} [Monad m]

def preview (pipeline : Pipeline m) (request : Request) :
    m (Except GenerationError GenerationResult) := do
  match ← pipeline.plan request with
  | .error error => return .error error
  | .ok plan => return .ok (.preview plan.files)

def result (pipeline : Pipeline m) (schedule : List Nat) (isDryRun : Bool) (request : Request) :
    m (Except GenerationError GenerationResult) := do
  if isDryRun then pipeline.preview request
  else match ← pipeline.run schedule request with
    | .error error => return .error error
    | .ok report => return .ok (.written report)

/-- The options are looked at before anything else is done. The log of that is the input's. -/
def generate (pipeline : Pipeline m) (env : Environment) (schedule : List Nat)
    (input : GenerationInput) : m (Except GenerationError GenerationSummary) := do
  match input.request env with
  | .error error => return .error error
  | .ok request =>
    match ← pipeline.result schedule input.isDryRun request with
    | .error error => return .error error
    | .ok result => return .ok ⟨request.options.output, input.warnings, result⟩

end Pipeline

end DtoGen

import DtoGen.Command.Check
import DtoGen.Command.Generate
import DtoGen.CommandLine.Arguments
import DtoGen.CommandLine.Usage

namespace DtoGen.CommandLine

/-- What a command ends with when it fails. -/
inductive Failure
  | config (error : ConfigError)
  | generation (error : GenerationError)
deriving DecidableEq, Repr

namespace Failure

def ofGeneration : GenerationError → Failure
  | .config error => config error
  | error => generation error

def message : Failure → String
  | config error => error.message
  | generation error => "Failed to generate DTOs: " ++ error.message

/-- The code of the configuration error that is to blame. -/
def code? : Failure → Option String
  | config error => some error.code
  | generation _ => none

end Failure

inductive Answer
  | shown (events : List ReportEvent)
  | failed (failure : Failure)
  | refused (error : UsageError)
deriving DecidableEq, Repr

namespace Answer

def exitCode : Answer → Nat
  | shown _ => 0
  | failed _ => 1
  | refused _ => 2

def outputText : Answer → String
  | shown events => ReportEvent.outputText events
  | _ => ""

/-- Behind the log, if there is one. -/
def errorText : Answer → String
  | shown events => ReportEvent.errorText events
  | failed failure => "Error: " ++ failure.message ++ "\n"
  | refused error => "error: " ++ error.message ++ "\n"

def code? : Answer → Option String
  | failed failure => failure.code?
  | _ => none

def lines (texts : List String) : Answer :=
  shown (texts.map .verbatim)

end Answer

namespace ConfigArguments

/-- The configuration file, and its options after the overrides. -/
def load (texts : Texts) (arguments : ConfigArguments) :
    Except ConfigError (ConfigFile × RawOptions) := do
  let file ← texts.config arguments.config
  return (file, ← file.options.applyOverrides arguments.overrides)

/-- The schema is looked at before the output location. -/
def generationInput (texts : Texts) (arguments : ConfigArguments) (isDryRun : Bool) :
    Except ConfigError GenerationInput := do
  let (file, raw) ← arguments.load texts
  let schema ← texts.schema (← file.schemaOr arguments.schema)
  return ⟨raw, ← file.outputOr arguments.output, schema, isDryRun⟩

def check (env : Environment) (texts : Texts) (arguments : ConfigArguments) :
    Except ConfigError CheckReport := do
  let (file, raw) ← arguments.load texts
  file.check env texts raw arguments.output arguments.schema

end ConfigArguments

namespace Command

def configArguments? : Command → Option ConfigArguments
  | generate arguments _ => some arguments
  | check arguments => some arguments
  | completions _ => none

/-- The files that the command reads, as far as the texts of the first ones tell. -/
def files (texts : Texts) (command : Command) : List Path :=
  match command.configArguments? with
  | none => []
  | some arguments =>
    arguments.config ::
      match (do (← texts.config arguments.config).schemaOr arguments.schema) with
      | .ok schema => [schema]
      | .error _ => []

/-- The environment variables that the command reads. -/
def variableNames (texts : Texts) (command : Command) : List String :=
  match command.configArguments? with
  | none => []
  | some arguments =>
    match (do (← texts.config arguments.config).outputOr arguments.output) with
    | .ok output =>
      match OutputLocation.ofText? output with
      | some (.variable name) => [name]
      | _ => []
    | .error _ => []

end Command

section

variable {m : Type → Type} [Monad m]

def generate (pipeline : Pipeline m) (env : Environment) (texts : Texts) (schedule : List Nat)
    (arguments : ConfigArguments) (isDryRun : Bool) :
    m (Logged (Except Failure GenerationSummary)) := do
  match arguments.generationInput texts isDryRun with
  | .error error => return ⟨[], .error (.config error)⟩
  | .ok input =>
    match ← pipeline.generate env schedule input with
    | .error error => return ⟨input.log env, .error (.ofGeneration error)⟩
    | .ok summary => return ⟨input.log env, .ok summary⟩

/-- The check says in its report what the generation logs. -/
def Command.run (pipeline : Pipeline m) (env : Environment) (texts : Texts)
    (schedule : List Nat) : Command → m (Logged Answer)
  | .generate arguments isDryRun => do
    match ← CommandLine.generate pipeline env texts schedule arguments isDryRun with
    | ⟨log, .ok summary⟩ => return ⟨log, .shown summary.events⟩
    | ⟨log, .error failure⟩ => return ⟨log, .failed failure⟩
  | .check arguments =>
    pure <| match arguments.check env texts with
      | .ok report => ⟨[], .shown report.events⟩
      | .error error => ⟨[], .failed (.config error)⟩
  | .completions shell => pure ⟨[], .lines [completionScript shell]⟩

def Stop.answer : Stop → Answer
  | .help command => .lines (helpLines command)
  | .version => .lines [programName]
  | .wrong error => .refused error

/-- Runs the program on its arguments. `texts` are the files as they are at the start. -/
def run (pipeline : Pipeline m) (env : Environment) (texts : Texts) (schedule : List Nat)
    (arguments : List String) : m (Logged Answer) :=
  match parse arguments with
  | .ok command => command.run pipeline env texts schedule
  | .error stop => pure ⟨[], stop.answer⟩

end

end DtoGen.CommandLine

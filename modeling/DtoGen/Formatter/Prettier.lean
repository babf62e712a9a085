import DtoGen.Formatter
import DtoGen.Machine.Entry
import DtoGen.Machine.Invocation
import DtoGen.Text.Utf8

namespace DtoGen

inductive EntryKind
  | directory
  | file
  | other
deriving DecidableEq, Repr

/-- What the formatter needs of its surroundings. -/
structure Host (m : Type → Type) where
  kind? : Path → m (Option EntryKind)
  /-- Nothing comes back from a program that cannot be started. -/
  run : Invocation → m (Option ProgramResult)

namespace Host

def kindOf : Entry → EntryKind
  | .directory => .directory
  | .file _ _ | .program _ => .file
  | .device _ | .link _ => .other

end Host

namespace ExitStatus

def describe : ExitStatus → String
  | code n => "exit status: " ++ toString n
  | signal n =>
    "signal: " ++ toString n ++
      match Signal.name? n with
      | some name => " (SIG" ++ name ++ ")"
      | none => ""

def isSuccess (status : ExitStatus) : Bool :=
  status == code 0

end ExitStatus

namespace Prettier

def defaultProgram : String :=
  "prettier"

/-- The environment variable that names another program. -/
def programVariable : String :=
  "NESTDTO_PRETTIER"

def configNames : List String :=
  [".prettierrc", "prettier.config."]

def isConfigName (name : String) : Bool :=
  configNames.any fun start => start.toList.isPrefixOf name.toList

def isConfig (path : Path) : Bool :=
  path.fileName?.any isConfigName

/-- Where the program is started to search for the configuration of a file. -/
def directoryOf (path : Path) : Path :=
  match path.parent? with
  | some parent => if parent.text = "" then ⟨"."⟩ else parent
  | none => ⟨"."⟩

def failedToRun (program : String) : String :=
  "failed to run " ++ program

def searchIn (program : String) (directory : Path) : Invocation :=
  ⟨program, ["--find-config-path", "index.ts"], some directory, ByteArray.empty⟩

/-- The configuration that a search in the directory has printed. -/
def found (directory : Path) (result : ProgramResult) : Option Path :=
  let text := Text.trimmed (Text.decode result.output)
  if result.status.isSuccess && text != "" then some (directory / ⟨text⟩) else none

variable {m : Type → Type} [Monad m]

def search (host : Host m) (program : String) (directory : Path) :
    m (Except String (Option Path)) := do
  match ← host.run (searchIn program directory) with
  | none => return .error (failedToRun program)
  | some result => return .ok (found directory result)

def resolveConfig (host : Host m) (program : String) (path : Path) :
    m (Except String (Option Path)) := do
  match ← host.kind? path with
  | none => return .error ("cannot access '" ++ path.text ++ "'")
  | some .directory | some .other => search host program path
  | some .file =>
    if isConfig path then return .ok (some path) else search host program (directoryOf path)

def configArguments (config : Option Path) : List String :=
  match config with
  | some config => ["--config", config.text]
  | none => []

def formatting (program source : String) (path : Path) (config : Option Path) : Invocation :=
  ⟨program, ["--stdin-filepath", path.text] ++ configArguments config, none, source.toUTF8⟩

/-- The text that the program has written, if it ended well. -/
def formatted (result : ProgramResult) : Except String String :=
  if !result.status.isSuccess then
    .error ("prettier exited with " ++ result.status.describe ++ ": "
      ++ Text.trimmed (Text.decode result.errors))
  else match String.fromUTF8? result.output with
    | some text => .ok text
    | none => .error "prettier produced invalid UTF-8"

def format (host : Host m) (program source : String) (path : Path) (config : Option Path) :
    m (Except String String) := do
  match ← host.run (formatting program source path config) with
  | none => return .error (failedToRun program)
  | some result => return formatted result

end Prettier

def Formatter.prettier {m : Type → Type} [Monad m] (host : Host m) (program : String) :
    Formatter m where
  resolveConfig := Prettier.resolveConfig host program
  format := Prettier.format host program

end DtoGen

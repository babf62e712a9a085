import DtoGen.CommandLine.Run
import DtoGen.Formatter.Prettier

namespace DtoGen.Main

def succeeds (action : IO Unit) : IO Bool := do
  try
    action
    return true
  catch _ => return false

def readText? (path : Path) : IO (Option String) := do
  try return some (← IO.FS.readFile path.text)
  catch _ => return none

def textsOf (known : List (Path × String)) : Texts :=
  fun path => known.lookup path

def gather (paths : List Path) : IO (List (Path × String)) := do
  let found ← paths.mapM fun path => do
    return (← readText? path).map fun text => (path, text)
  return found.filterMap id

/-- The configuration file first, then the files that it names. -/
def gatherTexts (command : CommandLine.Command) : IO Texts := do
  let known ← gather (command.files fun _ => none)
  return textsOf (known ++ (← gather (command.files (textsOf known))))

def gatherVariables (names : List String) : IO Environment := do
  let found ← names.mapM fun name => do
    return (← IO.getEnv name).map fun value => (name, value)
  return .ofEntries (found.filterMap id)

def kind? (path : Path) : IO (Option EntryKind) := do
  if ← succeeds (discard (IO.FS.readBinFile path.text)) then return some .file
  else if ← succeeds (discard (IO.FS.realPath path.text)) then return some .directory
  else return none

def host : Host IO where
  kind? := kind?
  run _ := pure none

def disk : Disk IO where
  createDirectories path := succeeds (IO.FS.createDirAll path.text)
  write path content := succeeds (IO.FS.writeFile path.text content)

def workingDirectory : IO (Except String Path) := do
  try return .ok ⟨toString (← IO.currentDir)⟩
  catch error => return .error (toString error)

def pipeline (env : Environment) : Pipeline IO where
  synthesizer := .dto
  formatter := .prettier host ((env Prettier.programVariable).getD Prettier.defaultProgram)
  disk := disk
  workingDirectory := workingDirectory

def answer (arguments : List String) : IO (Logged CommandLine.Answer) := do
  match CommandLine.parse arguments with
  | .error stop => return ⟨[], stop.answer⟩
  | .ok command =>
    let texts ← gatherTexts command
    let env ← gatherVariables (Prettier.programVariable :: command.variableNames texts)
    command.run (pipeline env) env texts []

/-- A line without its time. -/
def logText (line : LogLine) : String :=
  let fields := line.fields.map fun (name, value) => " " ++ name ++ "=" ++ value
  "WARN " ++ line.message ++ String.join fields ++ "\n"

end DtoGen.Main

def main (arguments : List String) : IO UInt32 := do
  let ⟨log, answer⟩ ← DtoGen.Main.answer arguments
  (← IO.getStderr).putStr (String.join (log.map DtoGen.Main.logText))
  (← IO.getStdout).putStr answer.outputText
  (← IO.getStderr).putStr answer.errorText
  return answer.exitCode.toUInt32

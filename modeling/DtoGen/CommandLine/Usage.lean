import DtoGen.CommandLine.Option

namespace DtoGen.CommandLine

def programName : String :=
  "nestdto"

namespace CommandName

def summary : CommandName → String
  | generate => "Generate DTO and entity files from the schema"
  | check => "Validate nestdto.toml and the schema without generating code"
  | completions => "Generate shell completions"

end CommandName

namespace OptionName

def summary : OptionName → String
  | config => "Path to nestdto.toml"
  | set => "Override a generator option (repeatable)"
  | schema => "Schema file (overrides `schema` in nestdto.toml)"
  | output => "Output directory (overrides `output` in nestdto.toml)"
  | dryRun => "Preview generated code without writing to disk"
  | verbose => "Increase log verbosity (-v, -vv)"
  | help => "Print help"
  | version => "Print version"

def spelling (option : OptionName) : String :=
  (match option.short? with
    | some c => String.ofList ['-', c, ',', ' ']
    | none => "") ++ "--" ++ option.long ++ (if option.takesValue then " <VALUE>" else "")

end OptionName

def usageLine : Option CommandName → String
  | none => "Usage: " ++ programName ++ " [OPTIONS] <COMMAND>"
  | some .completions => "Usage: " ++ programName ++ " completions [OPTIONS] <SHELL>"
  | some command => "Usage: " ++ programName ++ " " ++ command.text ++ " [OPTIONS]"

def commandLines : List String :=
  ["Commands:"] ++ CommandName.all.map (fun c => "  " ++ c.text ++ "  " ++ c.summary) ++ [""]

def helpLines (command : Option CommandName) : List String :=
  [usageLine command, ""]
    ++ (if command.isNone then commandLines else [])
    ++ ["Options:"]
    ++ (OptionName.available command).map fun o => "  " ++ o.spelling ++ "  " ++ o.summary

def completedWords : List String :=
  CommandName.all.map CommandName.text ++ ["help"]

/-- The script that makes a shell complete the commands. -/
def completionScript : CompletionShell → String
  | .bash => "complete -W '" ++ " ".intercalate completedWords ++ "' " ++ programName
  | .zsh => "compctl -k '(" ++ " ".intercalate completedWords ++ ")' " ++ programName
  | .fish => "complete -c " ++ programName ++ " -f -a '" ++ " ".intercalate completedWords ++ "'"
  | .elvish =>
    "set edit:completion:arg-completer[" ++ programName ++ "] = \x7b|@words| put "
      ++ " ".intercalate completedWords ++ " \x7d"
  | .powershell =>
    "Register-ArgumentCompleter -Native -CommandName " ++ programName ++ " -ScriptBlock \x7b '"
      ++ "', '".intercalate completedWords ++ "' \x7d"

end DtoGen.CommandLine

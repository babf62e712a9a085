import DtoGen.CommandLine.Option
import DtoGen.Config.File

namespace DtoGen.CommandLine

inductive UsageError
  | unknownArgument (text : String)
  | unknownCommand (text : String)
  | missingValue (name : OptionName)
  | emptyValue (name : OptionName)
  | unexpectedValue (name : OptionName)
  | repeatedOption (name : OptionName)
  | badShell (text : String)
  | missingShell
  | missingCommand
deriving DecidableEq, Repr

namespace UsageError

def message : UsageError → String
  | unknownArgument text => "unexpected argument '" ++ text ++ "' found"
  | unknownCommand text => "unrecognized subcommand '" ++ text ++ "'"
  | missingValue name | emptyValue name =>
    "a value is required for '--" ++ name.long ++ "' but none was supplied"
  | unexpectedValue name => "unexpected value for '--" ++ name.long ++ "' found"
  | repeatedOption name => "the argument '--" ++ name.long ++ "' cannot be used multiple times"
  | badShell text => "invalid value '" ++ text ++ "' for '<SHELL>'"
  | missingShell => "the following required arguments were not provided: <SHELL>"
  | missingCommand => "a subcommand is required but one was not provided"

end UsageError

/-- Why no command is to be run. -/
inductive Stop
  | help (command : Option CommandName)
  | version
  | wrong (error : UsageError)
deriving DecidableEq, Repr

/-- What has been read so far. -/
structure Reading where
  command : Option CommandName
  /-- The option that waits for its value. -/
  waiting : Option OptionName
  options : List (OptionName × String)
  shell : Option CompletionShell
  /-- After a lone double dash nothing is an option. -/
  isTrailing : Bool
deriving DecidableEq, Repr

namespace Reading

abbrev Step := Except Stop Reading

def start : Reading :=
  ⟨none, none, [], none, false⟩

def wrong (error : UsageError) : Step :=
  .error (.wrong error)

def values (r : Reading) (name : OptionName) : List String :=
  (r.options.filter (·.1 == name)).map (·.2)

/-- Takes in an option. A flag comes with the empty text. -/
def take (r : Reading) (name : OptionName) (value : String) : Step :=
  match name with
  | .help => .error (.help r.command)
  | .version => .error .version
  | _ =>
    if name.needsText && value == "" then wrong (.emptyValue name)
    else if !name.isRepeatable && !(r.values name).isEmpty then wrong (.repeatedOption name)
    else .ok { r with options := r.options ++ [(name, value)], waiting := none }

def option? (r : Reading) (fits : OptionName → Bool) : Option OptionName :=
  (OptionName.available r.command).find? fits

/-- Reads `--name` or `--name=value`, without the dashes. -/
def long (r : Reading) (cs : List Char) : Step :=
  let name := String.ofList (cs.takeWhile (· != '='))
  match r.option? (·.long == name), cs.dropWhile (· != '=') with
  | none, _ => wrong (.unknownArgument ("--" ++ name))
  | some option, [] =>
    if option.takesValue then .ok { r with waiting := some option } else r.take option ""
  | some option, _ :: value =>
    if option.takesValue then r.take option (String.ofList value)
    else wrong (.unexpectedValue option)

/-- Reads a run of short options, without the dash. The first that takes a value takes the rest. -/
def short (r : Reading) : List Char → Step
  | [] => .ok r
  | c :: cs =>
    match r.option? (·.short? == some c) with
    | none => wrong (.unknownArgument (String.ofList ['-', c]))
    | some option =>
      if option.takesValue then
        match cs with
        | [] => .ok { r with waiting := some option }
        | '=' :: value => r.take option (String.ofList value)
        | value => r.take option (String.ofList value)
      else do
        let r ← r.take option ""
        r.short cs

/-- Reads an argument that is no option: a command, or a shell. -/
def plain (r : Reading) (text : String) : Step :=
  match r.command with
  | none =>
    match CommandName.ofText? text with
    | some command =>
      if r.isTrailing then wrong (.unknownArgument text) else .ok { r with command := some command }
    | none => wrong (.unknownCommand text)
  | some .completions =>
    match r.shell, CompletionShell.ofText? text with
    | some _, _ => wrong (.unknownArgument text)
    | none, some shell => .ok { r with shell := some shell }
    | none, none => wrong (.badShell text)
  | some _ => wrong (.unknownArgument text)

def isOption (text : String) : Bool :=
  match text.toList with
  | ['-'] => false
  | '-' :: _ => true
  | _ => false

/-- Reads one argument. -/
def next (r : Reading) (text : String) : Step :=
  match r.waiting with
  | some option => if isOption text then wrong (.missingValue option) else r.take option text
  | none =>
    if r.isTrailing || !isOption text then r.plain text
    else match text.toList with
      | ['-', '-'] => .ok { r with isTrailing := true }
      | '-' :: '-' :: cs => r.long cs
      | cs => r.short (cs.drop 1)

/-- Reads what follows the word `help`: at most one command. -/
def helpOn : List String → Stop
  | [] => .help none
  | [text] =>
    match CommandName.ofText? text with
    | some command => .help (some command)
    | none => if text = "help" then .help none else .wrong (.unknownCommand text)
  | text :: other :: _ =>
    .wrong (.unknownCommand (if (CommandName.ofText? text).isSome then other else text))

def asksForHelp (r : Reading) (text : String) : Bool :=
  r.command.isNone && r.waiting.isNone && !r.isTrailing && text == "help"

def all (r : Reading) : List String → Step
  | [] => .ok r
  | text :: rest => if r.asksForHelp text then .error (helpOn rest) else do (← r.next text).all rest

end Reading

/-- What `generate` and `check` are told. -/
structure ConfigArguments where
  config : Path
  overrides : List String
  schema : Option Path
  output : Option String
deriving DecidableEq, Repr

inductive Command
  | generate (arguments : ConfigArguments) (isDryRun : Bool)
  | check (arguments : ConfigArguments)
  | completions (shell : CompletionShell)
deriving DecidableEq, Repr

namespace Reading

def configArguments (r : Reading) : ConfigArguments where
  config := ((r.values .config).head?.map Path.mk).getD ConfigFile.defaultPath
  overrides := r.values .set
  schema := (r.values .schema).head?.map Path.mk
  output := (r.values .output).head?

def command? (r : Reading) : Except Stop Command :=
  match r.waiting, r.command, r.shell with
  | some option, _, _ => .error (.wrong (.missingValue option))
  | none, none, _ => .error (.wrong .missingCommand)
  | none, some .generate, _ =>
    .ok (.generate r.configArguments !(r.values .dryRun).isEmpty)
  | none, some .check, _ => .ok (.check r.configArguments)
  | none, some .completions, some shell => .ok (.completions shell)
  | none, some .completions, none => .error (.wrong .missingShell)

end Reading

/-- The command that the arguments ask for. -/
def parse (arguments : List String) : Except Stop Command := do
  (← Reading.start.all arguments).command?

end DtoGen.CommandLine

namespace DtoGen.CommandLine

inductive CommandName
  | generate
  | check
  | completions
deriving DecidableEq, Repr

namespace CommandName

def all : List CommandName :=
  [generate, check, completions]

def text : CommandName → String
  | generate => "generate"
  | check => "check"
  | completions => "completions"

def ofText? (s : String) : Option CommandName :=
  all.find? (·.text == s)

end CommandName

inductive OptionName
  | config
  | set
  | schema
  | output
  | dryRun
  | verbose
  | help
  | version
deriving DecidableEq, Repr

namespace OptionName

def all : List OptionName :=
  [config, set, schema, output, dryRun, verbose, help, version]

def long : OptionName → String
  | config => "config"
  | set => "set"
  | schema => "schema"
  | output => "output"
  | dryRun => "dry-run"
  | verbose => "verbose"
  | help => "help"
  | version => "version"

def short? : OptionName → Option Char
  | config => some 'c'
  | set => none
  | schema => some 's'
  | output => some 'o'
  | dryRun => none
  | verbose => some 'v'
  | help => some 'h'
  | version => some 'V'

def takesValue : OptionName → Bool
  | config | set | schema | output => true
  | dryRun | verbose | help | version => false

def isRepeatable : OptionName → Bool
  | set | verbose => true
  | _ => false

/-- Options whose value is a path must not be empty. -/
def needsText : OptionName → Bool
  | config | schema => true
  | _ => false

/-- The options that are known behind a command, or in front of any. -/
def available : Option CommandName → List OptionName
  | none => [verbose, help, version]
  | some .generate => [config, set, schema, output, dryRun, verbose, help]
  | some .check => [config, set, schema, output, verbose, help]
  | some .completions => [verbose, help]

end OptionName

inductive CompletionShell
  | bash
  | elvish
  | fish
  | powershell
  | zsh
deriving DecidableEq, Repr

namespace CompletionShell

def all : List CompletionShell :=
  [bash, elvish, fish, powershell, zsh]

def text : CompletionShell → String
  | bash => "bash"
  | elvish => "elvish"
  | fish => "fish"
  | powershell => "powershell"
  | zsh => "zsh"

def ofText? (s : String) : Option CompletionShell :=
  all.find? (·.text == s)

end CompletionShell

end DtoGen.CommandLine

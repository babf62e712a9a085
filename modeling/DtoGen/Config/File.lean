import DtoGen.Options
import DtoGen.Schema.Reader
import DtoGen.Toml.Document
import DtoGen.Toml.Setting

namespace DtoGen

structure ConfigFile where
  path : Path
  content : String
  /-- The output location as written. -/
  output : Option String
  schema : Option Path
  options : RawOptions
deriving DecidableEq, Repr

namespace ConfigFile

def defaultPath : Path :=
  ⟨"nestdto.toml"⟩

def byKey (entries : List (String × Toml)) : List (String × Toml) :=
  entries.mergeSort fun a b => decide (a.1 ≤ b.1)

def generatorKey : String :=
  "generator"

/-- The table in the order of its keys. A date counts as a table with one key. Numbers elsewhere in
the document have to have a value. -/
def generatorTable? (document : List (String × Toml)) : Option (List (String × Toml)) :=
  let others := document.filter fun entry => entry.1 != generatorKey
  if !Toml.entriesAreReadable others then none else
  match document.lookup generatorKey with
  | none => some []
  | some (.table entries) => (Toml.settleEntries? entries).map byKey
  | some (.moment spelling) => some [(Toml.momentKey, .text spelling)]
  | some _ => none

/-- Arrays and tables are no options. -/
def optionsOf (table : List (String × Toml)) : RawOptions :=
  .ofPairs ((table.filter fun entry => !entry.2.isCompound).map fun entry =>
    (entry.1, entry.2.scalarText))

/-- `fileName` is for reports, and places the schema. -/
def parse (content fileName : String) : Except ConfigError ConfigFile :=
  match (Toml.parse content).bind generatorTable? with
  | none => .error (.badConfig fileName)
  | some table => .ok {
      path := ⟨fileName⟩
      content
      output := (table.lookup "output").map Toml.scalarText
      schema := (((table.lookup "schema").map Toml.scalarText).filter (· != "")).map Path.mk
      options := optionsOf table
    }

/-- The schema's path is relative to the directory of the configuration file. -/
def schemaPath? (file : ConfigFile) : Option Path :=
  file.schema.map fun schema => file.path.parentOrEmpty / schema

/-- The output location, the command line's before the file's. -/
def outputOr (file : ConfigFile) (override : Option String) : Except ConfigError String :=
  match override <|> file.output with
  | some output => .ok output
  | none => .error .noOutput

def normalize (env : Environment) (file : ConfigFile) (override : Option String) :
    Except ConfigError Options := do
  Options.normalize env file.options (← file.outputOr override)

/-- Where the schema is read from, the command line's path before the file's. -/
def schemaOr (file : ConfigFile) (override : Option Path) : Except ConfigError Path :=
  match override <|> file.schemaPath? with
  | some path => .ok path
  | none => .error .noSchema

end ConfigFile

/-- The texts that can be read from files. -/
abbrev Texts := Path → Option String

namespace Texts

def read (texts : Texts) (path : Path) : Except ConfigError String :=
  match texts path with
  | some content => .ok content
  | none => .error (.unreadable path)

def config (texts : Texts) (path : Path) : Except ConfigError ConfigFile := do
  ConfigFile.parse (← texts.read path) path.text

def schema (texts : Texts) (path : Path) : Except ConfigError Schema := do
  Schema.parse (← texts.read path) path.text

end Texts

end DtoGen

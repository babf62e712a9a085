import DtoGen.NamingStyle
import DtoGen.Path

namespace DtoGen

inductive ConfigError
  | unreadable (path : Path)
  | badConfig (fileName : String)
  /-- `offset` is the byte that the label of the report points at. -/
  | badSchema (fileName : String) (offset : Option Nat)
  | badNamingStyle (value : String)
  | unsetVariable (name : String)
  | noOutput
  | noSchema
  | badOverride (pair : String)
deriving DecidableEq, Repr

namespace ConfigError

def message : ConfigError → String
  | unreadable path => "failed to read '" ++ path.text ++ "'"
  | badConfig fileName => "failed to parse " ++ fileName
  | badSchema fileName _ => "failed to parse schema " ++ fileName
  | badNamingStyle value =>
    "'" ++ value ++ "' is not a valid file naming style. Valid options are "
      ++ NamingStyle.choices ++ "."
  | unsetVariable name => "environment variable '" ++ name ++ "' is not set"
  | noOutput => "no output directory configured"
  | noSchema => "no schema configured"
  | badOverride pair => "invalid option override '" ++ pair ++ "'"

def code : ConfigError → String
  | unreadable _ => "nestdto::io"
  | badConfig _ => "nestdto::parse_error"
  | badSchema _ _ => "nestdto::schema_parse_error"
  | badNamingStyle _ => "nestdto::invalid_naming_style"
  | unsetVariable _ => "nestdto::missing_env"
  | noOutput => "nestdto::missing_output"
  | noSchema => "nestdto::missing_schema"
  | badOverride _ => "nestdto::invalid_override"

def help? : ConfigError → Option String
  | unreadable _ => none
  | badConfig _ => none
  | badSchema _ _ => some "the schema must be a JSON document with `models` and `enums` arrays"
  | badNamingStyle _ => some ("set `fileNamingStyle` to one of " ++ NamingStyle.choices)
  | unsetVariable name =>
    some ("the output location is read from `env(\"" ++ name
      ++ "\")`; export it or use a literal path")
  | noOutput => some "set `output` in the [generator] table or pass --output"
  | noSchema => some "set `schema` in the [generator] table or pass --schema"
  | badOverride _ => some "overrides use the form key=value"

end ConfigError

end DtoGen

import DtoGen.Config.Error

namespace DtoGen

inductive GenerationError
  | config (error : ConfigError)
  | synthesis (reason : String)
  | formatterConfig (path : Path) (reason : String)
  | format (path : Path) (reason : String)
  | write (path : Path)
deriving DecidableEq, Repr

namespace GenerationError

def message : GenerationError → String
  | config error => error.message
  | synthesis _ => "DTO synthesis failed"
  | formatterConfig path _ =>
    "failed to resolve formatter configuration from '" ++ path.text ++ "'"
  | format path _ => "failed to format '" ++ path.text ++ "'"
  | write path => "failed to write '" ++ path.text ++ "'"

def reason? : GenerationError → Option String
  | config _ => none
  | synthesis reason => some reason
  | formatterConfig _ reason => some reason
  | format _ reason => some reason
  | write _ => none

/-- Whether the configuration is to blame, the formatter's included. -/
def isConfig : GenerationError → Bool
  | config _ => true
  | formatterConfig _ _ => true
  | _ => false

end GenerationError

end DtoGen

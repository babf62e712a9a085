import DtoGen.Config.File
import DtoGen.Report.Check

namespace DtoGen

namespace ConfigFile

/-- `raw` are the options of the file after the overrides of the command line. -/
def check (env : Environment) (texts : Texts) (file : ConfigFile) (raw : RawOptions)
    (output : Option String) (schema : Option Path) : Except ConfigError CheckReport := do
  let options ← Options.normalize env raw (← file.outputOr output)
  let schema ← texts.schema (← file.schemaOr schema)
  return {
    configPath := file.path
    unknownKeys := raw.unknownKeys
    models := schema.models.length
    enums := schema.enums.length
    options
  }

end ConfigFile

end DtoGen

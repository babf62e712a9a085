import DtoGen.Options
import DtoGen.Report.Event

namespace DtoGen

structure CheckReport where
  configPath : Path
  unknownKeys : List String
  models : Nat
  enums : Nat
  options : Options
deriving DecidableEq, Repr

namespace CheckReport

def warningEvents (keys : List String) : List ReportEvent :=
  if keys.isEmpty then []
  else keys.map (fun key => .warning (unknownOptionWarning key)) ++ [.blankLine]

def optionEntries (options : Options) : List (String × String) :=
  [ ("output", options.output.text),
    ("fileNamingStyle", options.fileNamingStyle.name),
    ("connectDtoPrefix", options.connectDtoPrefix),
    ("createDtoPrefix", options.createDtoPrefix),
    ("updateDtoPrefix", options.updateDtoPrefix),
    ("dtoSuffix", options.dtoSuffix),
    ("entityPrefix", options.entityPrefix),
    ("entitySuffix", options.entitySuffix),
    ("exportRelationModifierClasses", toString options.exportRelationModifierClasses),
    ("outputToNestJsResourceStructure", toString options.outputToNestJsResourceStructure),
    ("entitiesOnly", toString options.entitiesOnly),
    ("usePrettier", toString options.usePrettier),
    ("prettierConfig",
      (options.prettierConfig.map Path.text).getD "(search from working directory)"),
    ("reExport", toString options.reExport) ]

def events (report : CheckReport) : List ReportEvent :=
  warningEvents report.unknownKeys
    ++ [ .verbatim ("✓ " ++ report.configPath.text ++ " is valid"),
         .blankLine,
         .entry "Schema"
           (toString report.models ++ " models, " ++ toString report.enums ++ " enums"),
         .blankLine,
         .title "Options" ]
    ++ (optionEntries report.options).map fun (key, value) => .indentedEntry key value

end CheckReport

end DtoGen

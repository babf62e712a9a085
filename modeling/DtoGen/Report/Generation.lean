import DtoGen.Generation.Pipeline
import DtoGen.Report.Event

namespace DtoGen

inductive GenerationResult
  | written (report : GenerationReport)
  | preview (files : List FileSpec)
deriving DecidableEq, Repr

structure GenerationSummary where
  output : Path
  warnings : List String
  result : GenerationResult
deriving DecidableEq, Repr

namespace GenerationSummary

def shown (output path : Path) : String :=
  ((path.below? output).getD path).text

def formattingText (report : GenerationReport) : String :=
  match report.formatterConfig with
  | some config => "prettier (" ++ config.text ++ ")"
  | none => if report.isFormatted then "prettier (default options)" else "disabled"

def writtenEvents (output : Path) (report : GenerationReport) : List ReportEvent :=
  [.title ("Generated " ++ toString report.total ++ " files in " ++ output.text)]
    ++ report.written.map (fun path => .addedItem (shown output path))
    ++ [.blankLine, .entry "DTO files" (toString report.synthesized)]
    ++ (if report.barrels = 0 then [] else [.entry "Barrels" (toString report.barrels)])
    ++ [.entry "Formatting" (formattingText report)]

def previewEvents (output : Path) (files : List FileSpec) : List ReportEvent :=
  files.flatMap (fun file => [.divider (shown output file.path), .verbatim file.content])
    ++ [ .divider "Summary",
         .verbatim (toString files.length ++ " files would be generated in " ++ output.text) ]

def events (summary : GenerationSummary) : List ReportEvent :=
  summary.warnings.map .warning ++
    match summary.result with
    | .written report => writtenEvents summary.output report
    | .preview files => previewEvents summary.output files

end GenerationSummary

end DtoGen

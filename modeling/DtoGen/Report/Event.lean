namespace DtoGen

inductive ReportEvent
  | title (name : String)
  | entry (key value : String)
  | indentedEntry (key value : String)
  | addedItem (text : String)
  | warning (text : String)
  | divider (label : String)
  | verbatim (text : String)
  | blankLine
deriving DecidableEq, Repr

namespace ReportEvent

/-- The line on the standard output, without its line end. -/
def outputLine? : ReportEvent → Option String
  | title name => some (name ++ ":")
  | entry key value => some (key ++ ": " ++ value)
  | indentedEntry key value => some ("  " ++ key ++ ": " ++ value)
  | addedItem text => some ("  + " ++ text)
  | warning _ => none
  | divider label => some ("── " ++ label ++ " ──")
  | verbatim text => some text
  | blankLine => some ""

def errorLine? : ReportEvent → Option String
  | warning text => some ("warning: " ++ text)
  | _ => none

def unlines (lines : List String) : String :=
  String.join (lines.map (· ++ "\n"))

def outputText (events : List ReportEvent) : String :=
  unlines (events.filterMap outputLine?)

def errorText (events : List ReportEvent) : String :=
  unlines (events.filterMap errorLine?)

end ReportEvent

/-- What is said about an option key that means nothing. -/
def unknownOptionWarning (key : String) : String :=
  "unknown generator option '" ++ key ++ "' is ignored"

end DtoGen

import DtoGen.Proofs.BarrelLinks
import DtoGen.Proofs.Preview
import DtoGen.Proofs.SettledConfiguration

namespace DtoGen.CommandLine

open ConfigFile

def warning? : ReportEvent → Option String
  | .warning text => some text
  | _ => none

namespace Answer

/-- What the user is warned of. -/
def warnings : Answer → List String
  | shown events => events.filterMap warning?
  | _ => []

end Answer

section

variable {m : Type → Type} [Monad m] {env : Environment} {texts : Texts}
  {arguments : ConfigArguments}

/-- What a generation logs of a configuration that is settled. -/
def Settled.log (settled : Settled env texts arguments) : List LogLine :=
  settled.raw.unknownKeys.map .ignoredOption

end

section

variable {σ : Type} {env : Environment} {texts : Texts} {arguments : ConfigArguments}

end

end DtoGen.CommandLine

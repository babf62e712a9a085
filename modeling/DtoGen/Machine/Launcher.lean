import DtoGen.Machine.Program
import DtoGen.Machine.Tool.Options

namespace DtoGen

namespace Shell

/-- Starts a program by its name and its arguments. -/
abbrev Starter := String → List String → Shell → Except LaunchFault (ExitStatus × Shell)

abbrev Launcher := Starter → List String → Shell → ExitStatus × Shell

end Shell

namespace LaunchFault

/-- Why the system does not start a program. -/
def reason : LaunchFault → String
  | .missing | .noReader => "No such file or directory"
  | .blocked => "Not a directory"
  | _ => "Permission denied"

/-- The status of a tool that cannot start its program. -/
def status : LaunchFault → Nat
  | .missing | .noReader => 127
  | _ => 126

end LaunchFault

namespace ExitStatus

/-- The status as one number, where signals count from 128 on. -/
def number : ExitStatus → Nat
  | .code n => n
  | .signal n => 128 + n

end ExitStatus

namespace Tool

/-- How a tool has ended that has started nothing. -/
def settled (shell : Shell) : ExitStatus × Shell :=
  (.code shell.status, shell)

/-- Hands over to a program. The text tells what could not be done. -/
def handOver (front : String) (start : Shell.Starter) (program : String) (arguments : List String)
    (shell : Shell) : ExitStatus × Shell :=
  match start program arguments shell with
  | .ok result => result
  | .error fault =>
    settled (fail (front ++ quoted program ++ ": " ++ fault.reason) fault.status shell)

end Tool

end DtoGen

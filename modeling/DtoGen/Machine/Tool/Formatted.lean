import DtoGen.Machine.Builtin.Printf
import DtoGen.Machine.Tool.Options

namespace DtoGen.Tool

def printfMessage : Builtin.PrintfFault → String
  | .badNumber text true => quoted text ++ ": value not completely converted"
  | .badNumber text false => quoted text ++ ": expected a numeric value"
  | .outOfRange text => quoted text ++ ": Numerical result out of range"
  | .missingHexDigit => "missing hexadecimal number in escape"
  | .missingLetter spelling =>
    "%" ++ String.ofList spelling ++ ": invalid conversion specification"
  | .badLetter spelling letter =>
    "%" ++ String.ofList (spelling ++ [letter]) ++ ": invalid conversion specification"

def printf : Shell.Command := fun arguments shell =>
  match if arguments.head? = some "--" then arguments.drop 1 else arguments with
  | [] => misuse "missing operand" 1 shell
  | format :: rest =>
    let p := Builtin.formatAll format (rest.length + 1) (.start .extended rest)
    let shell := p.faults.foldl (fun shell fault => fail (printfMessage fault) 1 shell)
      (shell.finish p.status)
    let excess := if p.ends || p.hasTaken then none else p.arguments.head?
    let shell :=
      match excess with
      | some text =>
        shell.warn (shell.name ++ ": warning: ignoring excess arguments, starting with "
          ++ quoted text)
      | none => shell
    shell.write p.output

end DtoGen.Tool

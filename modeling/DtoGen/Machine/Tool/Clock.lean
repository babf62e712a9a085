import DtoGen.Decimal.Numeral
import DtoGen.Machine.Calendar.Reading
import DtoGen.Machine.Tool.Input

namespace DtoGen.Tool

/-- The time when everything starts. -/
def startStamp : Int := 1735689600

def presentStamp (shell : Shell) : Int :=
  startStamp + (shell.clock / 1000 : Nat)

def invalidDate (text : String) (shell : Shell) : Shell :=
  fail ("invalid date " ++ quoted text) 1 shell

def dateFormat (a : Arguments) : Except String (Option String) :=
  match a.value? "I", a.value? "rfc-3339" with
  | some precision, _ =>
    match precision with
    | "" | "date" => .ok (some "%Y-%m-%d")
    | "hours" => .ok (some "%Y-%m-%dT%H%:z")
    | "minutes" => .ok (some "%Y-%m-%dT%H:%M%:z")
    | "seconds" => .ok (some "%Y-%m-%dT%H:%M:%S%:z")
    | "ns" => .ok (some "%Y-%m-%dT%H:%M:%S,%N%:z")
    | _ => .error ("invalid argument " ++ quoted precision ++ " for '--iso-8601'")
  | none, some precision =>
    match precision with
    | "date" => .ok (some "%Y-%m-%d")
    | "seconds" => .ok (some "%Y-%m-%d %H:%M:%S%:z")
    | "ns" => .ok (some "%Y-%m-%d %H:%M:%S.%N%:z")
    | _ => .error ("invalid argument " ++ quoted precision ++ " for '--rfc-3339'")
  | none, none => .ok (if a.has "R" then some "%a, %d %b %Y %H:%M:%S %z" else none)

def date : Shell.Command :=
  withArguments (grammar ["d|date=", "u|utc|universal", "I|iso-8601?", "R|rfc-email|rfc-2822",
      "rfc-3339=", "r|reference=", "f|file=", "s|set=", "debug"]) 1 fun a shell =>
    let shown (stamp : Int) (format : String) (shell : Shell) : Shell :=
      shell.say (Calendar.format format (Calendar.ofStamp stamp) ++ "\n")
    let formats := a.operands.filter fun text => text.toList.head? == some '+'
    match dateFormat a, a.operands, formats with
    | .error message, _, _ => misuse message 1 shell
    | .ok _, [operand], [] => invalidDate operand shell
    | .ok _, _ :: extra :: _, _ => extraOperand extra shell
    | .ok _, [], _ :: _ => shell
    | .ok named, _, formats =>
      let own := formats.head?.map fun text => (text.drop 1).toString
      let format := (own.or named).getD "%a %b %e %H:%M:%S %Z %Y"
      match a.value? "d", a.value? "r" with
      | some text, _ =>
        match Calendar.stamp? (presentStamp shell) text with
        | some stamp => shown stamp format shell
        | none => invalidDate text shell
      | none, some path =>
        if (shell.tree.find? ⟨path⟩).isSome then shown (presentStamp shell) format shell
        else fail (becauseOf path (shell.tree.absence ⟨path⟩)) 1 shell
      | none, none => shown (presentStamp shell) format shell

/-- How many milliseconds a text such as `1.5m` means. -/
def interval? (text : String) : Option Nat :=
  let units : List (Char × Nat) := [('s', 1), ('m', 60), ('h', 3600), ('d', 86400)]
  match Numeral.read? text.toList with
  | some (.finite false n d, rest) =>
    match rest with
    | [] => some (n * 1000 / d)
    | [unit] => (units.lookup unit).map fun factor => n * factor * 1000 / d
    | _ => none
  | some (.infinite false, []) => some 1000000000
  | _ => none

def sleep : Shell.Command :=
  withArguments (grammar []) 1 fun a shell =>
    if a.operands.isEmpty then misuse "missing operand" 1 shell
    else
      let wrong := a.operands.filter fun text => (interval? text).isNone
      let told := wrong.foldl
        (fun shell text => fail ("invalid time interval " ++ quoted text) 1 shell) shell
      if wrong.isEmpty then
        let total := (a.operands.filterMap interval?).foldl (· + ·) 0
        shell.pass total
      else told.warn (hint shell)

end DtoGen.Tool

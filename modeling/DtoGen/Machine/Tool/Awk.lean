import DtoGen.Machine.Awk.Evaluation
import DtoGen.Machine.Awk.Parser

namespace DtoGen.Tool

/-- What the options in front of a program say. -/
structure AwkWish where
  /-- Variables with their values, before the program runs. -/
  assignments : List String
  /-- Files that hold the program. -/
  sources : List String
  operands : List String

/-- Reads the options. The first argument bounds their number; the message of a fault comes alone. -/
def awkWish : Nat → AwkWish → List String → Except String AwkWish
  | 0, wish, rest => .ok { wish with operands := rest }
  | _, wish, [] => .ok wish
  | bound + 1, wish, first :: rest =>
    let valued (letter : Char) (attached : List Char) (use : String → AwkWish) :=
      match attached, rest with
      | [], value :: rest => awkWish bound (use value) rest
      | [], [] => .error ("option -" ++ String.singleton letter ++ " lacks argument")
      | cs, rest => awkWish bound (use (String.ofList cs)) rest
    match first.toList with
    | ['-', '-'] => .ok { wish with operands := rest }
    | ['-'] => .ok { wish with operands := first :: rest }
    | '-' :: 'F' :: cs =>
      valued 'F' cs fun text => { wish with assignments := wish.assignments ++ ["FS=" ++ text] }
    | '-' :: 'v' :: cs =>
      valued 'v' cs fun text => { wish with assignments := wish.assignments ++ [text] }
    | '-' :: 'f' :: cs =>
      valued 'f' cs fun text => { wish with sources := wish.sources ++ [text] }
    | '-' :: 'W' :: cs => valued 'W' cs fun _ => wish
    | '-' :: _ => .error ("not an option: " ++ first)
    | _ => .ok { wish with operands := first :: rest }

/-- The text of the program, and the operands behind it. -/
def awkSource (wish : AwkWish) (shell : Shell) :
    Except String (String × List String) × Shell :=
  match wish.sources, wish.operands with
  | [], text :: operands => (.ok (text ++ "\n", operands), shell)
  | [], [] => (.ok ("", []), shell)
  | sources, operands =>
    let step (state : Except String String × Shell) (path : String) :=
      match state with
      | (.error message, shell) => (.error message, shell)
      | (.ok text, shell) =>
        let (content, shell) : Except String ByteArray × Shell :=
          if path = "-" then
            let (content, shell) := takeAll 0 shell
            (.ok content, shell)
          else fileContent path shell
        match content with
        | .ok content => (.ok (text ++ Text.decode content), shell)
        | .error reason => (.error ("cannot open " ++ path ++ " (" ++ reason ++ ")"), shell)
    let (text, shell) := sources.foldl step (.ok "", shell)
    (text.map fun text => (text, operands), shell)

/-- A function that is called but not there. -/
def undefinedFunction? (program : Awk.Program) (text : String) : Option String :=
  (Awk.tokensOf text).findSome? fun lexeme =>
    match lexeme.token with
    | .called name => if (program.functions.lookup name).isSome then none else some name
    | _ => none

def awk : Shell.Launcher := fun start arguments shell =>
  let refused (message : String) (shell : Shell) : ExitStatus × Shell :=
    settled (fail message 2 shell)
  match awkWish (arguments.length + 1) ⟨[], [], []⟩ arguments with
  | .error message => refused message shell
  | .ok wish =>
    match awkSource wish shell with
    | (.error message, shell) => refused message shell
    | (.ok (text, operands), shell) =>
      match Awk.parse text with
      | .error fault =>
        refused ("line " ++ toString fault.line ++ ": " ++ fault.message) shell
      | .ok program =>
        let lines := (text.toList.filter (· == '\n')).length + 1
        match undefinedFunction? program text,
            wish.assignments.find? fun text => (Awk.assignment? text).isNone with
        | some name, _ =>
          refused ("line " ++ toString lines ++ ": function " ++ name ++ " never defined") shell
        | none, some text => refused ("improper assignment: -v " ++ text) shell
        | none, none =>
          let state := (wish.assignments.filterMap Awk.assignment?).foldl
            (fun (s : Awk.State) (entry : String × Awk.Value) => s.setValue entry.1 entry.2)
            (Awk.State.start program operands shell)
          let (leave, state) := Awk.runProgram program start state
          match leave with
          | some (.fault lines) =>
            let told := lines.foldl (fun shell line => shell.warn line) state.shell
            (.code 2, (Awk.closeAll start { state with shell := told }).shell)
          | _ => (.code state.status, (Awk.closeAll start state).shell)

end DtoGen.Tool

import DtoGen.Machine.Calling

namespace DtoGen.Shell

open Builtin (Operand)

/-- What stands in front of a command that is shown. One dialect repeats the first character for
every text around the command. -/
def traceFront (run : Runner) (shell : Shell) : String :=
  let front := (shell.valueOf? "PS4").getD ""
  let quiet := { shell with options := shell.options.filter fun c => c != 'x' && c != 'u' }
  let word := Script.textWord shell.manner .document false front
  let text := (textOf (collect run) word quiet).1
  match shell.dialect, text.toList with
  | .extended, c :: cs => String.ofList (List.replicate shell.depth c ++ cs)
  | _, _ => text

def traceText (run : Runner) (text : String) (shell : Shell) : Shell :=
  if shell.hasOption 'x' then shell.warn (traceFront run shell ++ text) else shell

/-- Shows a text as a command, in the one dialect that shows more than simple commands. -/
def traceMore (run : Runner) (text : String) (shell : Shell) : Shell :=
  if shell.isExtended then traceText run text shell else shell

/-- Writes to the standard errors that were there before the redirections of a command. -/
def beside (outputs : List (Nat × Sink)) (body : Shell → Shell) (shell : Shell) : Shell :=
  { body { shell with outputs } with outputs := shell.outputs }

def assignmentFront (assignment : Assignment) : String :=
  let subscript := assignment.subscript.elim "" fun text => "[" ++ text ++ "]"
  assignment.name ++ subscript ++ if assignment.appends then "+=" else "="

/-- Leaves the command line where a variable could not be given a value. -/
def leaveIfReadOnly (name : String) (shell : Shell) : Shell :=
  if shell.isExtended && shell.hasAttribute 'r' name && !shell.isStopped then
    { shell.finish 1 with leap := some .line }
  else shell

/-- Makes one assignment, and tells how it is shown. In front of a command, a variable that keeps
its value is no reason to leave the command line. -/
def assignOne (run : Runner) (isAlone : Bool) (assignment : Assignment) (shell : Shell) :
    String × Shell :=
  let name := assignment.name
  let settleName (shell : Shell) : Shell := if isAlone then leaveIfReadOnly name shell else shell
  let front := assignmentFront assignment
  match assignment.value, assignment.subscript, shell.dialect with
  | [.list text], none, .extended =>
    let (items, shell) := listItems (collect run) text shell
    if shell.isStopped then ("", shell)
    else
      (front ++ "(" ++ text ++ ")",
        settleName (shell.assignList name assignment.appends items))
  | value, subscript, _ =>
    let (text, shell) := valueText (collect run) value shell
    if shell.isStopped then ("", shell)
    else
      let (subscript, shell) :=
        match subscript with
        | none => (none, shell)
        | some subscript =>
          let (text, shell) := innerText (expand (collect run)) subscript shell
          (some text, shell)
      if shell.isStopped then ("", shell)
      else
        let shown := if text = "" then "" else Quoting.ifNeeded text
        (front ++ (if shell.isExtended then shown else text),
          settleName (shell.assignText name subscript assignment.appends text))

/-- Makes assignments, and tells how they are shown together. One dialect shows each at once. -/
def assignAll (run : Runner) (isAlone : Bool) (outputs : List (Nat × Sink))
    (assignments : List Assignment) (shell : Shell) : List String × Shell :=
  assignments.foldl
    (fun (texts, shell) assignment =>
      if shell.isStopped then (texts, shell)
      else
        let (text, shell) := assignOne run isAlone assignment shell
        let shell := if shell.isStopped then shell
          else beside outputs (traceMore run text) shell
        (texts ++ [text], shell))
    ([], shell)

def traceCommand (run : Runner) (outputs : List (Nat × Sink)) (assignments words : List String)
    (shell : Shell) : Shell :=
  let texts :=
    match shell.dialect with
    | .plain => assignments ++ words
    | .extended => words.map Quoting.ifNeeded
  if shell.isExtended && words.isEmpty || texts.isEmpty then shell
  else beside outputs (traceText run (" ".intercalate texts)) shell

/-- Whether the arguments of a command may be assignments. -/
def isDeclaration (dialect : Dialect) (words : List Word) : Bool :=
  let isDeclarator (name : String) : Bool := ((Builtin.declarators dialect).lookup name).isSome
  match words with
  | [.literal name false] :: [.literal second false] :: _ =>
    isDeclarator name || ((name == "command" || name == "builtin") && isDeclarator second)
  | [.literal name false] :: _ => isDeclarator name
  | _ => false

def operandsOf (run : Runner) (words : List Word) (shell : Shell) : List Operand × Shell :=
  let declares := isDeclaration shell.dialect words
  words.foldl
    (fun (operands, shell) word =>
      if shell.isStopped then (operands, shell)
      else
        match declares, Script.Grammar.assignment? shell.dialect word with
        | true, some ⟨name, none, appends, [.list text]⟩ =>
          let (items, shell) := listItems (collect run) text shell
          (operands ++ [.list name appends items], shell)
        | _, assignment =>
          let keepsWhole (_ : Word) : Bool := declares && assignment.isSome
          let (fields, shell) := fieldsOf (collect run) keepsWhole [word] shell
          (operands ++ fields.map .text, shell))
    ([], shell)

def perform (run : Runner) (isTested : Bool) (assignments : List Assignment) (name : String)
    (operands : List Operand) (outputs : List (Nat × Sink)) (shell : Shell) : Shell :=
  let (texts, assigned) := assignAll run false outputs assignments shell
  let words := name :: operands.map Operand.shown
  let traced := if assigned.isStopped then assigned
    else traceCommand run outputs texts words assigned
  let status := shell.status
  let stays := isSpecial name && !shell.isExtended
  if traced.isStopped then traced
  else if stays || assignments.isEmpty then
    invoke run isTested name operands (traced.finish status)
  else
    let names := (assignments.map Assignment.name).eraseDups
    let saved := names.map fun name => (name, shell.bindings.lookup name)
    let marked := names.foldl (fun shell name => shell.markVariable 'x' name) traced
    let result := invoke run isTested name operands (marked.finish status)
    result.restore saved

/-- Redirections of a command `exec` without arguments stay. -/
def redirectShell (run : Runner) (command : SimpleCommand) (shell : Shell) : Shell :=
  let traced := traceCommand run shell.outputs [] ["exec"] shell
  let opened := openAll (collect run) command.redirects traced
  if opened.isStopped then opened
  else if opened.status != 0 then
    match shell.dialect with
    | .plain => opened.stop (.code opened.status)
    | .extended => opened.stop (.code 1)
  else ((assignAll run true shell.outputs command.assignments opened).2).finish 0

def keepLastWord (operands : List Operand) (shell : Shell) : Shell :=
  match shell.dialect, operands.getLast? with
  | .extended, some last => shell.putVariable "_" ⟨some (.single last.shown), []⟩
  | _, _ => shell

def runSimple (run : Runner) (isTested : Bool) (command : SimpleCommand) (shell : Shell) : Shell :=
  let substitution := collect run
  let (operands, shell) := operandsOf run command.words
    { shell with line := command.line, collected := none }
  if shell.isStopped then shell
  else
    match operands with
    | [] =>
      let body (opened : Shell) : Shell :=
        let (texts, assigned) := assignAll run true shell.outputs command.assignments opened
        if assigned.isStopped then assigned
        else
          let traced := traceCommand run shell.outputs texts [] assigned
          traced.finish (traced.collected.getD 0)
      redirected substitution command.redirects id body shell
    | [.text "exec"] => redirectShell run command shell
    | name :: operands =>
      let whenRefused (shell : Shell) : Shell :=
        if isSpecial name.shown && !shell.isExtended then shell.stop (.code shell.status)
        else shell
      let result := redirected substitution command.redirects whenRefused
        (perform run isTested command.assignments name.shown operands shell.outputs) shell
      keepLastWord (name :: operands) result

end DtoGen.Shell

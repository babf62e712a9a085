import DtoGen.Machine.Condition.File
import DtoGen.Machine.Expansion

namespace DtoGen.Shell

def aim (descriptor : Nat) (sink : Sink) (shell : Shell) : Shell :=
  let others := shell.outputs.filter fun entry => entry.1 != descriptor
  { shell.closeInput descriptor with outputs := (descriptor, sink) :: others }

def close (descriptor : Nat) (shell : Shell) : Shell :=
  { shell.closeInput descriptor with
    outputs := shell.outputs.filter fun entry => entry.1 != descriptor }

/-- Makes a descriptor read what another one reads. -/
def shareInput (descriptor source : Nat) (shell : Shell) : Shell :=
  let closed := shell.close descriptor
  { closed with inputs := (descriptor, source) :: closed.inputs }

/-- Lets a descriptor read something new. -/
def read (descriptor : Nat) (kind : SourceKind) (content : ByteArray) (shell : Shell) : Shell :=
  (shell.close descriptor).openSource descriptor kind content

def absenceText (verb : String) (path : String) (shell : Shell) : String :=
  let absence := shell.tree.absence ⟨path⟩
  match shell.dialect with
  | .extended => absence
  | .plain =>
    if absence = "File name too long" || absence = "Permission denied" then absence
    else if verb = "create" then "Directory nonexistent"
    else "No such file"

/-- Tells why a path cannot be opened. -/
def refusePath (verb reason path : String) (shell : Shell) : Shell :=
  let message :=
    match shell.dialect with
    | .plain => "cannot " ++ verb ++ " " ++ path ++ ": " ++ reason
    | .extended => path ++ ": " ++ reason
  shell.complain message (faultStatus shell.dialect)

def refuseAbsent (verb path : String) (shell : Shell) : Shell :=
  let isDirectory := (shell.tree.find? ⟨path⟩).any Entry.isDirectory
  let reason := if isDirectory then "Is a directory" else absenceText verb path shell
  refusePath verb reason path shell

def badDescriptor (number : String) (shell : Shell) : Shell :=
  shell.complain (number ++ ": Bad file descriptor") (faultStatus shell.dialect)

/-- A spelling that means the same file from every directory. -/
def absolutePath (tree : FileTree) (path : Path) : Path :=
  match tree.locate? path with
  | some place => ⟨"/" ++ "/".intercalate place⟩
  | none => path

/-- Whether a file may not be overwritten. -/
def isProtected (opening : Opening) (path : String) (shell : Shell) : Bool :=
  opening == .replace && shell.hasOption 'C' &&
    match shell.tree.find? ⟨path⟩ with
    | some (.file _ _) | some (.program _) => true
    | _ => false

/-- Opens a file for writing. It is made or emptied at once, unless what is written is added. -/
def openOutput (descriptor : Nat) (path : String) (opening : Opening) (shell : Shell) : Shell :=
  match (Condition.descriptorOf? path).bind fun n => shell.outputs.lookup n,
      shell.tree.find? ⟨path⟩ with
  | some sink, _ => shell.aim descriptor sink
  | none, some (.device .full) => shell.aim descriptor .full
  | none, some (.device .terminal) => refusePath "create" "No such device or address" path shell
  | none, some (.device _) => shell.aim descriptor .nowhere
  | none, _ =>
    if shell.isProtected opening path then
      match shell.dialect with
      | .plain => refusePath "create" "File exists" path shell
      | .extended => refusePath "create" "cannot overwrite existing file" path shell
    else
      let (isOpen, tree) :=
        if opening = .append then shell.tree.appendBytes ⟨path⟩ ByteArray.empty
        else shell.tree.writeBytes ⟨path⟩ ByteArray.empty
      if isOpen then { shell with tree }.aim descriptor (.file (absolutePath tree ⟨path⟩))
      else refuseAbsent "create" path shell

def openInput (descriptor : Nat) (path : String) (shell : Shell) : Shell :=
  match (Condition.descriptorOf? path).bind fun n => shell.inputs.lookup n,
      shell.tree.find? ⟨path⟩ with
  | some source, _ => shell.shareInput descriptor source
  | none, some (.device .terminal) => refusePath "open" "No such device or address" path shell
  | none, some (.device device) =>
    shell.read descriptor .device ((Entry.device device).content?.getD ByteArray.empty)
  | none, some .directory => shell.read descriptor .file ByteArray.empty
  | none, some entry => shell.read descriptor .file (entry.content?.getD ByteArray.empty)
  | none, none => refuseAbsent "open" path shell

/-- Makes a descriptor the same as another one. -/
def duplicate (descriptor : Nat) (number : String) (shell : Shell) : Shell :=
  match number.toNat? with
  | some n =>
    match shell.outputs.lookup n, shell.inputs.lookup n with
    | some sink, _ => shell.aim descriptor sink
    | none, some source => shell.shareInput descriptor source
    | none, none => badDescriptor number shell
  | none =>
    if number = "-" then shell.close descriptor
    else
      match shell.dialect with
      | .plain => shell.abort "Syntax error: Bad fd number"
      | .extended =>
        match number.toList.getLast?, (number.dropEnd 1).toNat? with
        | some '-', some n => (duplicateMoved n shell).close n
        | _, _ =>
          if descriptor = 1 then
            let opened := openOutput 1 number .replace shell
            match opened.status, opened.outputs.lookup 1 with
            | 0, some sink => opened.aim 2 sink
            | _, _ => opened
          else shell.complain (number ++ ": ambiguous redirect") 1
where
  duplicateMoved (n : Nat) (shell : Shell) : Shell :=
    match shell.outputs.lookup n, shell.inputs.lookup n with
    | some sink, _ => shell.aim descriptor sink
    | none, some source => shell.shareInput descriptor source
    | none, none => badDescriptor (toString n) shell

/-- The path that a word names. For one dialect it may not be several. -/
def withPath (run : Substitution) (word : Word) (act : String → Shell → Shell) (shell : Shell) :
    Shell :=
  match shell.dialect with
  | .plain =>
    let (text, shell) := textOf run word shell
    if shell.isStopped then shell else act text shell
  | .extended =>
    let (fields, shell) := fieldsOf run (fun _ => false) [word] shell
    match shell.isStopped, fields with
    | true, _ => shell
    | false, [text] => act text shell
    | false, _ => shell.complain (Script.Grammar.wordText word ++ ": ambiguous redirect") 1

/-- Tells about a document that the end of the script has closed. -/
def warnUnclosed (unclosed : Option UnclosedDocument) (shell : Shell) : Shell :=
  match shell.dialect, unclosed with
  | .extended, some document =>
    let message := "warning: here-document at line " ++ toString document.firstLine
      ++ " delimited by end-of-file (wanted \x60" ++ document.ending ++ "')"
    let told := { shell with line := document.lastLine }.complainPlainly message shell.status
    { told with line := shell.line }
  | _, _ => shell

def openTarget (run : Substitution) (r : Redirect) (shell : Shell) : Shell :=
  match r.target with
  | .file name opening =>
    withPath run name (fun path => openOutput r.descriptor path opening) shell
  | .input name => withPath run name (openInput r.descriptor) shell
  | .document content unclosed =>
    let (text, shell) := textOf run content (warnUnclosed unclosed shell)
    if shell.isStopped then shell else shell.read r.descriptor .pipe (bytes text)
  | .line content =>
    let (text, shell) := textOf run content shell
    if shell.isStopped then shell else shell.read r.descriptor .pipe (bytes (text ++ "\n"))
  | .descriptor number => withPath run number (duplicate r.descriptor) shell

/-- Opens one after the other, up to the first that fails, which leaves a status. -/
def openAll (run : Substitution) (redirects : List Redirect) (shell : Shell) : Shell :=
  redirects.foldl
    (fun shell r => if shell.isStopped || shell.status != 0 then shell else openTarget run r shell)
    (shell.finish 0)

/-- Gives a descriptor back what it was for. -/
def restoreDescriptor (before : Shell) (descriptor : Nat) (shell : Shell) : Shell :=
  let closed := shell.close descriptor
  { closed with
    outputs := (before.outputs.filter fun entry => entry.1 == descriptor) ++ closed.outputs
    inputs := (before.inputs.filter fun entry => entry.1 == descriptor) ++ closed.inputs }

def changedDescriptors (r : Redirect) : List Nat :=
  match r.target with
  | .descriptor _ => [r.descriptor, 2]
  | _ => [r.descriptor]

/-- Runs something behind redirections, which end with it. -/
def redirected (run : Substitution) (redirects : List Redirect) (whenRefused : Shell → Shell)
    (body : Shell → Shell) (shell : Shell) : Shell :=
  if redirects.isEmpty then body shell
  else
    let opened := openAll run redirects shell
    let result :=
      if opened.isStopped then opened
      else if opened.status != 0 then whenRefused opened
      else body (opened.finish shell.status)
    (redirects.flatMap changedDescriptors).foldl
      (fun result descriptor => restoreDescriptor shell descriptor result) result

end DtoGen.Shell

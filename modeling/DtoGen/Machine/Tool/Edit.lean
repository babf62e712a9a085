import DtoGen.Machine.Sed.Editor
import DtoGen.Machine.Tool.Input

namespace DtoGen.Tool

/-- A part of the script: a text from the arguments, or a file. -/
structure ScriptPart where
  file : Option String
  text : Bytes

/-- Where a fault is, by the part of the script that holds it. -/
def partPlace (offset : Nat) (text : Bytes) : List ScriptPart → Nat → String
  | [], _ => ""
  | part :: parts, number =>
    let size := part.text.length
    let isIn := offset ≤ size || parts.isEmpty
    match part.file, isIn with
    | some path, true =>
      let line := (part.text.take (offset - 1)).count 10 + 1
      "file " ++ path ++ " line " ++ toString line
    | none, true =>
      "-e expression #" ++ toString number ++ ", char " ++ toString offset
    | file, false =>
      partPlace (offset - size - 1) text parts (if file.isNone then number + 1 else number)

def sedUsage (shell : Shell) : String :=
  "Usage: " ++ shell.name ++ " [OPTION]... \x7bscript-only-if-no-other-script\x7d [input-file]..."

/-- The parts of the script, and the operands that are left. -/
def scriptParts (a : Arguments) (shell : Shell) : Except String (List ScriptPart × List String) :=
  let own := a.options.filter fun option => option.1 == "e" || option.1 == "f"
  let part (option : String × String) : Except String ScriptPart :=
    if option.1 = "e" then .ok ⟨none, textBytes option.2⟩
    else
      let content :=
        if option.2 = "-" || option.2 = "/dev/stdin" then .ok (takeAll 0 shell).1
        else (fileContent option.2 shell).1
      match content with
      | .ok content =>
        let text := content.toList
        .ok ⟨some option.2, if text.getLast? = some 10 then text.dropLast else text⟩
      | .error reason => .error ("couldn't open file " ++ option.2 ++ ": " ++ reason)
  match own, a.operands with
  | [], [] => .error ""
  | [], first :: operands => .ok ([⟨none, textBytes first⟩], operands)
  | own, operands => (own.mapM part).map fun parts => (parts, operands)

/-- Puts what the editor has written to files there. -/
def putWritten (written : List (String × Bytes)) (shell : Shell) : Shell :=
  written.foldl
    (fun shell (path, text) =>
      match (Condition.descriptorOf? path).bind fun n => shell.outputs.lookup n with
      | some sink => shell.pour (ofBytes text) sink
      | none => { shell with tree := (shell.tree.appendBytes ⟨path⟩ (ofBytes text)).2 })
    shell

/-- The files that a script writes, which are emptied before it starts. -/
def writtenPaths (steps : List Sed.Step) : List String :=
  let paths := steps.filterMap fun step =>
    match step.command with
    | .write path | .writeFirst path => some path
    | .substitute s => s.file
    | _ => none
  paths.eraseDups.filter fun path => (Condition.descriptorOf? path).isNone

def sedGrammar : Grammar :=
  grammar ["n|quiet|silent", "E|r|regexp-extended", "s|separate", "u|unbuffered", "i|in-place?",
    "e|expression=", "f|file=", "z|null-data", "l|line-length=", "posix", "debug", "sandbox",
    "follow-symlinks", "b|binary"]

/-- The path of the copy that is kept of a file that is edited in place. -/
def backupPath (ending operand : String) : Option String :=
  if ending = "" then none
  else if ending.toList.contains '*' then
    some (ending.replace "*" operand)
  else some (operand ++ ending)

def sedWording : Wording where
  closed operand reason := "can't read " ++ operand ++ ": " ++ reason
  directory operand := "read error on " ++ operand ++ ": " ++ isDirectoryText

def editInPlace (ending : String) (setting : Sed.Setting) (steps : List Sed.Step)
    (operand : String) (shell : Shell) : Shell :=
  if (shell.tree.find? ⟨operand⟩).any Entry.isDirectory then
    fail ("couldn't edit " ++ operand ++ ": not a regular file") 4 shell
  else
    match content? sedWording operand shell with
    | (none, shell) => shell.finish 2
    | (some content, shell) =>
      let outcome := Sed.run { setting with fileName := operand } steps content.toList
      let kept := match backupPath ending operand with
        | some path => (shell.tree.writeBytes ⟨path⟩ content).2
        | none => shell.tree
      let text := outcome.output ++ Sed.textOfLines setting.ending outcome.left
      let (_, tree) := kept.writeBytes ⟨operand⟩ (ofBytes text)
      let shell := putWritten outcome.written { shell with tree }
      match outcome.status with
      | some (status + 1) => shell.stop (.code (status + 1))
      | some 0 => shell.stop (.code 0)
      | none => shell

def sed : Shell.Command := fun arguments shell =>
  match parse sedGrammar arguments with
  | .error fault => (fail fault.message 1 shell).warn (sedUsage shell)
  | .ok a =>
    let shell := shell.finish 0
    match scriptParts a shell with
    | .error "" => (shell.warn (sedUsage shell)).finish 1
    | .error message => fail message 1 shell
    | .ok (parts, operands) =>
      let text := ([10] : Bytes).intercalate (parts.map ScriptPart.text)
      match Sed.parse (.editor (a.has "E")) text with
      | .error fault =>
        if fault.message = Regex.Fault.bareClass.message then fail fault.message 1 shell
        else
          let place := partPlace (text.length - fault.left) text parts 1
          fail (place ++ ": " ++ fault.message) 1 shell
      | .ok steps =>
        match Sed.missingLabel? steps with
        | some name =>
          fail ("can't find label for jump to \x60" ++ shownText name ++ "'") 1 shell
        | none =>
          let cleared := (writtenPaths steps).foldl
            (fun shell path =>
              { shell with tree := (shell.tree.writeBytes ⟨path⟩ ByteArray.empty).2 }) shell
          let startsQuiet := ([35, 110, 10] : Bytes).isPrefixOf text || text = [35, 110]
          let setting : Sed.Setting := {
            isQuiet := a.has "n" || startsQuiet
            ending := if a.has "z" then 0 else 10
            width := (a.number? "l").getD 70
            fileName := operands.headD "-"
            content? := fun path => ((fileContent path cleared).1.toOption).map ByteArray.toList
          }
          go a setting steps (orInput operands) cleared
where
  go (a : Arguments) (setting : Sed.Setting) (steps : List Sed.Step) (operands : List String)
      (shell : Shell) : Shell :=
    match a.value? "i" with
    | some ending =>
      operands.foldl
        (fun shell operand =>
          if shell.isStopped then shell else editInPlace ending setting steps operand shell)
        shell
    | none =>
      let start := inputStart shell
      let (texts, shell) := contents sedWording operands shell
      let shell := if shell.status = 0 then shell else shell.finish 2
      let groups : List (String × Bytes) :=
        if a.has "s" then texts.map fun (name, content) => (name, content.toList)
        else [(setting.fileName, joinTexts setting.ending (texts.map fun entry => entry.2.toList))]
      let step (state : Option Nat × Shell) (group : String × Bytes) : Option Nat × Shell :=
        match state with
        | (some status, shell) => (some status, shell)
        | (none, shell) =>
          let outcome := Sed.run { setting with fileName := group.1 } steps group.2
          let shell := putWritten outcome.written (shell.write (ofBytes outcome.output))
          let left := (Sed.textOfLines setting.ending outcome.left).length
          let shell :=
            if outcome.status.isSome && operands = ["-"] then
              giveBack (group.2.length - left) start shell
            else shell
          (outcome.status, shell)
      let (status, shell) := groups.foldl step (none, shell)
      match status with
      | some (status + 1) => shell.finish (status + 1)
      | _ => shell
  /-- One text of several, of which only the last may lack its line end. -/
  joinTexts (ending : UInt8) : List Bytes → Bytes
    | [] => []
    | [text] => text
    | text :: texts =>
      let text := if text.isEmpty || text.getLast? = some ending then text else text ++ [ending]
      text ++ joinTexts ending texts

end DtoGen.Tool

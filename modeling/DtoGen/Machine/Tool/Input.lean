import DtoGen.Machine.Condition.File
import DtoGen.Machine.Tool.Options
import DtoGen.Text.Utf8

namespace DtoGen.Tool

abbrev Bytes := List UInt8

def ofBytes (bs : Bytes) : ByteArray :=
  ⟨bs.toArray⟩

def byteOf (c : Char) : UInt8 :=
  UInt8.ofNat c.toNat

def textBytes (text : String) : Bytes :=
  text.toUTF8.toList

def shownText (bs : Bytes) : String :=
  Text.decode (ofBytes bs)

/-- The text with blanks in front up to a width. -/
def padLeft (width : Nat) (text : String) : String :=
  String.ofList (List.replicate (width - text.length) ' ') ++ text

/-- How a tool tells that an operand cannot be read, by the operand and the reason. -/
structure Wording where
  closed : String → String → String
  directory : String → String

def becauseOf (operand reason : String) : String :=
  operand ++ ": " ++ reason

def isDirectoryText : String :=
  "Is a directory"

namespace Wording

def plain : Wording where
  closed := becauseOf
  directory operand := becauseOf operand isDirectoryText

/-- The wording of tools that say what they wanted with an operand. -/
def reading : Wording where
  closed operand reason := "cannot open " ++ quoted operand ++ " for reading: " ++ reason
  directory operand := "error reading " ++ quoted operand ++ ": " ++ isDirectoryText

end Wording

def takeAll (descriptor : Nat) (shell : Shell) : ByteArray × Shell :=
  match shell.sourceOf? descriptor with
  | some source =>
    (source.rest, shell.setSource descriptor { source with position := source.content.size })
  | none => (ByteArray.empty, shell)

/-- The content of a file, or why it cannot be read. -/
def fileContent (path : String) (shell : Shell) : Except String ByteArray × Shell :=
  match (Condition.descriptorOf? path).filter fun n => (shell.sourceOf? n).isSome with
  | some n =>
    let (content, shell) := takeAll n shell
    (.ok content, shell)
  | none =>
    match shell.tree.find? ⟨path⟩ with
    | some .directory => (.error isDirectoryText, shell)
    | some (.device .terminal) => (.error "No such device or address", shell)
    | some entry => (.ok (entry.content?.getD ByteArray.empty), shell)
    | none => (.error (shell.tree.absence ⟨path⟩), shell)

def content? (wording : Wording) (operand : String) (shell : Shell) : Option ByteArray × Shell :=
  if operand = "-" then
    let (content, shell) := takeAll 0 shell
    (some content, shell)
  else
    match fileContent operand shell with
    | (.ok content, shell) => (some content, shell)
    | (.error reason, shell) =>
      let message := if reason = isDirectoryText then wording.directory operand
        else wording.closed operand reason
      (none, fail message 1 shell)

/-- The operands that can be read, with their contents. -/
def contents (wording : Wording) : List String → Shell → List (String × ByteArray) × Shell
  | [], shell => ([], shell)
  | operand :: operands, shell =>
    let (content, shell) := content? wording operand shell
    let (others, shell) := contents wording operands shell
    (match content with
      | some content => (operand, content) :: others
      | none => others, shell)

/-- The operands of a tool that otherwise reads the standard input. -/
def orInput (operands : List String) : List String :=
  if operands.isEmpty then ["-"] else operands

/-- A tool that makes one text of the text of all operands. -/
def filter (wording : Wording) (known : Grammar) (change : Arguments → Bytes → Bytes) :
    Shell.Command :=
  withArguments known 1 fun a shell =>
    let (texts, shell) := contents wording (orInput a.operands) shell
    shell.write (ofBytes (change a (texts.flatMap fun entry => entry.2.toList)))

/-- How much is read of a pipe at a time. -/
def chunkSize : Nat := 8192

/-- Gives back what has not been used of the standard input. Of a pipe whole chunks are gone. -/
def giveBack (used : Nat) (start : Nat) (shell : Shell) : Shell :=
  match shell.sourceOf? 0 with
  | some source =>
    let used :=
      match source.kind with
      | .pipe => (used / chunkSize + 1) * chunkSize
      | _ => used
    shell.setSource 0 { source with position := min source.content.size (start + used) }
  | none => shell

/-- How far the standard input has been read. -/
def inputStart (shell : Shell) : Nat :=
  (shell.sourceOf? 0).elim 0 Source.position

def titleOf (operand : String) : String :=
  if operand = "-" then "standard input" else operand

/-- A line, and whether its end is there. -/
structure Line where
  bytes : Bytes
  hasEnd : Bool
deriving DecidableEq, Repr

/-- The lines of a text, by the byte that ends them. -/
def cutLines (ending : UInt8) : Bytes → List Line
  | [] => []
  | b :: bs =>
    if b = ending then ⟨[], true⟩ :: cutLines ending bs
    else
      match cutLines ending bs, bs with
      | line :: lines, _ :: _ =>
        ⟨b :: line.bytes, line.hasEnd⟩ :: lines
      | _, _ => [⟨[b], false⟩]

def linesOf (text : Bytes) : List Bytes :=
  (cutLines 10 text).map fun line => if line.hasEnd then line.bytes ++ [10] else line.bytes

/-- The lines without their line ends. -/
def bareLines (text : Bytes) : List Bytes :=
  (cutLines 10 text).map Line.bytes

def unlines (lines : List Bytes) : ByteArray :=
  ofBytes (lines.flatMap (· ++ [10]))

end DtoGen.Tool

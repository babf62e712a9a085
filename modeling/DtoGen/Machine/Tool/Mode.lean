import DtoGen.Machine.Builtin.Directories
import DtoGen.Machine.Tool.Tree

namespace DtoGen

namespace Entry

def directoryMode : Nat := 0o755

def linkMode : Nat := 0o777

def deviceMode : Nat := 0o666

def mode : Entry → Nat
  | file _ mode => mode
  | directory => directoryMode
  | link _ => linkMode
  | device _ => deviceMode
  | program _ => executableMode

/-- The letter in front of the modes in listings. -/
def kindLetter : Entry → Char
  | directory => 'd'
  | link _ => 'l'
  | device _ => 'c'
  | file _ _ | program _ => '-'

def size : Entry → Nat
  | file content _ => content.size
  | directory => 4096
  | link target => target.utf8ByteSize
  | device _ => 0
  | program _ => 65536

/-- The space that an entry takes, in units of 1024 bytes. -/
def blocks (entry : Entry) : Nat :=
  match entry with
  | link _ | device _ => 0
  | entry => (entry.size + 4095) / 4096 * 4

end Entry

namespace Tool

/-- Three letters for the modes of one group; `extra` stands in the place of the last one. -/
def modeLetters (bits : Nat) (isExtra : Bool) (extra : Char) : List Char :=
  let canRun := bits % 2 = 1
  let last := if isExtra then (if canRun then extra else extra.toUpper) else if canRun then 'x'
    else '-'
  [if bits / 4 % 2 = 1 then 'r' else '-', if bits / 2 % 2 = 1 then 'w' else '-', last]

def modeText (mode : Nat) : String :=
  String.ofList (modeLetters (mode / 64 % 8) (mode / 2048 % 2 == 1) 's'
    ++ modeLetters (mode / 8 % 8) (mode / 1024 % 2 == 1) 's'
    ++ modeLetters (mode % 8) (mode / 512 % 2 == 1) 't')

/-- What a clause such as `u+x` asks for. -/
structure ModeClause where
  who : List Char
  sign : Char
  letters : List Char

def modeSigns : List Char :=
  ['+', '-', '=']

def modeClauses? (who : List Char) : Nat → List Char → Option (List ModeClause)
  | 0, _ => none
  | _, [] => some []
  | bound + 1, sign :: cs =>
    if !modeSigns.contains sign then none
    else
      let letters := cs.takeWhile fun c => !modeSigns.contains c
      if letters.all ['r', 'w', 'x', 'X', 's', 't', 'u', 'g', 'o'].contains then
        (modeClauses? who bound (cs.drop letters.length)).map (⟨who, sign, letters⟩ :: ·)
      else none

def symbolicMode? (text : String) : Option (List ModeClause) :=
  ((text.splitOn ",").mapM fun (part : String) =>
    let cs := part.toList
    let who := cs.takeWhile ['u', 'g', 'o', 'a'].contains
    let rest := cs.drop who.length
    if rest.isEmpty then none else modeClauses? who (rest.length + 1) rest).map List.flatten

def groupShift (c : Char) : Nat :=
  if c = 'u' then 64 else if c = 'g' then 8 else 1

def groupsOf (clause : ModeClause) : List Char :=
  if clause.who.isEmpty || clause.who.contains 'a' then ['u', 'g', 'o'] else clause.who

/-- The bits that a clause is about, as far as the mask lets it. -/
def clauseBits (mask mode : Nat) (isDirectory : Bool) (clause : ModeClause) : Nat :=
  let canRun := isDirectory || Entry.allowsExecution mode
  let perGroup (group : Char) : Nat :=
    let bits := clause.letters.foldl
      (fun bits c =>
        let more := match c with
          | 'r' => 4
          | 'w' => 2
          | 'x' => 1
          | 'X' => if canRun then 1 else 0
          | 'u' | 'g' | 'o' => mode / groupShift c % 8
          | _ => 0
        Nat.lor bits more) 0
    let set := if clause.letters.contains 's' then
        (if group = 'u' then 2048 else if group = 'g' then 1024 else 0) else 0
    bits * groupShift group + set
  let sticky := if clause.letters.contains 't' then 512 else 0
  let all := (groupsOf clause).foldl (fun bits group => Nat.lor bits (perGroup group)) sticky
  if clause.who.isEmpty then all - Nat.land all mask else all

def applyClause (mask : Nat) (isDirectory : Bool) (mode : Nat) (clause : ModeClause) : Nat :=
  let bits := clauseBits mask mode isDirectory clause
  match clause.sign with
  | '+' => Nat.lor mode bits
  | '-' => mode - Nat.land mode bits
  | _ =>
    let whole := (groupsOf clause).foldl (fun n group => n + 7 * groupShift group) 0
    Nat.lor (mode - Nat.land mode whole) bits

/-- What a mode as it is written makes of another one. -/
def modeChange? (mask : Nat) (text : String) : Option (Bool → Nat → Nat) :=
  match Builtin.octal? text, symbolicMode? text with
  | some n, _ => if n ≤ 0o7777 then some fun _ _ => n else none
  | none, some clauses => some fun isDirectory mode =>
    clauses.foldl (applyClause mask isDirectory) mode
  | none, none => none

def invalidMode (text : String) (shell : Shell) : Shell :=
  misuse ("invalid mode: " ++ quoted text) 1 shell

/-- Four octal digits with what they mean. -/
def modeReport (mode : Nat) : String :=
  Builtin.octalText 4 mode ++ " (" ++ modeText mode ++ ")"

def chmodAt (a : Arguments) (change : Bool → Nat → Nat) (operand : String) (place : Place)
    (shell : Shell) : Shell :=
  match shell.tree.entry? place with
  | some (.file content mode) =>
    let new := change false mode
    let shell := { shell with tree := shell.tree.set place (.file content new) }
    if a.has "v" || (a.has "c" && new != mode) then
      shell.say (if new = mode then
          "mode of " ++ quoted operand ++ " retained as " ++ modeReport mode ++ "\n"
        else
          "mode of " ++ quoted operand ++ " changed from " ++ modeReport mode ++ " to "
            ++ modeReport new ++ "\n")
    else shell
  | _ => shell

/-- A mode such as `-x` looks like an option. -/
def spellMode : List String → List String
  | [] => []
  | first :: rest =>
    match first.toList with
    | '-' :: c :: _ =>
      if ['r', 'w', 'x', 'X', 's', 't', 'u', 'g', 'o'].contains c then "--" :: first :: rest
      else first :: spellMode rest
    | _ => first :: rest

def chmod : Shell.Command := fun arguments =>
  withOperands (grammar ["R|recursive", "v|verbose", "c|changes", "f|silent|quiet", "reference="])
    1 none (fun a shell =>
      match a.operands with
      | [] => shell
      | [mode] => misuse ("missing operand after " ++ quoted mode) 1 shell
      | mode :: operands =>
        match modeChange? shell.tree.mask mode with
        | none => invalidMode mode shell
        | some change =>
          operands.foldl
            (fun shell operand =>
              match shell.tree.find? ⟨operand⟩, shell.tree.locate? ⟨operand⟩ with
              | some _, some place =>
                let places := if a.has "R" then (shell.tree.branch place).map Prod.fst else [place]
                places.foldl (fun shell place => chmodAt a change operand place shell) shell
              | _, _ =>
                if a.has "f" then shell.finish 1
                else
                  fail ("cannot access " ++ quoted operand ++ ": " ++ shell.tree.absence ⟨operand⟩)
                    1 shell)
            shell) (spellMode arguments)

def kindName : Entry → String
  | .directory => "directory"
  | .link _ => "symbolic link"
  | .device _ => "character special file"
  | .program _ => "regular file"
  | .file content _ => if content.isEmpty then "regular empty file" else "regular file"

/-- How many names there are, with those that directories have inside. -/
def linkCount (tree : FileTree) (place : Place) (entry : Entry) : Nat :=
  match entry with
  | .directory =>
    let inner := tree.entries.filter fun (p, e) =>
      p.dropLast = place && p ≠ place && e.isDirectory
    inner.length + 2
  | _ => (tree.namesOf place).length

def statField (tree : FileTree) (operand : String) (place : Place) (entry : Entry) (letter : Char) :
    String :=
  match letter with
  | 'n' => operand
  | 'N' =>
    match entry with
    | .link target => quoted operand ++ " -> " ++ quoted target
    | _ => quoted operand
  | 's' => toString entry.size
  | 'a' => String.ofList (Nat.toDigits 8 entry.mode)
  | 'A' => String.singleton entry.kindLetter ++ modeText entry.mode
  | 'f' =>
    let kind := match entry with
      | .directory => 0o040000
      | .link _ => 0o120000
      | .device _ => 0o020000
      | _ => 0o100000
    String.ofList (Nat.toDigits 16 (kind + entry.mode))
  | 'F' => kindName entry
  | 'U' | 'G' => "root"
  | 'u' | 'g' => "0"
  | 'h' => toString (linkCount tree place entry)
  | 'b' => toString (entry.blocks * 2)
  | 'B' => "512"
  | 'o' => "4096"
  | '%' => "%"
  | c => String.ofList ['%', c]

def statText (tree : FileTree) (operand : String) (place : Place) (entry : Entry) :
    List Char → String
  | '%' :: c :: cs =>
    statField tree operand place entry c ++ statText tree operand place entry cs
  | c :: cs => String.singleton c ++ statText tree operand place entry cs
  | [] => ""

def stat : Shell.Command :=
  withOperands (grammar ["c|format=", "printf=", "L|dereference", "f|file-system", "t|terse"])
    1 none fun a shell =>
    a.operands.foldl
      (fun shell operand =>
        let path : Path := ⟨operand⟩
        let place := if a.has "L" then shell.tree.locate? path else shell.tree.placeOf? path
        let entry := if a.has "L" then shell.tree.find? path else shell.tree.findAt? path
        match place, entry with
        | some place, some entry =>
          match a.value? "printf", a.value? "c" with
          | some format, _ =>
            let text := statText shell.tree operand place entry format.toList
            shell.write (Builtin.escapedText .extended .argument (text.length + 1) text.toList).1
          | none, some format =>
            shell.say (statText shell.tree operand place entry format.toList ++ "\n")
          | none, none => shell.say ("  File: " ++ operand ++ "\n")
        | _, _ =>
          fail ("cannot statx " ++ quoted operand ++ ": " ++ shell.tree.absence path) 1 shell)
      shell

end Tool

end DtoGen

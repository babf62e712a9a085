import DtoGen.Machine.Digest
import DtoGen.Machine.Tool.Input

namespace DtoGen.Tool

def hexText (bs : Bytes) : String :=
  String.ofList (bs.flatMap fun b => Nat.toDigits 16 (b.toNat / 16) ++ Nat.toDigits 16 (b.toNat % 16))

/-- A name in which backslashes and line ends are written out, and whether it has any. -/
def escapedName (name : String) : Bool × String :=
  let text := name.toList.flatMap fun c =>
    if c = '\\' then ['\\', '\\'] else if c = '\n' then ['\\', 'n'] else [c]
  (text.length != name.length, String.ofList text)

def listedDigest? (line : String) : Option (String × String) :=
  let cs := line.toList
  let digest := cs.takeWhile Numeral.isHexDigit
  match cs.drop digest.length with
  | ' ' :: ' ' :: name | ' ' :: '*' :: name =>
    if digest.isEmpty then none else some (String.ofList digest, String.ofList name)
  | _ =>
    match line.splitOn ") = " with
    | [front, digest] =>
      match front.splitOn " (" with
      | _ :: name :: rest => some (digest, " (".intercalate (name :: rest))
      | _ => none
    | _ => none
where
  Numeral.isHexDigit (c : Char) : Bool :=
    c.isDigit || ('a' ≤ c.toLower && c.toLower ≤ 'f')

structure CheckResult where
  failures : Nat
  unread : Nat
  malformed : Nat
  total : Nat

def plural (n : Nat) (one many : String) : String :=
  "WARNING: " ++ toString n ++ " " ++ if n = 1 then one else many

/-- Compares the files of a list with their digests. -/
def checkDigests (a : Arguments) (digest : Bytes → Bytes) (operand : String) (shell : Shell) :
    Shell :=
  match content? .plain operand shell with
  | (none, shell) => shell
  | (some list, shell) =>
    let lines := (bareLines list.toList).map shownText
    let step (state : CheckResult × Shell) (line : String) : CheckResult × Shell :=
      let (result, shell) := state
      match listedDigest? line with
      | none => ({ result with malformed := result.malformed + 1 }, shell)
      | some (wanted, name) =>
        let result := { result with total := result.total + 1 }
        match fileContent name shell with
        | (.error reason, shell) =>
          let shell := fail (becauseOf name reason) shell.status shell
          let shell := if a.has "status" then shell
            else shell.say (name ++ ": FAILED open or read\n")
          ({ result with unread := result.unread + 1 }, shell)
        | (.ok content, shell) =>
          let isSame := hexText (digest content.toList) == wanted.toLower
          if isSame then
            (result, if a.hasAny ["quiet", "status"] then shell else shell.say (name ++ ": OK\n"))
          else
            ({ result with failures := result.failures + 1 },
              if a.has "status" then shell else shell.say (name ++ ": FAILED\n"))
    let (result, shell) := lines.foldl step (⟨0, 0, 0, 0⟩, shell)
    let told (isOn : Bool) (message : String) (shell : Shell) : Shell :=
      if isOn && !a.has "status" then fail message shell.status shell else shell
    if result.total = 0 then
      fail (titleOf operand ++ ": no properly formatted checksum lines found") 1 shell
    else
      let shell := told (result.malformed != 0)
        (plural result.malformed "line is improperly formatted" "lines are improperly formatted")
        shell
      let shell := told (result.unread != 0)
        (plural result.unread "listed file could not be read" "listed files could not be read")
        shell
      let shell := told (result.failures != 0)
        (plural result.failures "computed checksum did NOT match" "computed checksums did NOT match")
        shell
      if result.failures + result.unread = 0 then shell else shell.finish 1

def digestTool (title : String) (digest : Bytes → Bytes) : Shell.Command :=
  withArguments (grammar ["b|binary", "c|check", "t|text", "tag", "z|zero", "w|warn", "quiet",
      "status", "strict", "ignore-missing"]) 1 fun a shell =>
    let operands := orInput a.operands
    if a.has "c" then
      operands.foldl (fun shell operand => checkDigests a digest operand shell) shell
    else
      operands.foldl
        (fun shell operand =>
          match content? .plain operand shell with
          | (none, shell) => shell
          | (some content, shell) =>
            let (isEscaped, name) := if a.has "z" then (false, operand) else escapedName operand
            let hex := hexText (digest content.toList)
            let line :=
              if a.has "tag" then title ++ " (" ++ name ++ ") = " ++ hex
              else hex ++ (if a.has "b" then " *" else "  ") ++ name
            shell.say ((if isEscaped then "\\" else "") ++ line ++ if a.has "z" then "\x00" else "\n"))
        shell

def cksum : Shell.Command :=
  withArguments (grammar ["a|algorithm=", "untagged", "tag"]) 1 fun a shell =>
    (orInput a.operands).foldl
      (fun shell operand =>
        match content? .plain operand shell with
        | (none, shell) => shell
        | (some content, shell) =>
          let name := if a.operands.isEmpty then "" else " " ++ operand
          shell.say (toString (Digest.checksum content.toList) ++ " " ++ toString content.size
            ++ name ++ "\n"))
      shell

/-- Sums, and the sizes in blocks. -/
def sum : Shell.Command :=
  withArguments (grammar ["r", "s|sysv"]) 1 fun a shell =>
    let names := a.operands.length > 1 || a.has "s" && !a.operands.isEmpty
    (orInput a.operands).foldl
      (fun shell operand =>
        match content? .plain operand shell with
        | (none, shell) => shell
        | (some content, shell) =>
          let text := content.toList
          let name := if names then " " ++ operand else ""
          let block := if a.has "s" then 512 else 1024
          let blocks := (content.size + block - 1) / block
          let line :=
            if a.has "s" then toString (Digest.plainSum text) ++ " " ++ toString blocks
            else
              let digits := toString (Digest.turningSum text)
              String.ofList (List.replicate (5 - digits.length) '0') ++ digits ++ " "
                ++ padLeft 5 (toString blocks)
          shell.say (line ++ name ++ "\n"))
      shell

end DtoGen.Tool

import DtoGen.Machine.Shell

namespace DtoGen.Tilde

/-- The homes of the users of every system. -/
def homes : List (String × String) :=
  [ ("root", "/root"), ("daemon", "/usr/sbin"), ("bin", "/bin"), ("sys", "/dev"), ("sync", "/bin"),
    ("games", "/usr/games"), ("man", "/var/cache/man"), ("mail", "/var/mail"),
    ("www-data", "/var/www"), ("backup", "/var/backups"), ("nobody", "/nonexistent") ]

def directory? (shell : Shell) (name : String) : Option String :=
  match shell.dialect, name with
  | .plain, "" => shell.valueOf? "HOME"
  | .extended, "" => some ((shell.valueOf? "HOME").getD "/root")
  | .extended, "+" => shell.valueOf? "PWD"
  | .extended, "-" => shell.valueOf? "OLDPWD"
  | _, name => homes.lookup name

/-- A text that may start with a tilde, as pieces. `isLast` says whether nothing follows it. -/
def front (shell : Shell) (isLast inAssignment : Bool) (cs : List Char) : Word :=
  let whole : Word := if cs.isEmpty then [] else [.literal (String.ofList cs) false]
  match cs with
  | '~' :: behind =>
    let ends (c : Char) : Bool := c == '/' || (inAssignment && c == ':')
    let name := behind.takeWhile fun c => !ends c
    let rest := behind.drop name.length
    if rest.isEmpty && !isLast then whole
    else
      match directory? shell (String.ofList name) with
      | none => whole
      | some directory =>
        .literal directory true
          :: if rest.isEmpty then [] else [.literal (String.ofList rest) false]
  | _ => whole

def word (shell : Shell) : Word → Word
  | .literal text false :: pieces =>
    front shell pieces.isEmpty false text.toList ++ pieces
  | pieces => pieces

/-- Tildes at the front of a value and behind the colons of it. -/
def value (shell : Shell) (isFirst : Bool) : Word → Word
  | [] => []
  | .literal text false :: pieces =>
    let segments := text.toList.splitOn ':'
    let count := segments.length
    let expanded := segments.zipIdx.map fun (segment, n) =>
      let colon : Word := if n = 0 then [] else [.literal ":" false]
      let isLast := n + 1 < count || pieces.isEmpty
      let here : Word := if segment.isEmpty then [] else [.literal (String.ofList segment) false]
      colon ++ if n = 0 && !isFirst then here else front shell isLast true segment
    expanded.flatten ++ value shell false pieces
  | piece :: pieces => piece :: value shell false pieces

def assignment (shell : Shell) : Word → Word
  | .literal text false :: pieces =>
    let name := text.toList.takeWhile (· != '=')
    match text.toList.drop name.length with
    | _ :: cs =>
      let behind : Word := if cs.isEmpty then [] else [.literal (String.ofList cs) false]
      .literal (String.ofList (name ++ ['='])) false :: value shell true (behind ++ pieces)
    | [] => .literal text false :: pieces
  | pieces => pieces

end DtoGen.Tilde

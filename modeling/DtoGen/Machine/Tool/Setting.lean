import DtoGen.Machine.Launcher
import DtoGen.Machine.Tool.Clock

namespace DtoGen.Tool

/-- Characters by the letters that stand for them behind a backslash. -/
def splitEscapes : List (Char × Char) :=
  [ ('f', '\x0c'), ('n', '\n'), ('r', '\x0d'), ('t', '\t'), ('v', '\x0b'), ('#', '#'), ('$', '$'),
    ('\\', '\\'), ('"', '"'), ('\'', '\'') ]

/-- The arguments that are complete, the last one first, and the one that is being read. -/
structure SplitDraft where
  words : List String
  current : Option (List Char)

namespace SplitDraft

def add (cs : List Char) (draft : SplitDraft) : SplitDraft :=
  { draft with current := some (draft.current.getD [] ++ cs) }

def close (draft : SplitDraft) : SplitDraft :=
  match draft.current with
  | some cs => ⟨String.ofList cs :: draft.words, none⟩
  | none => draft

end SplitDraft

/-- Splits a text into arguments, with quotes and variables. The first argument bounds the
length. -/
def splitFrom (env : Environment) : Nat → Option Char → SplitDraft → List Char →
    Except String SplitDraft
  | 0, _, draft, _ => .ok draft.close
  | _, none, draft, [] => .ok draft.close
  | _, some _, _, [] => .error "no terminating quote in -S string"
  | bound + 1, quote, draft, c :: cs =>
    match quote, c, cs with
    | some '\'', '\'', _ | some '"', '"', _ => splitFrom env bound none draft cs
    | some '\'', '\\', d :: rest =>
      if d = '\\' || d = '\'' then splitFrom env bound quote (draft.add [d]) rest
      else splitFrom env bound quote (draft.add ['\\', d]) rest
    | some '\'', c, _ => splitFrom env bound quote (draft.add [c]) cs
    | none, '\'', _ | none, '"', _ => splitFrom env bound (some c) (draft.add []) cs
    | _, '\\', [] => .error "invalid backslash at end of string in -S"
    | none, '\\', '_' :: rest => splitFrom env bound none draft.close rest
    | some _, '\\', '_' :: rest => splitFrom env bound quote (draft.add [' ']) rest
    | none, '\\', 'c' :: _ => .ok draft.close
    | some _, '\\', 'c' :: _ => .error "'\\c' must not appear in double-quoted -S string"
    | _, '\\', d :: rest =>
      match splitEscapes.lookup d with
      | some e => splitFrom env bound quote (draft.add [e]) rest
      | none => .error ("invalid sequence '\\" ++ String.singleton d ++ "' in -S")
    | _, '$', '\x7b' :: rest =>
      let name := rest.takeWhile (· != '\x7d')
      match rest.drop name.length with
      | _ :: rest =>
        let value := env (String.ofList name)
        splitFrom env bound quote (value.elim draft fun text => draft.add text.toList) rest
      | [] => .error "only $\x7bVARNAME\x7d expansion is supported, error at: $\x7b"
    | _, '$', _ => .error ("only $\x7bVARNAME\x7d expansion is supported, error at: "
        ++ String.ofList (c :: cs))
    | none, c, _ =>
      if c.isWhitespace then splitFrom env bound none draft.close cs
      else if c = '#' && draft.current.isNone then .ok draft
      else splitFrom env bound none (draft.add [c]) cs
    | some _, c, _ => splitFrom env bound quote (draft.add [c]) cs

def splitWords (env : Environment) (text : String) : Except String (List String) :=
  (splitFrom env (text.length + 1) none ⟨[], none⟩ text.toList).map fun draft =>
    draft.words.reverse

structure Surroundings where
  isEmpty : Bool
  taken : List String
  endsWithZero : Bool
  directory : Option String

def isText (name text : String) : Bool :=
  (name ++ "=").toList.isPrefixOf text.toList

def without (name : String) (env : Environment) : Environment :=
  ⟨env.texts.filter fun text => !isText name text⟩

/-- Gives a variable a value, in its old place if it has one. -/
def withText (text : String) (env : Environment) : Environment :=
  let name := String.ofList (text.toList.takeWhile (· != '='))
  if env.texts.any (isText name) then
    ⟨env.texts.map fun other => if isText name other then text else other⟩
  else ⟨env.texts ++ [text]⟩

/-- What to do with several words in one argument. -/
def splitHint (shell : Shell) : String :=
  shell.name ++ ": use -[v]S to pass options in shebang lines"

def hasBlank (text : String) : Bool :=
  text.toList.any fun c => c == ' ' || c == '\t'

/-- Reads the options in front of the variables. The first argument bounds their number. -/
def surroundingsOf (env : Environment) :
    Nat → Surroundings → List String → Except (String × Bool) (Surroundings × List String)
  | 0, s, arguments => .ok (s, arguments)
  | _, s, [] => .ok (s, [])
  | bound + 1, s, first :: rest =>
    let valued (attached : List Char) (letter : Char)
        (use : String → List String → Except (String × Bool) (Surroundings × List String)) :=
      match attached, rest with
      | [], value :: rest => use value rest
      | [], [] => .error ((Fault.missingValue letter).message, false)
      | cs, _ => use (String.ofList cs) rest
    let unsets (name : String) (rest : List String) :=
      surroundingsOf env bound { s with taken := s.taken ++ [name] } rest
    let enters (directory : String) (rest : List String) :=
      surroundingsOf env bound { s with directory := some directory } rest
    let splits (text : String) (rest : List String) :=
      match splitWords env text with
      | .ok words => surroundingsOf env bound s (words ++ rest)
      | .error message => .error (message, false)
    let longValue (name : String) : Option String :=
      if (name ++ "=").toList.isPrefixOf first.toList then
        some (String.ofList (first.toList.drop (name.length + 1)))
      else none
    match first.toList with
    | ['-', '-'] => .ok (s, if rest.head? = some "-" then rest.tail else rest)
    | ['-'] => .ok ({ s with isEmpty := true }, rest)
    | '-' :: '-' :: _ =>
      match longValue "--unset", longValue "--chdir", longValue "--split-string" with
      | some name, _, _ => unsets name rest
      | _, some directory, _ => enters directory rest
      | _, _, some text => splits text rest
      | none, none, none =>
        if first = "--ignore-environment" then
          surroundingsOf env bound { s with isEmpty := true } rest
        else if first = "--null" then
          surroundingsOf env bound { s with endsWithZero := true } rest
        else if first = "--debug" then surroundingsOf env bound s rest
        else if first = "--unset" then valued [] 'u' unsets
        else if first = "--chdir" then valued [] 'C' enters
        else .error ((Fault.unknownName first).message, false)
    | '-' :: 'i' :: cs =>
      more bound { s with isEmpty := true } cs rest
    | '-' :: '0' :: cs => more bound { s with endsWithZero := true } cs rest
    | '-' :: 'v' :: cs => more bound s cs rest
    | '-' :: 'u' :: cs => valued cs 'u' unsets
    | '-' :: 'C' :: cs => valued cs 'C' enters
    | '-' :: 'S' :: cs => valued cs 'S' splits
    | '-' :: c :: _ => .error ((Fault.unknown c).message, c == ' ')
    | _ => .ok (s, first :: rest)
where
  more (bound : Nat) (s : Surroundings) (cs : List Char) (rest : List String) :
      Except (String × Bool) (Surroundings × List String) :=
    surroundingsOf env bound s (if cs.isEmpty then rest else String.ofList ('-' :: cs) :: rest)

/-- Where a directory is, or why it cannot be entered. -/
def enter (directory : String) (shell : Shell) : Except String Shell :=
  match shell.tree.locate? ⟨directory⟩ with
  | some place =>
    if shell.tree.isDirectory place then
      .ok { shell with tree := { shell.tree with workingDirectory := place } }
    else if (shell.tree.entry? place).isSome then .error "Not a directory"
    else .error (shell.tree.absence ⟨directory⟩)
  | none => .error (shell.tree.absence ⟨directory⟩)

/-- Runs a program in an environment that the arguments change, or writes that environment. -/
def env : Shell.Launcher := fun start arguments shell =>
  match surroundingsOf shell.environment (4 * arguments.length + 100)
      ⟨false, [], false, none⟩ arguments with
  | .error (message, wantsSplit) =>
    let told := fail message 125 shell
    let told := if wantsSplit then told.warn (splitHint shell) else told
    settled (told.warn (hint shell))
  | .ok (s, words) =>
    let base := if s.isEmpty then .empty
      else s.taken.foldl (fun env name => without name env) shell.environment
    let texts := words.takeWhile fun word => word.toList.contains '='
    let environment := texts.foldl (fun env text => withText text env) base
    let shell := { shell with environment, bindings := [] }
    match words.drop texts.length, s.directory with
    | [], some _ => settled (misuse "must specify command with --chdir (-C)" 125 shell)
    | [], none =>
      let ending := if s.endsWithZero then "\x00" else "\n"
      settled ((shell.finish 0).say (String.join (environment.texts.map (· ++ ending))))
    | program :: arguments, directory =>
      if s.endsWithZero then
        settled (misuse "cannot specify --null (-0) with command" 125 shell)
      else
        match directory.elim (.ok shell) fun directory => enter directory shell with
        | .error reason =>
          settled (fail ("cannot change directory to " ++ quoted (directory.getD "") ++ ": "
            ++ reason) 125 shell)
        | .ok shell =>
          match start program arguments shell with
          | .ok result => result
          | .error fault =>
            let told := fail (quoted program ++ ": " ++ fault.reason) fault.status shell
            settled (if hasBlank program && fault.status = 127 then told.warn (splitHint shell)
              else told)

/-- A tool that only starts a program, behind options of its own. -/
def wrapper (known : Grammar) (whenAlone : Shell → Shell) : Shell.Launcher :=
  fun start arguments shell =>
    match parse known arguments with
    | .error fault => settled (misuse fault.message 125 shell)
    | .ok a =>
      match a.operands with
      | [] => settled (whenAlone (shell.finish 0))
      | program :: arguments =>
        let front := if shell.name = "nice" then "" else "failed to run command "
        handOver front start program arguments shell

def nohup : Shell.Launcher :=
  wrapper (frontGrammar []) (misuse "missing operand" 125)

def setsid : Shell.Launcher :=
  wrapper (frontGrammar ["c|ctty", "f|fork", "w|wait"]) fun shell =>
    (shell.finish 1).warn "setsid: no command specified"

def stdbuf : Shell.Launcher :=
  wrapper (frontGrammar ["i|input=", "o|output=", "e|error="]) (misuse "missing operand" 125)

def nice : Shell.Launcher := fun start arguments shell =>
  let isShort (text : String) : Bool :=
    match text.toList with
    | '-' :: d :: ds => (d :: ds).all Char.isDigit
    | _ => false
  let arguments := arguments.map fun text => if isShort text then "-n" ++ text.drop 1 else text
  wrapper (frontGrammar ["n|adjustment="]) (fun shell => shell.say "0\n") start arguments shell

/-- Gives a program so much time. -/
def timeout : Shell.Launcher := fun start arguments shell =>
  let known := frontGrammar
    ["k|kill-after=", "s|signal=", "v|verbose", "foreground", "preserve-status"]
  match parse known arguments with
  | .error fault => settled (misuse fault.message 125 shell)
  | .ok a =>
    match a.operands with
    | [] => settled (misuse "missing operand" 125 shell)
    | [operand] =>
      match interval? operand with
      | some _ => settled (misuse ("missing operand after " ++ quoted operand) 125 shell)
      | none => settled (misuse ("invalid time interval " ++ quoted operand) 125 shell)
    | span :: program :: arguments =>
      match interval? span with
      | none => settled (misuse ("invalid time interval " ++ quoted span) 125 shell)
      | some span =>
        let limit := shell.clock + span
        let deadline := if span = 0 then shell.deadline
          else some (shell.deadline.elim limit fun other => min other limit)
        match start program arguments { shell with deadline } with
        | .error fault =>
          settled (fail ("failed to run command " ++ quoted program ++ ": " ++ fault.reason)
            fault.status shell)
        | .ok (status, result) =>
          let isLate := span != 0 && deadline == some limit && limit ≤ result.clock
          let result := { result with deadline := shell.deadline }
          if isLate then
            let kills := a.value? "s" == some "KILL" || a.value? "s" == some "9"
            let code := if a.has "preserve-status" then status.number
              else if kills then 137 else 124
            (.code code, { result with clock := limit })
          else (.code status.number, result)

end DtoGen.Tool

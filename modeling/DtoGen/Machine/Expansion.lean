import DtoGen.Machine.Expansion.Brace
import DtoGen.Machine.Expansion.Glob
import DtoGen.Machine.Expansion.Parameter
import DtoGen.Machine.Expansion.Tilde
import DtoGen.Machine.Script.Parser

namespace DtoGen.Shell

/-- How the commands inside of words are run. -/
structure Substitution where
  /-- Runs a text and answers with what it wrote. -/
  output : String → Shell → String × Shell
  /-- Runs a text and answers with the path of what it writes, or of what it is going to read. -/
  path : String → Bool → Shell → String × Shell

def arithmeticText (expand : Expander) (text : String) (shell : Shell) : String × Shell :=
  let (stretches, shell) := expand (Script.textWord shell.manner .document false text) shell
  let text := Stretch.joined stretches
  let text :=
    match shell.dialect with
    | .plain => text
    | .extended => String.ofList (text.toList.filter (· != '"'))
  if shell.isStopped then ("", shell)
  else
    match shell.calculate text with
    | .ok (value, shell) => (toString value, shell)
    | .error fault => ("", shell.abort (fault.message shell.dialect))

def expandPiece (run : Substitution) (expand : Expander) (piece : Piece) (shell : Shell) :
    List Stretch × Shell :=
  match piece with
  | .literal text isQuoted => ([.fixed text isQuoted], shell)
  | .parameter reference change isQuoted =>
    parameterStretches expand reference change isQuoted shell
  | .badParameter text =>
    match shell.dialect with
    | .plain => ([], shell.abort "Bad substitution")
    | .extended => ([], shell.abort ("$\x7b" ++ text ++ "\x7d: bad substitution"))
  | .command script isQuoted =>
    let (text, shell) := run.output script shell
    ([.ofText isQuoted text], shell)
  | .process script isSource =>
    let (path, shell) := run.path script isSource shell
    ([.fixed path true], shell)
  | .arithmetic text isQuoted =>
    let (value, shell) := arithmeticText expand text shell
    ([.ofText isQuoted value], shell)
  | .list text => ([.fixed ("(" ++ text ++ ")") true], shell)
  | .element name subscript => ([.fixed (name ++ "[" ++ subscript ++ "]") true], shell)

/-- Expands the pieces of a word. The first argument bounds how deep words stand in words. -/
def expandFrom (run : Substitution) : Nat → Expander
  | 0, _, shell | _, [], shell => ([], shell)
  | depth + 1, piece :: word, shell =>
    if shell.isStopped then ([], shell)
    else
      let expand (word : Word) (shell : Shell) :=
        expandFrom run depth (Tilde.word shell word) shell
      let (first, shell) := shell.expandPiece run expand piece
      let (rest, shell) := expandFrom run depth word shell
      (first ++ rest, shell)

/-- How many pieces a word may have, those of words inside of it included on the way down. -/
def wordLimit : Nat := 20000

def expand (run : Substitution) : Expander :=
  expandFrom run wordLimit

def isAssignment (dialect : Dialect) (word : Word) : Bool :=
  (Script.Grammar.assignment? dialect word).isSome

def textOf (run : Substitution) (word : Word) (shell : Shell) : String × Shell :=
  let (stretches, shell) := expand run (Tilde.word shell word) shell
  (Stretch.joined stretches, shell)

def valueText (run : Substitution) (word : Word) (shell : Shell) : String × Shell :=
  let (stretches, shell) := expand run (Tilde.value shell true word) shell
  (Stretch.joined stretches, shell)

/-- A word as a pattern, in which quoted characters stand for themselves. -/
def patternOf (run : Substitution) (hasChoices : Bool) (word : Word) (shell : Shell) :
    Pattern × Shell :=
  let (stretches, shell) := expand run (Tilde.word shell word) shell
  (Pattern.ofGlyphs hasChoices (stretches.flatMap Stretch.glyphs), shell)

def globManner (shell : Shell) : GlobManner where
  hasChoices := shell.manner.hasPatternLists
  showsHidden := shell.hasSetting "dotglob"
  ignoresCase := shell.hasSetting "nocaseglob"
  goesDeep := shell.hasSetting "globstar"
  mayVanish := shell.hasSetting "nullglob"

def globbed (fields : List (List Pattern.Glyph)) (shell : Shell) : List String × Shell :=
  if shell.hasOption 'f' then (fields.map glyphText, shell)
  else
    let manner := shell.globManner
    let unmatched := fields.find? fun field =>
      Glob.isActive manner field
        && (Glob.expandField { manner with mayVanish := true } shell.tree field).isEmpty
    match shell.hasSetting "failglob", unmatched with
    | true, some field => ([], shell.abort ("no match: " ++ glyphText field))
    | _, _ => (fields.flatMap (Glob.expandField manner shell.tree), shell)

def wordFields (run : Substitution) (word : Word) (shell : Shell) : List String × Shell :=
  let word :=
    if shell.isExtended && isAssignment .extended word then Tilde.assignment shell word
    else Tilde.word shell word
  let (stretches, shell) := expand run word shell
  if shell.isStopped then ([], shell)
  else globbed (Stretch.fields shell.separators stretches) shell

/-- An assignment among the words of a command, which stays in one piece. -/
def assignmentText (run : Substitution) (word : Word) (shell : Shell) : String × Shell :=
  let (stretches, shell) := expand run (Tilde.assignment shell word) shell
  (Stretch.joined stretches, shell)

def braceWords (shell : Shell) (word : Word) : List Word :=
  if shell.hasOption 'B' then Brace.words word else [word]

/-- The fields of words, in order. Words that `keepsWhole` picks out stay in one piece. -/
def fieldsOf (run : Substitution) (keepsWhole : Word → Bool) (words : List Word) (shell : Shell) :
    List String × Shell :=
  words.foldl
    (fun (fields, shell) word =>
      (shell.braceWords word).foldl
        (fun (fields, shell) word =>
          if shell.isStopped then (fields, shell)
          else if keepsWhole word then
            let (text, shell) := assignmentText run word shell
            (fields ++ [text], shell)
          else
            let (more, shell) := wordFields run word shell
            (fields ++ more, shell))
        (fields, shell))
    ([], shell)

/-- How many values may stand in parentheses. -/
def listLimit : Nat := 100000

def listItems (run : Substitution) (text : String) (shell : Shell) : List ListItem × Shell :=
  (Script.listWords shell.manner listLimit text.toList).foldl
    (fun (items, shell) word =>
      if shell.isStopped then (items, shell)
      else
        match word with
        | .element "" subscript :: value =>
          let (key, shell) := innerText (expand run) subscript shell
          let (text, shell) := valueText run value shell
          (items ++ [(some key, text)], shell)
        | word =>
          let (fields, shell) := fieldsOf run (fun _ => false) [word] shell
          (items ++ fields.map fun field => (none, field), shell))
    ([], shell)

end DtoGen.Shell

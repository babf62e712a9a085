import DtoGen.Machine.Expansion.Field
import DtoGen.Machine.FileTree

namespace DtoGen

namespace FileTree

def names (tree : FileTree) (directory : Path) : List String :=
  match tree.locate? directory with
  | some place =>
    let below := tree.entries.filterMap fun entry =>
      if entry.1.dropLast = place && entry.1 ≠ [] then entry.1.getLast? else none
    below.mergeSort fun a b => decide (a ≤ b)
  | none => []

def isHidden (name : String) : Bool :=
  name.toList.head? == some '.'

end FileTree

/-- How patterns for paths are taken. -/
structure GlobManner where
  hasChoices : Bool
  showsHidden : Bool
  ignoresCase : Bool
  /-- Whether two stars stand for directories of any depth. -/
  goesDeep : Bool
  /-- Whether a pattern that nothing fits gives way to nothing. -/
  mayVanish : Bool
deriving DecidableEq, Repr

namespace Glob

def isActive (manner : GlobManner) (glyphs : List Pattern.Glyph) : Bool :=
  Pattern.isActive glyphs || (manner.hasChoices && Pattern.hasChoice glyphs)

def folded (manner : GlobManner) (c : Char) : Char :=
  if manner.ignoresCase then c.toLower else c

/-- The names in a directory that fit a pattern; hidden ones have to be asked for. -/
def namesMatching (manner : GlobManner) (tree : FileTree) (start : String)
    (segment : List Pattern.Glyph) : List String :=
  let directory : Path := ⟨if start = "" then "." else start⟩
  let asksHidden := manner.showsHidden || segment.head?.any fun glyph => glyph.1 == '.'
  let pattern := Pattern.ofGlyphs manner.hasChoices
    (segment.map fun (c, isQuoted) => (folded manner c, isQuoted))
  (tree.names directory).filter fun name =>
    (!FileTree.isHidden name || asksHidden)
      && Pattern.matchesText pattern (name.toList.map (folded manner))

/-- The directories below a start, itself included. The first argument bounds the depth. -/
def directoriesBelow (manner : GlobManner) (tree : FileTree) : Nat → String → List String
  | 0, _ => []
  | depth + 1, start =>
    let inner := (tree.names ⟨if start = "" then "." else start⟩).filter fun name =>
      (manner.showsHidden || !FileTree.isHidden name)
        && (tree.findAt? ⟨start ++ name⟩).any Entry.isDirectory
    start :: inner.flatMap fun name => directoriesBelow manner tree depth (start ++ name ++ "/")

def depthLimit : Nat := 64

def isDeep (manner : GlobManner) (segment : List Pattern.Glyph) : Bool :=
  manner.goesDeep && segment == [('*', false), ('*', false)]

def expandSegments (manner : GlobManner) (tree : FileTree) (start : String) :
    List (List Pattern.Glyph) → List String
  | [] => [start]
  | [segment] =>
    if isDeep manner segment then
      (directoriesBelow manner tree depthLimit start).flatMap fun directory =>
        (namesMatching manner tree directory [('*', false)]).map (directory ++ ·)
    else if isActive manner segment then
      (namesMatching manner tree start segment).map (start ++ ·)
    else
      let path := start ++ glyphText segment
      if (tree.findAt? ⟨path⟩).isSome then [path] else []
  | segment :: rest =>
    if isDeep manner segment then
      (directoriesBelow manner tree depthLimit start).flatMap fun directory =>
        expandSegments manner tree directory rest
    else
      let starts := if isActive manner segment then namesMatching manner tree start segment
        else [glyphText segment]
      starts.flatMap fun name => expandSegments manner tree (start ++ name ++ "/") rest

/-- A pattern that no file fits stands for itself, unless it may vanish. -/
def expandField (manner : GlobManner) (tree : FileTree) (field : List Pattern.Glyph) :
    List String :=
  if !isActive manner field then [glyphText field]
  else
    match expandSegments manner tree "" (field.splitOnP fun glyph => glyph.1 == '/') with
    | [] => if manner.mayVanish then [] else [glyphText field]
    | paths =>
      if manner.goesDeep then paths.mergeSort fun a b => decide (a ≤ b) else paths

end Glob

end DtoGen

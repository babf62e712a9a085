import DtoGen.Machine.Pattern

namespace DtoGen

inductive Stretch
  | fixed (text : String) (isQuoted : Bool)
  /-- A value that was not quoted. -/
  | value (text : String)
  /-- The place between two arguments that stay apart, and what joins them elsewhere. -/
  | boundary (joint : String)
deriving DecidableEq, Repr

namespace Stretch

def text : Stretch → String
  | fixed text _ | value text | boundary text => text

def glyphs : Stretch → List Pattern.Glyph
  | fixed text isQuoted => text.toList.map fun c => (c, isQuoted)
  | value text | boundary text => text.toList.map fun c => (c, false)

/-- Unquoted text of a default is treated as a value. -/
def asValue : Stretch → Stretch
  | fixed text false => value text
  | stretch => stretch

def joined (stretches : List Stretch) : String :=
  String.join (stretches.map text)

def ofText (isQuoted : Bool) (text : String) : Stretch :=
  if isQuoted then fixed text true else value text

end Stretch

/-- Fields that are complete, and the one that is being filled, if any. -/
structure FieldDraft where
  fields : List (List Pattern.Glyph)
  current : Option (List Pattern.Glyph)
  /-- Whether a blank has just ended a field. -/
  afterBlank : Bool

namespace FieldDraft

def start : FieldDraft :=
  ⟨[], none, false⟩

def append (glyphs : List Pattern.Glyph) (draft : FieldDraft) : FieldDraft :=
  { draft with current := some (draft.current.getD [] ++ glyphs), afterBlank := false }

def close (afterBlank : Bool) (draft : FieldDraft) : FieldDraft :=
  match draft.current with
  | some field => ⟨draft.fields ++ [field], none, afterBlank⟩
  | none => draft

def isBlank (c : Char) : Bool :=
  c == ' ' || c == '\t' || c == '\n'

/-- Blanks separate together, and any other separator ends a field that may be empty. -/
def addChar (separators : List Char) (draft : FieldDraft) (c : Char) : FieldDraft :=
  if !separators.contains c then draft.append [(c, false)]
  else if isBlank c then draft.close true
  else if draft.current.isSome then draft.close false
  else if draft.afterBlank then { draft with afterBlank := false }
  else (draft.append []).close false

def add (separators : List Char) (draft : FieldDraft) : Stretch → FieldDraft
  | .fixed text isQuoted =>
    if text = "" && !isQuoted then draft
    else draft.append (Stretch.glyphs (.fixed text isQuoted))
  | .value text => text.toList.foldl (addChar separators) draft
  | .boundary _ => { draft.close false with afterBlank := false }

end FieldDraft

def Stretch.fields (separators : List Char) (stretches : List Stretch) :
    List (List Pattern.Glyph) :=
  ((stretches.foldl (FieldDraft.add separators) .start).close false).fields

def glyphText (glyphs : List Pattern.Glyph) : String :=
  String.ofList (glyphs.map Prod.fst)

end DtoGen

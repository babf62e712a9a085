import DtoGen.Toml.Quoted
import DtoGen.Toml.Tree

namespace DtoGen.Toml

/-- Behind a comment; the line end stays. -/
def skipComment : List Char → Option (List Char)
  | '#' :: rest =>
    let after := rest.dropWhile isTextChar
    if after.isEmpty || (newline? after).isSome then some after else none
  | cs => some cs

/-- Blanks, comments and line ends. -/
def skipLines : Nat → List Char → Option (List Char)
  | 0, cs => some cs
  | fuel + 1, cs => do
    let cs ← skipComment (cs.dropWhile isInlineBlank)
    match newline? cs with
    | some rest => skipLines fuel rest
    | none => some cs

def skipSpace (cs : List Char) : Option (List Char) :=
  skipLines (cs.length + 1) cs

/-- The rest of a line that has nothing more to say. -/
def endLine (cs : List Char) : Option (List Char) := do
  match ← skipComment (cs.dropWhile isInlineBlank) with
  | [] => some []
  | cs => newline? cs

/-- How deep arrays and inline tables may be nested. -/
def depthLimit : Nat := 80

/-- Elements up to the closing bracket; `element` reads one of them. -/
def arrayItems (element : Parser Toml) : Nat → Parser (List Toml)
  | 0, _ => none
  | fuel + 1, cs => do
    match ← skipSpace cs with
    | ']' :: rest => some ([], rest)
    | cs =>
      let (item, cs) ← element cs
      match ← skipSpace cs with
      | ',' :: rest =>
        let (items, rest) ← arrayItems element fuel rest
        some (item :: items, rest)
      | ']' :: rest => some ([item], rest)
      | _ => none

/-- Behind the equals sign of `key = value`; `skip` passes over what may stand around the sign. -/
def afterKey (skip : List Char → Option (List Char)) : Parser (List String) := fun cs => do
  let (key, cs) ← dottedKey cs
  match ← skip cs with
  | '=' :: rest => some (key, ← skip rest)
  | _ => none

def skipBlanks (cs : List Char) : Option (List Char) :=
  some (cs.dropWhile isInlineBlank)

def tableEntries (element : Parser Toml) : Nat → Entries → Parser Entries
  | 0, _, _ => none
  | fuel + 1, entries, cs => do
    match ← skipSpace cs with
    | '\x7d' :: rest => some (entries, rest)
    | cs =>
      let (key, cs) ← afterKey skipSpace cs
      let (value, cs) ← element cs
      let entries ← entries.insertDotted value key
      match ← skipSpace cs with
      | ',' :: rest => tableEntries element fuel entries rest
      | '\x7d' :: rest => some (entries, rest)
      | _ => none

def quotedValue (read : List Char × List Char) : Toml × List Char :=
  (.text (String.ofList read.1), read.2)

/-- `depth` levels of brackets are still allowed. -/
def value : Nat → Parser Toml
  | depth, '[' :: cs =>
    match depth with
    | 0 => none
    | depth + 1 => (arrayItems (value depth) cs.length cs).map fun (items, rest) =>
      (.array items, rest)
  | depth, '\x7b' :: cs =>
    match depth with
    | 0 => none
    | depth + 1 => (tableEntries (value depth) cs.length [] cs).map fun (entries, rest) =>
      (.table (entriesToToml entries), rest)
  | _, '"' :: cs => (quoted ('"' :: cs)).map quotedValue
  | _, '\'' :: cs => (quoted ('\'' :: cs)).map quotedValue
  | _, cs => scalar cs

/-- The keys of a header up to its closing bracket. -/
def headerKeys : Parser (List String) := fun cs => do
  match ← dottedKey (cs.dropWhile isInlineBlank) with
  | (keys, ']' :: rest) => some (keys, rest)
  | _ => none

/-- What has been read so far, and the header of the table that is being filled. -/
structure Draft where
  root : Entries
  header : List String

namespace Draft

/-- Applies `change` at the last key of a header and makes its table the one to be filled. -/
def open? (draft : Draft) (change : String → Entries → Option Entries) (header : List String) :
    Option Draft := do
  let key ← header.getLast?
  some ⟨← draft.root.atHeader (change key) header.dropLast, header⟩

def insert? (draft : Draft) (key : List String) (value : Toml) : Option Draft := do
  some { draft with root := ← draft.root.atHeader (Entries.insertDotted value key) draft.header }

end Draft

/-- One line that is not blank. -/
def line (draft : Draft) (cs : List Char) : Option (Draft × List Char) := do
  match cs with
  | '[' :: '[' :: cs =>
    let (header, rest) ← headerKeys cs
    match rest with
    | ']' :: rest => some (← draft.open? Entries.openElement header, rest)
    | _ => none
  | '[' :: cs =>
    let (header, rest) ← headerKeys cs
    some (← draft.open? Entries.openTable header, rest)
  | _ =>
    let (key, cs) ← afterKey skipBlanks cs
    let (value, rest) ← value depthLimit cs
    some (← draft.insert? key value, rest)

def lines : Nat → Draft → List Char → Option Draft
  | 0, _, _ => none
  | fuel + 1, draft, cs => do
    match ← skipSpace cs with
    | [] => some draft
    | cs =>
      let (draft, rest) ← line draft cs
      lines fuel draft (← endLine rest)

/-- The entries of a document's root table. A byte order mark in front does not count. -/
def parse (text : String) : Option (List (String × Toml)) :=
  let cs := text.toList
  let cs := if cs.head? = some (Char.ofNat 0xFEFF) then cs.tail else cs
  (lines (cs.length + 1) ⟨[], []⟩ cs).map fun draft => entriesToToml draft.root

end DtoGen.Toml

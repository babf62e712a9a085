import DtoGen.Machine.Tool.Directory

namespace DtoGen.Tool

structure ListedItem where
  name : String
  place : Place
  entry : Entry

namespace ListedItem

def mark (a : Arguments) (item : ListedItem) : String :=
  match item.entry with
  | .directory => if a.hasAny ["F", "p"] then "/" else ""
  | .link _ => if a.has "F" && !a.has "l" then "@" else ""
  | .file _ mode => if a.has "F" && Entry.allowsExecution mode then "*" else ""
  | .program _ => if a.has "F" then "*" else ""
  | .device _ => ""

def colour? (item : ListedItem) : Option String :=
  match item.entry with
  | .directory => some "01;34"
  | .link _ => some "01;36"
  | .device _ => some "40;33;01"
  | .program _ => some "01;32"
  | .file _ mode => if Entry.allowsExecution mode then some "01;32" else none

def escaped (code : String) : String :=
  "\x1b[" ++ code ++ "m"

def isColoured (a : Arguments) : Bool :=
  (a.value? "color").any fun value => ["", "always", "yes", "force"].contains value

def shownName (a : Arguments) (item : ListedItem) : String :=
  let name := if a.has "Q" then "\"" ++ item.name ++ "\"" else item.name
  match (colour? item).filter fun _ => isColoured a with
  | some code => escaped code ++ name ++ escaped "0"
  | none => name

end ListedItem

def sizeText (a : Arguments) (size : Nat) : String :=
  if !a.has "h" || size < 1024 then toString size
  else
    let units : List (String × Nat) :=
      [("K", 1024), ("M", 1048576), ("G", 1073741824), ("T", 1099511627776)]
    let fitting := units.filter fun unit => unit.2 ≤ size
    let (letter, unit) := fitting.getLastD ("K", 1024)
    let tenths := (size * 10 + unit - 1) / unit
    if tenths < 100 then toString (tenths / 10) ++ "." ++ toString (tenths % 10) ++ letter
    else toString ((size + unit - 1) / unit) ++ letter

def listedTime : String :=
  "Jan  1 00:00"

def longLines (a : Arguments) (tree : FileTree) (items : List ListedItem) : List String :=
  let links (item : ListedItem) : String := toString (linkCount tree item.place item.entry)
  let size (item : ListedItem) : String := sizeText a item.entry.size
  let widest (f : ListedItem → String) : Nat :=
    items.foldl (fun n item => max n (f item).length) 0
  let owner := if a.has "n" then "0" else "root"
  let linkWidth := widest links
  let sizeWidth := widest size
  items.map fun item =>
    let target := match item.entry with
      | .link target => " -> " ++ target
      | _ => ""
    let columns := [
        String.singleton item.entry.kindLetter ++ modeText item.entry.mode,
        padLeft linkWidth (links item) ]
      ++ (if a.has "g" then [] else [owner]) ++ (if a.hasAny ["o", "G"] then [] else [owner])
      ++ [padLeft sizeWidth (size item), listedTime, item.shownName a ++ item.mark a ++ target]
    " ".intercalate columns

def lineWidth : Nat := 80

def tabWidth : Nat := 8

/-- Blanks and tabs from one column to another one. The first argument bounds their number. -/
def indentation : Nat → Nat → Nat → String
  | 0, _, _ => ""
  | bound + 1, start, stop =>
    if stop ≤ start then ""
    else if stop / tabWidth > (start + 1) / tabWidth then
      "\t" ++ indentation bound (start - start % tabWidth + tabWidth) stop
    else " " ++ indentation bound (start + 1) stop

/-- The widths of columns for a number of them, where cells go down the columns or along the
rows. -/
def columnWidths (isDown : Bool) (cells : List String) (columns : Nat) : List Nat :=
  let rows := (cells.length + columns - 1) / columns
  let column (n : Nat) : Nat := if isDown then n / rows else n % columns
  (List.range columns).map fun c =>
    cells.zipIdx.foldl
      (fun width (cell, n) => if column n = c then max width (cell.length + 2) else width) 3

def columnLines (isDown : Bool) (cells : List String) : List String :=
  let most := max 1 (min cells.length (lineWidth / 3))
  let fits (columns : Nat) : Bool :=
    (columnWidths isDown cells columns).foldl (· + ·) 0 - 2 < lineWidth - 1
  let columns := (((List.range most).map fun n => most - n).find? fits).getD 1
  let widths := columnWidths isDown cells columns
  let rows := (cells.length + columns - 1) / columns
  (List.range rows).map fun row =>
    let indices := (List.range columns).filterMap fun c =>
      let n := if isDown then c * rows + row else row * columns + c
      if isDown && rows ≤ row then none else (cells[n]?).map fun cell => (c, cell)
    let text := indices.foldl
      (fun (state : String × Nat × Nat) (c, cell) =>
        let (line, position, start) := state
        let line := line ++ indentation lineWidth position start ++ cell
        (line, start + cell.length, start + widths.getD c 3))
      ("", 0, 0)
    text.1

/-- Cells with commas behind them, in lines that are not too long. -/
def commaLines : List String → List String
  | [] => []
  | cell :: cells =>
    let step (state : List String × String) (cell : String) : List String × String :=
      let (done, line) := state
      if line.length + 2 + cell.length < lineWidth - 1 then (done, line ++ ", " ++ cell)
      else (done ++ [line ++ ","], cell)
    let (done, line) := cells.foldl step ([], cell)
    done ++ [line]

def sortItems (a : Arguments) (items : List ListedItem) : List ListedItem :=
  let byName := items.mergeSort fun x y => decide (x.name ≤ y.name)
  let sortsBySize := a.has "S" || a.value? "sort" == some "size"
  let extension (name : String) : String :=
    let cs := name.toList
    if cs.contains '.' then String.ofList (cs.reverse.takeWhile (· != '.')).reverse else ""
  let sorted :=
    if a.hasAny ["U", "f"] then items
    else if sortsBySize then byName.mergeSort fun x y => decide (y.entry.size ≤ x.entry.size)
    else if a.has "X" then
      byName.mergeSort fun x y => decide (extension x.name ≤ extension y.name)
    else byName
  if a.has "r" then sorted.reverse else sorted

def itemLines (a : Arguments) (tree : FileTree) (items : List ListedItem) : List String :=
  let cell (item : ListedItem) : String :=
    let blocks := if a.has "s" then toString item.entry.blocks ++ " " else ""
    let number := if a.has "i" then toString (1000 + item.place.length) ++ " " else ""
    number ++ blocks ++ item.shownName a ++ item.mark a
  let isLong := a.hasAny ["l", "n", "g", "o"]
  if isLong then longLines a tree items
  else if a.has "m" then commaLines (items.map cell)
  else if a.has "C" then columnLines true (items.map cell)
  else if a.has "x" then columnLines false (items.map cell)
  else items.map cell

def isIgnored (a : Arguments) (name : String) : Bool :=
  let fits (pattern : String) : Bool :=
    Pattern.matchesText (.ofText pattern) name.toList
  (a.values "I").any fits || ((a.values "hide").any fits && !a.hasAny ["a", "A"])
    || (a.has "B" && name.endsWith "~")

def directoryItems (a : Arguments) (tree : FileTree) (place : Place) : List ListedItem :=
  let names := (tree.namesAt place).filter fun name =>
    (a.hasAny ["a", "A", "f"] || !FileTree.isHidden name) && !isIgnored a name
  let inner := names.filterMap fun name =>
    (tree.entry? (place ++ [name])).map fun entry => ListedItem.mk name (place ++ [name]) entry
  let own : List ListedItem := if a.hasAny ["a", "f"] then
      [⟨".", place, .directory⟩, ⟨"..", place.dropLast, .directory⟩] else []
  sortItems a (own ++ inner)

def directoryLines (a : Arguments) (tree : FileTree) (place : Place) : List String :=
  let items := directoryItems a tree place
  let total := (items.map fun item => item.entry.blocks).foldl (· + ·) 0
  let title := if a.hasAny ["l", "s", "n", "g", "o"] then ["total " ++ toString total] else []
  title ++ itemLines a tree items

/-- The directories below a place, with the paths that they are shown by. -/
def directoriesBelow (a : Arguments) (tree : FileTree) : Nat → String → Place →
    List (String × Place)
  | 0, _, _ => []
  | depth + 1, shown, place =>
    let inner := (directoryItems a tree place).filter fun item =>
      item.entry.isDirectory && item.name != "." && item.name != ".."
    (shown, place) :: inner.flatMap fun item =>
      let path := if shown.endsWith "/" then shown ++ item.name else shown ++ "/" ++ item.name
      directoriesBelow a tree depth path item.place

def lsGrammar : Grammar :=
  grammar ["a|all", "A|almost-all", "1", "d|directory", "l", "F|classify?", "p|file-type", "r|reverse",
    "R|recursive", "S", "t", "U", "f", "h|human-readable", "m", "x", "C", "Q|quote-name", "i|inode",
    "s|size", "n|numeric-uid-gid", "g", "o", "G|no-group", "B|ignore-backups", "I|ignore=", "hide=",
    "color?", "X", "v", "c", "u", "N|literal", "q", "b|escape", "L|dereference", "H", "sort=",
    "time=", "time-style=", "w|width=", "full-time", "group-directories-first", "k", "Z",
    "indicator-style=", "format=", "si"]

def ls : Shell.Command :=
  withArguments lsGrammar 2 fun a shell =>
    let tree := shell.tree
    let operands := if a.operands.isEmpty then ["."] else a.operands
    let follows := !a.hasAny ["l", "d", "F"] || a.has "L"
    let find (operand : String) : Option ListedItem := do
      let linked := (tree.find? ⟨operand⟩).filter fun entry => follows && entry.isDirectory
      match linked with
      | some entry => some ⟨operand, ← tree.locate? ⟨operand⟩, entry⟩
      | none => some ⟨operand, ← tree.placeOf? ⟨operand⟩, ← tree.findAt? ⟨operand⟩⟩
    let isListed (item : ListedItem) : Bool := item.entry.isDirectory && !a.has "d"
    let shell := (operands.filter fun operand => (find operand).isNone).foldl
      (fun shell operand =>
        fail ("cannot access " ++ quoted operand ++ ": " ++ tree.absence ⟨operand⟩) 2 shell)
      shell
    let found := sortItems a (operands.filterMap find)
    let files := found.filter fun item => !isListed item
    let starts := (found.filter isListed).map fun item => (item.name, item.place)
    let directories := if a.has "R" then
        starts.flatMap fun (shown, place) => directoriesBelow a tree 200 shown place
      else starts
    let isTitled := operands.length > 1 || a.has "R"
    let groups := directories.map fun (shown, place) =>
      (if isTitled then [shown ++ ":"] else []) ++ directoryLines a tree place
    let groups := (if files.isEmpty then [] else [itemLines a tree files]) ++ groups
    let text := String.join (([""].intercalate groups).map (· ++ "\n"))
    let isMarked := ListedItem.isColoured a && text.toList.contains '\x1b'
    shell.say (if isMarked then ListedItem.escaped "0" ++ text else text)

end DtoGen.Tool

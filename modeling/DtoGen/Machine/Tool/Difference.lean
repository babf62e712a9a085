import DtoGen.Machine.Tool.Tree
import DtoGen.Machine.Tool.Input

namespace DtoGen.Tool

def octalText (b : UInt8) : String :=
  padLeft 3 (String.ofList (Nat.toDigits 8 b.toNat))

/-- The first place where two texts differ, and the bytes there. -/
def firstDifference : Nat → Bytes → Bytes → Option (Nat × UInt8 × UInt8)
  | place, x :: xs, y :: ys => if x = y then firstDifference (place + 1) xs ys else some (place, x, y)
  | _, _, _ => none

def visibleByte (b : UInt8) : String :=
  let low (b : UInt8) : String :=
    if b < 32 then "^" ++ String.singleton (Char.ofNat (b.toNat + 64))
    else if b = 127 then "^?" else String.singleton (Char.ofNat b.toNat)
  if b < 128 then low b else "M-" ++ low (b - 128)

def cmp : Shell.Command := fun arguments shell =>
  let hint := "cmp: Try 'cmp --help' for more information."
  match parse (grammar ["b|print-bytes", "i|ignore-initial=", "l|verbose", "n|bytes=",
      "s|quiet|silent"]) arguments with
  | .error fault => (fail fault.message 2 shell).warn hint
  | .ok a =>
    let shell := shell.finish 0
    match a.operands with
    | [] => (fail "missing operand after 'cmp'" 2 shell).warn hint
    | first :: rest =>
      let second := rest.headD "-"
      let read (operand : String) (shell : Shell) : Option ByteArray × Shell :=
        if operand = "-" then
          let (content, shell) := takeAll 0 shell
          (some content, shell)
        else
          match fileContent operand shell with
          | (.ok content, shell) => (some content, shell)
          | (.error reason, shell) =>
            (none, if a.has "s" then shell.finish 2 else fail (becauseOf operand reason) 2 shell)
      let (one, shell) := read first shell
      let (two, shell) := if one.isNone then (none, shell) else read second shell
      match one, two with
      | some one, some two =>
        let skip := ((a.value? "i").bind sizeOf?).getD 0
        let cut (content : ByteArray) : Bytes :=
          let text := content.toList.drop skip
          ((a.value? "n").bind sizeOf?).elim text text.take
        let x := cut one
        let y := cut two
        let width := (toString (max x.length y.length)).length
        let shorter := if x.length < y.length then (first, x) else (second, y)
        let ended (shell : Shell) : Shell :=
          if x.length = y.length then shell
          else if a.has "s" then shell.finish 1
          else
            let (name, text) := shorter
            let size := text.length
            let place :=
              if size = 0 then " which is empty"
              else
                let line := text.count 10
                " after byte " ++ toString size ++
                  if a.has "l" then ""
                  else if text.getLast? = some 10 then ", line " ++ toString line
                  else ", in line " ++ toString (line + 1)
            (shell.finish 1).warn ("cmp: EOF on " ++ name ++ place)
        if a.has "l" then
          let pairs := ((x.zip y).zipIdx 1).filter fun ((p, q), _) => p != q
          let bytes (p : UInt8) (isFirst : Bool) : String :=
            let text := visibleByte p
            let fill := if isFirst then String.ofList (List.replicate (4 - text.length) ' ') else ""
            octalText p ++ if a.has "b" then " " ++ text ++ fill else ""
          let lines := pairs.map fun ((p, q), n) =>
            padLeft width (toString n) ++ " " ++ bytes p true ++ " " ++ bytes q false ++ "\n"
          let shell := shell.say (String.join lines)
          ended (if pairs.isEmpty then shell else shell.finish 1)
        else
          match firstDifference 1 x y with
          | none => ended shell
          | some (n, p, q) =>
            if a.has "s" then shell.finish 1
            else
              let line := (x.take (n - 1)).count 10 + 1
              let unit := if a.has "b" then "byte " else "char "
              let bytes :=
                if a.has "b" then " is " ++ octalText p ++ " " ++ visibleByte p ++ " "
                  ++ octalText q ++ " " ++ visibleByte q else ""
              (shell.finish 1).say (first ++ " " ++ second ++ " differ: " ++ unit ++ toString n
                ++ ", line " ++ toString line ++ bytes ++ "\n")
      | _, _ => shell

/-- A stretch of lines that are the same, taken away, or put in. -/
inductive Edit
  | keep
  | drop
  | add
deriving DecidableEq, Repr

/-- A row of a table of the lengths of common parts, given the row below it. -/
def commonRow (x : Bytes) : List Bytes → List Nat → List Nat
  | y :: ys, below =>
    let rest := commonRow x ys (below.drop 1)
    let n :=
      if x = y then (below[1]?).getD 0 + 1
      else max (below.headD 0) (rest.headD 0)
    n :: rest
  | [], _ => [0]

/-- The rows of the table, the first line of the text first. -/
def commonTable (ys : List Bytes) : List Bytes → List (List Nat)
  | [] => [List.replicate (ys.length + 1) 0]
  | x :: xs =>
    let rest := commonTable ys xs
    commonRow x ys (rest.headD []) :: rest

/-- The edits along the longest common part. -/
def editsAlong : List (List Nat) → List Bytes → List Bytes → List Edit
  | _, [], ys => ys.map fun _ => .add
  | _, xs, [] => xs.map fun _ => .drop
  | row :: below :: table, x :: xs, y :: ys =>
    if x = y then .keep :: editsAlong ((below.drop 1) :: table.map (List.drop 1)) xs ys
    else if (row.drop 1).headD 0 ≤ below.headD 0 then
      .drop :: editsAlong (below :: table) xs (y :: ys)
    else .add :: editsAlong ((row.drop 1) :: (below.drop 1) :: table.map (List.drop 1)) (x :: xs) ys
  | _, x :: xs, _ => (x :: xs).map fun _ => .drop
termination_by _ xs ys => xs.length + ys.length

/-- The edits that make one list of lines of another one. What both have at their ends is left out
of the search. -/
def editsOf (xs ys : List Bytes) : List Edit :=
  let front := ((xs.zip ys).takeWhile fun (x, y) => x == y).length
  let xs := xs.drop front
  let ys := ys.drop front
  let back := ((xs.reverse.zip ys.reverse).takeWhile fun (x, y) => x == y).length
  let xs := xs.take (xs.length - back)
  let ys := ys.take (ys.length - back)
  List.replicate front .keep ++ editsAlong (commonTable ys xs) xs ys ++ List.replicate back .keep

/-- A place where lines are taken away and put in: numbers of lines in front, and lines. -/
structure Hunk where
  left : Nat
  right : Nat
  dropped : List Bytes
  added : List Bytes

def hunksFrom : Nat → Nat → List Edit → List Bytes → List Bytes → Option Hunk → List Hunk
  | _, _, [], _, _, current => current.toList
  | n, m, edit :: edits, xs, ys, current =>
    let open_ := current.getD ⟨n, m, [], []⟩
    match edit with
    | .keep => current.toList ++ hunksFrom (n + 1) (m + 1) edits (xs.drop 1) (ys.drop 1) none
    | .drop =>
      hunksFrom (n + 1) m edits (xs.drop 1) ys
        (some { open_ with dropped := open_.dropped ++ xs.take 1 })
    | .add =>
      hunksFrom n (m + 1) edits xs (ys.drop 1)
        (some { open_ with added := open_.added ++ ys.take 1 })

/-- Moves a hunk that only takes away or only puts in lines as far down as the lines allow. The
first argument bounds the steps. -/
def slid (xs ys : List Bytes) (limit : Nat) : Nat → Hunk → Hunk
  | 0, h => h
  | bound + 1, h =>
    match h.dropped, h.added with
    | first :: rest, [] =>
      match xs[h.left + h.dropped.length]? with
      | some next =>
        if next = first && h.left + h.dropped.length < limit then
          slid xs ys limit bound ⟨h.left + 1, h.right + 1, rest ++ [next], []⟩
        else h
      | none => h
    | [], first :: rest =>
      match ys[h.right + h.added.length]? with
      | some next =>
        if next = first && h.left < limit then
          slid xs ys limit bound ⟨h.left + 1, h.right + 1, [], rest ++ [next]⟩
        else h
      | none => h
    | _, _ => h

/-- Moves each hunk down, but not into the next one. -/
def slideAll (xs ys : List Bytes) : List Hunk → List Hunk
  | [] => []
  | h :: hs =>
    let limit := (hs.head?.map Hunk.left).getD xs.length
    slid xs ys limit (xs.length + ys.length) h :: slideAll xs ys hs

def lineRange (start count : Nat) : String :=
  if count ≤ 1 then toString (start + count)
  else toString (start + 1) ++ "," ++ toString (start + count)

/-- Lines with a mark in front. The last one tells if it has no end. -/
def markedText (mark : String) (isOpen : Bool) (lines : List Bytes) : Bytes :=
  lines.flatMap (fun line => textBytes mark ++ line ++ [10])
    ++ if isOpen then textBytes "\\ No newline at end of file\n" else []

/-- Two texts as lines, and whether the last line of each has no end. -/
structure TextPair where
  left : List Bytes
  right : List Bytes
  leftOpen : Bool
  rightOpen : Bool

def normalHunk (pair : TextPair) (h : Hunk) : Bytes :=
  let letter := if h.dropped.isEmpty then "a" else if h.added.isEmpty then "d" else "c"
  let leftEnds := pair.leftOpen && h.left + h.dropped.length = pair.left.length
    && !h.dropped.isEmpty
  let rightEnds := pair.rightOpen && h.right + h.added.length = pair.right.length
    && !h.added.isEmpty
  textBytes (lineRange h.left h.dropped.length ++ letter ++ lineRange h.right h.added.length
      ++ "\n")
    ++ markedText "< " leftEnds h.dropped
    ++ (if letter = "c" then textBytes "---\n" else [])
    ++ markedText "> " rightEnds h.added

/-- Hunks that are so near that their context touches. -/
def nearHunks (context : Nat) : List Hunk → List (List Hunk)
  | [] => []
  | h :: hs =>
    match nearHunks context hs with
    | (next :: more) :: groups =>
      if next.left ≤ h.left + h.dropped.length + 2 * context then (h :: next :: more) :: groups
      else [h] :: (next :: more) :: groups
    | groups => [h] :: groups

def unifiedRange (start count : Nat) : String :=
  if count = 1 then toString (start + 1)
  else toString (if count = 0 then start else start + 1) ++ "," ++ toString count

def unifiedGroup (pair : TextPair) (context : Nat) (group : List Hunk) : Bytes :=
  match group.head?, group.getLast? with
  | some first, some last =>
    let leftStart := first.left - context
    let rightStart := first.right - (first.left - leftStart)
    let behind := last.left + last.dropped.length
    let leftStop := min pair.left.length (behind + context)
    let rightStop := last.right + last.added.length + (leftStop - behind)
    let isLeftEnd (n : Nat) : Bool := pair.leftOpen && n == pair.left.length
    let isRightEnd (n : Nat) : Bool := pair.rightOpen && n == pair.right.length
    let same (start stop : Nat) : Bytes :=
      markedText " " (isLeftEnd stop && start < stop) ((pair.left.drop start).take (stop - start))
    let step (state : Nat × Bytes) (h : Hunk) : Nat × Bytes :=
      let (place, text) := state
      let stop := h.left + h.dropped.length
      (stop, text ++ same place h.left
        ++ markedText "-" (isLeftEnd stop && !h.dropped.isEmpty) h.dropped
        ++ markedText "+" (isRightEnd (h.right + h.added.length) && !h.added.isEmpty) h.added)
    let (place, text) := group.foldl step (leftStart, [])
    textBytes ("@@ -" ++ unifiedRange leftStart (leftStop - leftStart) ++ " +"
        ++ unifiedRange rightStart (rightStop - rightStart) ++ " @@\n")
      ++ text ++ same place leftStop
  | _, _ => []

/-- One side of a group with context: lines that go or come are marked. -/
def contextSide (isLeft : Bool) (lines : List Bytes) (isOpen : Bool) (start stop : Nat)
    (group : List Hunk) : Bytes :=
  let spanOf (h : Hunk) : Nat × List Bytes :=
    if isLeft then (h.left, h.dropped) else (h.right, h.added)
  let markOf (n : Nat) : String :=
    let holder := group.find? fun h =>
      let (first, own) := spanOf h
      first ≤ n && n < first + own.length
    match holder with
    | none => "  "
    | some h =>
      if !h.dropped.isEmpty && !h.added.isEmpty then "! " else if isLeft then "- " else "+ "
  (((lines.zipIdx).drop start).take (stop - start)).flatMap fun (line, n) =>
    markedText (markOf n) (isOpen && n + 1 == lines.length) [line]

def contextRange (start stop : Nat) : String :=
  if stop ≤ start + 1 then toString stop else toString (start + 1) ++ "," ++ toString stop

def contextGroup (pair : TextPair) (context : Nat) (group : List Hunk) : Bytes :=
  match group.head?, group.getLast? with
  | some first, some last =>
    let leftStart := first.left - context
    let rightStart := first.right - (first.left - leftStart)
    let behind := last.left + last.dropped.length
    let leftStop := min pair.left.length (behind + context)
    let rightStop := last.right + last.added.length + (leftStop - behind)
    let left := if group.all fun h => h.dropped.isEmpty then []
      else contextSide true pair.left pair.leftOpen leftStart leftStop group
    let right := if group.all fun h => h.added.isEmpty then []
      else contextSide false pair.right pair.rightOpen rightStart rightStop group
    textBytes ("***************\n*** " ++ contextRange leftStart leftStop ++ " ****\n") ++ left
      ++ textBytes ("--- " ++ contextRange rightStart rightStop ++ " ----\n") ++ right
  | _, _ => []

def diffGrammar : Grammar :=
  grammar ["q|brief", "s|report-identical-files", "u", "U|unified?", "c", "C|context?",
    "i|ignore-case", "w|ignore-all-space", "b|ignore-space-change", "B|ignore-blank-lines",
    "r|recursive", "N|new-file", "a|text", "label=", "normal", "e|ed", "y|side-by-side",
    "color?", "strip-trailing-cr", "Z|ignore-trailing-space", "x|exclude=", "p", "d|minimal",
    "L=", "no-dereference"]

def comparedLine (a : Arguments) (line : Bytes) : Bytes :=
  let isSpace (b : UInt8) : Bool := b == 32 || (9 ≤ b && b ≤ 13)
  let line := if a.has "i" then line.map fun b => if 65 ≤ b && b ≤ 90 then b + 32 else b else line
  if a.has "w" then line.filter fun b => !isSpace b
  else if a.has "b" then
    let words := (line.splitOnP isSpace).zipIdx.filter fun (word, n) => !word.isEmpty || n == 0
    ([32] : Bytes).intercalate (words.map Prod.fst)
  else if a.has "Z" then (line.reverse.dropWhile isSpace).reverse
  else line

/-- How many lines stand around what is told. -/
def contextOf (a : Arguments) : Nat :=
  (((a.value? "U").bind String.toNat?).or ((a.value? "C").bind String.toNat?)).getD 3

/-- The options as they are told in front of the names of files in directories. -/
def diffFlags (arguments : List String) : String :=
  String.join ((arguments.filter fun argument => argument.toList.head? == some '-').map
    fun argument => " " ++ argument)

/-- Compares two texts, and answers with the report unless they are the same. -/
def diffTexts (a : Arguments) (names : String × String) (one two : ByteArray) : Option Bytes :=
  let x := cutLines 10 one.toList
  let y := cutLines 10 two.toList
  let keyed (lines : List Line) : List Bytes := lines.map fun line =>
    comparedLine a line.bytes ++ if line.hasEnd then [10] else []
  let isOpen (lines : List Line) : Bool := lines.getLast?.any fun line => !line.hasEnd
  let pair : TextPair := ⟨x.map Line.bytes, y.map Line.bytes, isOpen x, isOpen y⟩
  let xs := keyed x
  let ys := keyed y
  if xs = ys then none
  else if a.has "q" then
    some (textBytes ("Files " ++ names.1 ++ " and " ++ names.2 ++ " differ\n"))
  else if !a.has "a" && (one.toList.contains 0 || two.toList.contains 0) then
    some (textBytes ("Binary files " ++ names.1 ++ " and " ++ names.2 ++ " differ\n"))
  else
    let keyedHunks := slideAll xs ys (hunksFrom 0 0 (editsOf xs ys) xs ys none)
    let hunks := keyedHunks.map fun h =>
      { h with
        dropped := (pair.left.drop h.left).take h.dropped.length
        added := (pair.right.drop h.right).take h.added.length }
    let isIdle (h : Hunk) : Bool := a.has "B" && (h.dropped ++ h.added).all List.isEmpty
    let hunks := hunks.filter fun h => !isIdle h
    let labels := a.values "label" ++ a.values "L"
    let stamped (name : String) : String := name ++ "\t2025-01-01 00:00:00.000000000 +0000"
    let left := (labels.head?).getD (stamped names.1)
    let right := (labels[1]?).getD (stamped names.2)
    let context := contextOf a
    if hunks.isEmpty then none
    else if a.hasAny ["u", "U"] then
      some (textBytes ("--- " ++ left ++ "\n+++ " ++ right ++ "\n")
        ++ (nearHunks context hunks).flatMap (unifiedGroup pair context))
    else if a.hasAny ["c", "C"] then
      some (textBytes ("*** " ++ left ++ "\n--- " ++ right ++ "\n")
        ++ (nearHunks context hunks).flatMap (contextGroup pair context))
    else some (hunks.flatMap (normalHunk pair))

def joinPath (directory name : String) : String :=
  if directory.endsWith "/" then directory ++ name else directory ++ "/" ++ name

mutual

/-- Compares two files or directories. The first argument bounds how deep these are. -/
def diffPaths (a : Arguments) (flags : String) (isInner : Bool) :
    Nat → String → String → Shell → Shell
  | 0, _, _, shell => shell
  | bound + 1, left, right, shell =>
    let isDirectory (path : String) : Bool :=
      path != "-" && (shell.tree.find? ⟨path⟩).any Entry.isDirectory
    match isDirectory left, isDirectory right with
    | true, true =>
      if isInner && !a.has "r" then
        shell.say ("Common subdirectories: " ++ left ++ " and " ++ right ++ "\n")
      else diffDirectories a flags bound left right shell
    | true, false =>
      if isInner then
        (shell.finish 1).say ("File " ++ left ++ " is a directory while file " ++ right
          ++ " is a regular file\n")
      else diffPaths a flags isInner bound (joinPath left (lastStep right)) right shell
    | false, true =>
      if isInner then
        (shell.finish 1).say ("File " ++ left ++ " is a regular file while file " ++ right
          ++ " is a directory\n")
      else diffPaths a flags isInner bound left (joinPath right (lastStep left)) shell
    | false, false =>
      let read (path : String) (shell : Shell) : Option ByteArray × Shell :=
        if path = "-" then
          let (content, shell) := takeAll 0 shell
          (some content, shell)
        else
          match fileContent path shell with
          | (.ok content, shell) => (some content, shell)
          | (.error reason, shell) =>
            if a.has "N" then (some ByteArray.empty, shell)
            else (none, fail (becauseOf path reason) 2 shell)
      let (one, shell) := read left shell
      let (two, shell) := read right shell
      match one, two with
      | some one, some two =>
        match diffTexts a (left, right) one two with
        | none =>
          if a.has "s" then
            shell.say ("Files " ++ left ++ " and " ++ right ++ " are identical\n")
          else shell
        | some report =>
          let shell := if shell.status = 0 then shell.finish 1 else shell
          let shell := if isInner && !a.has "q" then
            shell.say ("diff" ++ flags ++ " " ++ left ++ " " ++ right ++ "\n") else shell
          shell.write (ofBytes report)
      | _, _ => shell

def diffDirectories (a : Arguments) (flags : String) : Nat → String → String → Shell → Shell
  | 0, _, _, shell => shell
  | bound + 1, left, right, shell =>
    let namesOf (path : String) : List String := shell.tree.names ⟨path⟩
    let names := ((namesOf left ++ namesOf right).eraseDups).mergeSort fun x y => decide (x ≤ y)
    names.foldl
      (fun shell name =>
        let only (directory : String) : Shell :=
          (shell.finish (max shell.status 1)).say ("Only in " ++ directory ++ ": " ++ name ++ "\n")
        match (namesOf left).contains name, (namesOf right).contains name with
        | true, false => only left
        | false, true => only right
        | _, _ => diffPaths a flags true bound (joinPath left name) (joinPath right name) shell)
      shell

end

def diffDepth : Nat := 100

def diff : Shell.Command := fun arguments shell =>
  let hint := "diff: Try 'diff --help' for more information."
  match parse diffGrammar arguments with
  | .error fault => (fail fault.message 2 shell).warn hint
  | .ok a =>
    let shell := shell.finish 0
    match a.operands with
    | [left, right] => diffPaths a (diffFlags arguments) false diffDepth left right shell
    | [] => (fail "missing operand after 'diff'" 2 shell).warn hint
    | [only] => (fail ("missing operand after " ++ quoted only) 2 shell).warn hint
    | _ :: _ :: extra :: _ => (fail ("extra operand " ++ quoted extra) 2 shell).warn hint

end DtoGen.Tool

import DtoGen.Machine.Tool.Input

namespace DtoGen.Tool

structure Counts where
  lines : Nat
  words : Nat
  bytes : Nat
  width : Nat

namespace Counts

def zero : Counts :=
  ⟨0, 0, 0, 0⟩

def add (a b : Counts) : Counts :=
  ⟨a.lines + b.lines, a.words + b.words, a.bytes + b.bytes, max a.width b.width⟩

/-- The counts so far, the column of the current line, and whether a word is open. -/
structure Progress where
  counts : Counts
  column : Nat
  inWord : Bool

def step (p : Progress) (b : UInt8) : Progress :=
  let counts := { p.counts with bytes := p.counts.bytes + 1 }
  let ended (column : Nat) (counts : Counts) : Progress :=
    ⟨{ counts with words := counts.words + if p.inWord then 1 else 0 }, column, false⟩
  let widened := { counts with width := max counts.width p.column }
  if b = 10 then ended 0 { widened with lines := widened.lines + 1 }
  else if b = 13 || b = 12 then ended 0 widened
  else if b = 9 then ended (p.column + 8 - p.column % 8) counts
  else if b = 32 then ended (p.column + 1) counts
  else if b = 11 then ended p.column counts
  else if 32 < b && b < 127 then ⟨counts, p.column + 1, true⟩
  else { p with counts }

def ofText (text : Bytes) : Counts :=
  let p := text.foldl step ⟨zero, 0, false⟩
  { p.counts with
    words := p.counts.words + if p.inWord then 1 else 0
    width := max p.counts.width p.column }

def shown (a : Arguments) (counts : Counts) : List Nat :=
  let all := !a.hasAny ["l", "w", "c", "m", "L"]
  (if all || a.has "l" then [counts.lines] else [])
    ++ (if all || a.has "w" then [counts.words] else [])
    ++ (if a.has "m" then [counts.bytes] else [])
    ++ (if all || a.has "c" then [counts.bytes] else [])
    ++ if a.has "L" then [counts.width] else []

def line (a : Arguments) (width : Nat) (name : String) (counts : Counts) : String :=
  let columns := (shown a counts).map fun n => padLeft width (toString n)
  " ".intercalate columns ++ (if name = "" then "" else " " ++ name) ++ "\n"

end Counts

/-- How wide the columns are: as the sizes of the files need it, or seven places where something is
no file. -/
def countWidth (a : Arguments) (operands : List String) (shell : Shell) : Nat :=
  let kinds := operands.map fun operand =>
    if operand = "-" then (shell.sourceOf? 0).map Condition.ofSource
    else Condition.find? shell operand
  let isSingle := operands.length = 1 && (Counts.shown a Counts.zero).length = 1
  if isSingle || kinds.head?.all Option.isNone then 1
  else
    let sizes := kinds.map fun kind =>
      match kind with
      | some (.file size _) => size
      | _ => 0
    let isFile : Option Condition.Finding → Bool
      | some (.file _ _) | none => true
      | _ => false
    let width := (toString (sizes.foldl (· + ·) 0)).length
    if kinds.all isFile then width else max width 7

def wc : Shell.Command :=
  withArguments (grammar ["l|lines", "w|words", "c|bytes", "m|chars", "L|max-line-length",
      "files0-from="]) 1 fun a shell =>
    let operands := orInput a.operands
    let width := countWidth a operands shell
    let step (state : Counts × Shell) (operand : String) : Counts × Shell :=
      let (total, shell) := state
      let isDirectory := operand != "-" && (shell.tree.find? ⟨operand⟩).any Entry.isDirectory
      match content? .plain operand shell with
      | (some content, shell) =>
        let counts := Counts.ofText content.toList
        let name := if a.operands.isEmpty then "" else operand
        (total.add counts, shell.say (counts.line a width name))
      | (none, shell) =>
        (total, if isDirectory then shell.say (Counts.zero.line a width operand) else shell)
    let (total, shell) := operands.foldl step (Counts.zero, shell)
    if 1 < operands.length then shell.say (total.line a width "total") else shell

end DtoGen.Tool

import DtoGen.Machine.Launcher
import DtoGen.Machine.Redirection
import DtoGen.Machine.Tool.Input

namespace DtoGen.Tool

/-- An argument that was read, and whether its line ends behind it. -/
structure BatchItem where
  text : String
  endsLine : Bool
deriving DecidableEq, Repr

/-- Where the reader of arguments stands. -/
structure BatchDraft where
  items : List BatchItem
  current : Option Bytes
  quote : Option UInt8

namespace BatchDraft

def start : BatchDraft :=
  ⟨[], none, none⟩

def add (b : UInt8) (draft : BatchDraft) : BatchDraft :=
  { draft with current := some (b :: draft.current.getD []) }

def close (endsLine : Bool) (draft : BatchDraft) : BatchDraft :=
  match draft.current, draft.items with
  | some bs, items => { draft with items := ⟨shownText bs.reverse, endsLine⟩ :: items, current := none }
  | none, item :: items =>
    if endsLine then { draft with items := { item with endsLine } :: items } else draft
  | none, [] => draft

end BatchDraft

def isSpaceByte (b : UInt8) : Bool :=
  b == 32 || 9 ≤ b && b ≤ 13

def unmatchedQuote (b : UInt8) : String :=
  "unmatched " ++ (if b = 34 then "double" else "single")
    ++ " quote; by default quotes are special to xargs unless you use the -0 option"

/-- Reads arguments, with quotes and backslashes. Where lines are whole arguments, blanks in them
separate nothing. A blank at the end of a line makes the next one a part of it. The first argument
is the byte before. -/
def readItems (wholeLines : Bool) : UInt8 → BatchDraft → Bytes → Except String (List BatchItem)
  | _, draft, [] =>
    match draft.quote with
    | some q => .error (unmatchedQuote q)
    | none => .ok (draft.close true).items.reverse
  | before, draft, b :: bs =>
    match draft.quote with
    | some q =>
      if b = q then readItems wholeLines b { draft with quote := none } bs
      else if b = 10 then .error (unmatchedQuote q)
      else readItems wholeLines b (draft.add b) bs
    | none =>
      if b = 10 then readItems wholeLines b (draft.close (before != 32 && before != 9)) bs
      else if isSpaceByte b && (!wholeLines || draft.current.isNone) then
        readItems wholeLines b (draft.close false) bs
      else if b = 34 || b = 39 then
        readItems wholeLines b
          { draft with quote := some b, current := some (draft.current.getD []) } bs
      else if b = 92 then
        match bs with
        | c :: bs => readItems wholeLines 0 (draft.add c) bs
        | [] => readItems wholeLines 0 draft []
      else readItems wholeLines b (draft.add b) bs

def cutItems (mark : UInt8) (bs : Bytes) : List BatchItem :=
  (cutLines mark bs).map fun line => ⟨shownText line.bytes, true⟩

/-- So many lines at a time. -/
def lineGroups (count : Nat) (items : List BatchItem) : List (List String) :=
  let step (state : List (List String) × List String × Nat) (item : BatchItem) :=
    let (groups, group, lines) := state
    let group := item.text :: group
    let lines := if item.endsLine then lines + 1 else lines
    if lines = count then (group.reverse :: groups, [], 0) else (groups, group, lines)
  let (groups, group, _) := items.foldl step ([], [], 0)
  ((if group.isEmpty then [] else [group.reverse]) ++ groups).reverse

def sizedGroups (count : Nat) (texts : List String) : List (List String) :=
  (List.range ((texts.length + count - 1) / count)).map fun n => (texts.drop (n * count)).take count

/-- How the input is to be used. -/
structure BatchWish where
  mark : Option UInt8
  ending : Option String
  replaced : Option String
  lines : Option Nat
  count : Option Nat
  shows : Bool
  needsInput : Bool

def escapedByte? (text : String) : Option UInt8 :=
  match text.toList with
  | [c] => some (byteOf c)
  | ['\\', c] =>
    [('n', 10), ('t', 9), ('0', 0), ('\\', 92), ('r', 13), ('a', 7), ('b', 8), ('f', 12),
      ('v', 11)].lookup c
  | _ => none

def batchNumber (a : Arguments) (option : String) : Except String (Option Nat) :=
  match a.value? option with
  | none => .ok none
  | some text =>
    match text.toInt? with
    | none => .error ("invalid number \"" ++ text ++ "\" for -" ++ option ++ " option")
    | some i =>
      if i < 1 then
        .error ("value " ++ text ++ " for -" ++ option ++ " option should be >= 1")
      else .ok (some i.toNat)

def batchWish (a : Arguments) : Except String BatchWish := do
  let count ← batchNumber a "n"
  let bySign ← if a.value? "l" = some "" then .ok (some 1) else batchNumber a "l"
  let lines := (← batchNumber a "L").or bySign
  let replaced := (a.value? "I").or ((a.value? "i").map fun s => if s = "" then "\x7b\x7d" else s)
  let mark ← match a.has "0", a.value? "d" with
    | true, _ => .ok (some 0)
    | false, none => .ok none
    | false, some text =>
      match escapedByte? text with
      | some b => .ok (some b)
      | none => .error ("Invalid input delimiter specification " ++ text
        ++ ": the delimiter must be either a single character or an escape sequence starting with"
        ++ " \\.")
  return {
    mark
    ending := (a.value? "E").or ((a.value? "e").filter (· != ""))
    replaced, lines, count
    shows := a.has "t"
    needsInput := a.has "r" }

/-- The lists of arguments that the program is started with. -/
def batches (wish : BatchWish) (command : List String) (items : List BatchItem) :
    List (List String) :=
  let items :=
    match wish.ending, wish.mark with
    | some ending, none => items.takeWhile fun item => item.text != ending
    | _, _ => items
  match wish.replaced, wish.count, wish.lines with
  | some mark, _, _ =>
    items.map fun item => command.map fun word => word.replace mark item.text
  | none, some count, _ => rest ((sizedGroups count (items.map BatchItem.text)).map (command ++ ·))
  | none, none, some lines => rest ((lineGroups lines items).map (command ++ ·))
  | none, none, none =>
    if items.isEmpty then rest [] else [command ++ items.map BatchItem.text]
where
  rest (groups : List (List String)) : List (List String) :=
    if groups.isEmpty && !wish.needsInput then [command] else groups

/-- Starts one program after the other, up to one that tells to stop. -/
def runBatches (start : Shell.Starter) (shows : Bool) :
    List (List String) → Shell → Shell
  | [], shell => shell
  | command :: rest, shell =>
    let shell := if shows then
        shell.warn (" ".intercalate (command.map fun word =>
          if Quoting.hasMetas word || word = "" then Quoting.single word else word))
      else shell
    let program := command.headD ""
    match start program (command.drop 1) shell with
    | .error fault => fail (program ++ ": " ++ fault.reason) fault.status shell
    | .ok (.signal n, result) =>
      fail (program ++ ": terminated by signal " ++ toString n) 125 result
    | .ok (.code 0, result) => runBatches start shows rest result
    | .ok (.code 255, result) =>
      fail (program ++ ": exited with status 255; aborting") 124 result
    | .ok (.code _, result) => runBatches start shows rest (result.finish 123)

def xargs : Shell.Launcher := fun start arguments shell =>
  let known := frontGrammar
    ["0|null", "a|arg-file=", "d|delimiter=", "E=", "e|eof?", "I=", "i|replace?", "L=",
      "l|max-lines?", "n|max-args=", "P|max-procs=", "p|interactive", "r|no-run-if-empty",
      "s|max-chars=", "t|verbose", "x|exit", "o|open-tty", "show-limits", "process-slot-var="]
  match parse known arguments with
  | .error fault => settled (misuse fault.message 1 shell)
  | .ok a =>
    match batchWish a with
    | .error message => settled (misuse message 1 shell)
    | .ok wish =>
      let command := if a.operands.isEmpty then ["echo"] else a.operands
      let shell := shell.finish 0
      let source :=
        match a.value? "a" with
        | some path => fileContent path shell
        | none =>
          let (content, shell) := takeAll 0 shell
          (.ok content, shell.read 0 .device ByteArray.empty)
      match source with
      | (.error reason, shell) =>
        let path := (a.value? "a").getD ""
        settled (fail ("Cannot open input file " ++ quoted path ++ ": " ++ reason) 1 shell)
      | (.ok content, shell) =>
        let items :=
          match wish.mark with
          | some mark => Except.ok (cutItems mark content.toList)
          | none => readItems wish.replaced.isSome 0 .start content.toList
        match items with
        | .error message => settled (fail message 1 shell)
        | .ok items => settled (runBatches start wish.shows (batches wish command items) shell)

end DtoGen.Tool

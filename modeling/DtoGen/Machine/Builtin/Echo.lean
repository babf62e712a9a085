import DtoGen.Machine.Script.Word
import DtoGen.Machine.Shell

namespace DtoGen.Builtin

inductive EscapePlace
  | format
  /-- An argument of a format. -/
  | argument
  | echo
deriving DecidableEq, Repr

def octalDigit? (c : Char) : Option Nat :=
  Script.digitValue? 8 c

def octalByte (count : Nat) (cs : List Char) : ByteArray × List Char :=
  let (value, rest) := Script.number 8 0 count cs
  (⟨#[UInt8.ofNat value]⟩, rest)

def letterEscapes (dialect : Dialect) : List (Char × UInt8) :=
  let plain : List (Char × UInt8) :=
    [ ('a', 7), ('b', 8), ('e', 27), ('f', 12), ('n', 10), ('r', 13), ('t', 9), ('v', 11),
      ('\\', 92) ]
  match dialect with
  | .plain => plain
  | .extended => ('E', 27) :: plain

def hexText (width n : Nat) : List Char :=
  let ds := (Nat.toDigits 16 n).map Char.toUpper
  List.replicate (width - ds.length) '0' ++ ds

/-- A character by its code. Those that are not of the first set stay escapes. -/
def codedChar (letter : Char) (cs : List Char) : Option (ByteArray × List Char) :=
  let width := if letter = 'u' then 4 else 8
  if (cs.head?.bind (Script.digitValue? 16)).isNone then none
  else
    let (value, rest) := Script.number 16 0 width cs
    let shownWidth := if value < 65536 then 4 else 8
    let shownLetter := if value < 65536 then 'u' else 'U'
    if value < 128 then some (⟨#[UInt8.ofNat value]⟩, rest)
    else
      some (Shell.bytes (String.ofList ('\\' :: shownLetter :: hexText shownWidth value)), rest)

/-- Reads what follows a backslash. -/
def escape (dialect : Dialect) (place : EscapePlace) : List Char → ByteArray × List Char
  | [] => (Shell.bytes "\\", [])
  | c :: cs =>
    let kept := (Shell.bytes (String.ofList ['\\', c]), cs)
    if place != .format && c = '0' then octalByte 3 cs
    else if (octalDigit? c).isSome && !(place == .echo && dialect == .extended) then
      octalByte 3 (c :: cs)
    else match (letterEscapes dialect).lookup c with
      | some byte => (⟨#[byte]⟩, cs)
      | none =>
        match dialect, c with
        | .extended, 'x' =>
          match Script.codeEscape 16 2 false cs with
          | some (bs, rest) => (⟨bs.toArray⟩, rest)
          | none => kept
        | .extended, 'u' | .extended, 'U' => (codedChar c cs).getD kept
        | .extended, '"' | .extended, '\'' | .extended, '?' =>
          if place == .format then (Shell.bytes (String.singleton c), cs) else kept
        | _, _ => kept

/-- The text of an argument, and whether `\c` has ended all output. The first argument bounds the
length. -/
def escapedText (dialect : Dialect) (place : EscapePlace) : Nat → List Char → ByteArray × Bool
  | 0, _ | _, [] => (ByteArray.empty, false)
  | _, '\\' :: 'c' :: _ => (ByteArray.empty, true)
  | bound + 1, '\\' :: cs =>
    let (piece, rest) := escape dialect place cs
    let (text, ends) := escapedText dialect place bound rest
    (piece ++ text, ends)
  | bound + 1, c :: cs =>
    let plain := (c :: cs).takeWhile (· != '\\')
    let (text, ends) := escapedText dialect place bound ((c :: cs).drop plain.length)
    (Shell.bytes (String.ofList plain) ++ text, ends)

def closed (isOpen ends : Bool) (text : ByteArray) : ByteArray :=
  if isOpen || ends then text else text ++ Shell.bytes "\n"

def echoPlain (arguments : List String) : ByteArray :=
  let (arguments, isOpen) :=
    match arguments with
    | "-n" :: arguments => (arguments, true)
    | _ => (arguments, false)
  let cs := (" ".intercalate arguments).toList
  let (text, ends) := escapedText .plain .echo (cs.length + 1) cs
  closed isOpen ends text

def echoExtended (isOpen escapes : Bool) : List String → ByteArray
  | [] => closed isOpen false ByteArray.empty
  | first :: rest =>
    let letters := first.toList.drop 1
    if first.toList.head? = some '-' && !letters.isEmpty
        && letters.all ['n', 'e', 'E'].contains then
      let last := letters.filter (· != 'n') |>.getLast?
      echoExtended (isOpen || letters.contains 'n') (last.elim escapes (· == 'e')) rest
    else
      let text := " ".intercalate (first :: rest)
      let (text, ends) :=
        if escapes then escapedText .extended .echo (text.length + 1) text.toList
        else (Shell.bytes text, false)
      closed isOpen ends text

def echo : Shell.Command := fun arguments shell =>
  let text :=
    match shell.dialect with
    | .plain => echoPlain arguments
    | .extended => echoExtended false (shell.hasSetting "xpg_echo") arguments
  (shell.finish 0).write text

end DtoGen.Builtin

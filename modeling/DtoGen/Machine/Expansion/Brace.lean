import DtoGen.Machine.Script.Word

namespace DtoGen.Brace

/-- A character that is not quoted, or a whole piece. -/
inductive Atom
  | char (c : Char)
  | piece (p : Piece)
deriving DecidableEq, Repr

def atomsOf (word : Word) : List Atom :=
  word.flatMap fun piece =>
    match piece with
    | .literal text false => text.toList.map .char
    | piece => [.piece piece]

def wordOf : List Atom → Word
  | [] => []
  | .char c :: atoms => Script.Word.push (String.singleton c) false (wordOf atoms)
  | .piece (.literal text true) :: atoms => Script.Word.push text true (wordOf atoms)
  | .piece piece :: atoms => piece :: wordOf atoms

/-- The atoms up to the brace that closes, and what follows it. -/
def closed (depth : Nat) : List Atom → Option (List Atom × List Atom)
  | [] => none
  | atom :: atoms =>
    let keep (depth : Nat) :=
      (closed depth atoms).map fun (body, rest) => (atom :: body, rest)
    match atom, depth with
    | .char '\x7d', 0 => some ([], atoms)
    | .char '\x7d', depth + 1 => keep depth
    | .char '\x7b', depth => keep (depth + 1)
    | _, depth => keep depth

def alternatives (depth : Nat) (current : List Atom) : List Atom → List (List Atom)
  | [] => [current.reverse]
  | atom :: atoms =>
    match atom, depth with
    | .char ',', 0 => current.reverse :: alternatives 0 [] atoms
    | .char '\x7b', depth => alternatives (depth + 1) (atom :: current) atoms
    | .char '\x7d', depth => alternatives (depth - 1) (atom :: current) atoms
    | _, depth => alternatives depth (atom :: current) atoms

def plainText? (atoms : List Atom) : Option String :=
  (atoms.mapM fun (atom : Atom) =>
    match atom with
    | .char c => some c
    | .piece _ => none).map String.ofList

/-- The numbers from one to the other in steps of one size. -/
def row (first last : Int) (step : Nat) : List Int :=
  let step := max step 1
  let count := (last - first).natAbs / step + 1
  (List.range count).map fun n =>
    if first ≤ last then first + (n * step : Nat) else first - (n * step : Nat)

/-- Digits of which the first is a zero ask for equal widths. -/
def isPadded (text : String) : Bool :=
  match text.toList.filter (· != '-') with
  | '0' :: _ :: _ => true
  | _ => false

def paddedNumber (width : Nat) (i : Int) : String :=
  let sign := if i < 0 then "-" else ""
  let digits := toString i.natAbs
  sign ++ String.ofList (List.replicate (width - sign.length - digits.length) '0') ++ digits

def letter? (text : String) : Option Char :=
  match text.toList with
  | [c] => if c.isAlpha then some c else none
  | _ => none

/-- The texts of a row such as `1..5` or `a..e..2`. -/
def row? (text : String) : Option (List String) :=
  let build (first last : String) (step : Nat) : Option (List String) :=
    match first.toInt?, last.toInt?, letter? first, letter? last with
    | some a, some b, _, _ =>
      let width := if isPadded first || isPadded last then max first.length last.length else 0
      some ((row a b step).map (paddedNumber width))
    | _, _, some a, some b =>
      some ((row a.toNat b.toNat step).map fun i => String.singleton (Char.ofNat i.toNat))
    | _, _, _, _ => none
  match text.splitOn ".." with
  | [first, last] => build first last 1
  | [first, last, step] => step.toInt?.bind fun step => build first last step.natAbs
  | _ => none

/-- All that the atoms stand for. The first argument bounds how often braces are looked at. -/
def expand : Nat → List Atom → List (List Atom)
  | 0, atoms => [atoms]
  | bound + 1, atoms =>
    let front := atoms.takeWhile (· != Atom.char '\x7b')
    match atoms.drop front.length with
    | [] => [atoms]
    | brace :: rest =>
      let found : Option (List (List Atom) × List Atom) :=
        match closed 0 rest with
        | none => none
        | some (body, behind) =>
          match alternatives 0 [] body with
          | first :: second :: others =>
            some ((first :: second :: others).flatMap (expand bound), behind)
          | _ =>
            ((plainText? body).bind row?).map fun texts =>
              (texts.map fun text => text.toList.map Atom.char, behind)
      match found with
      | some (middles, behind) =>
        let ends := expand bound behind
        middles.flatMap fun middle => ends.map fun ending => front ++ middle ++ ending
      | none => (expand bound rest).map fun ending => front ++ brace :: ending

def braceLimit : Nat := 100

def words (word : Word) : List Word :=
  let atoms := atomsOf word
  if atoms.contains (Atom.char '\x7b') then (expand braceLimit atoms).map wordOf else [word]

end DtoGen.Brace

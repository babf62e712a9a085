import DtoGen.Text.LetterData

namespace DtoGen.Text

def isAscii (c : Char) : Bool :=
  c.toNat < 0x80

def isUpper (c : Char) : Bool :=
  if isAscii c then 'A' ≤ c && c ≤ 'Z' else inRuns upperRuns c.toNat

def isLower (c : Char) : Bool :=
  if isAscii c then 'a' ≤ c && c ≤ 'z' else inRuns lowerRuns c.toNat

/-- White space: the space, tab to carriage return, and the blanks above ASCII. -/
def isBlank (c : Char) : Bool :=
  if isAscii c then c == ' ' || ('\t' ≤ c && c ≤ '\r') else inRuns blankRuns c.toNat

def isCased (c : Char) : Bool :=
  isUpper c || isLower c || inRuns titleRuns c.toNat

/-- Marks that the sigma rule looks through, such as an apostrophe or an accent. -/
def isIgnorable (c : Char) : Bool :=
  if isAscii c then [0x27, 0x2E, 0x3A, 0x5E, 0x60].contains c.toNat
  else inRuns ignorableRuns c.toNat

def upper (c : Char) : List Char :=
  if isAscii c then [c.toUpper]
  else match upperSpellings.find? (·.1 == c.toNat) with
    | some (_, codes) => codes.map Char.ofNat
    | none => [Char.ofNat (shifted upperShifts c.toNat)]

/-- The dotted capital I is the one letter whose lower case is longer. -/
def lower (c : Char) : List Char :=
  if isAscii c then [c.toLower]
  else if c.toNat = 0x130 then ['i', Char.ofNat 0x307]
  else [Char.ofNat (shifted lowerShifts c.toNat)]

/-- Whether the first letter that is not ignorable is a cased one. -/
def meetsCased (cs : List Char) : Bool :=
  match cs.dropWhile isIgnorable with
  | [] => false
  | c :: _ => isCased c

/-- `before` holds the letters to the left, nearest first. -/
def lowerSigma (before after : List Char) : Char :=
  if meetsCased before && !meetsCased after then 'ς' else 'σ'

def lowerAll (before : List Char) : List Char → List Char
  | [] => []
  | c :: cs => (if c = 'Σ' then [lowerSigma before cs] else lower c) ++ lowerAll (c :: before) cs

def upperAll (cs : List Char) : List Char :=
  cs.flatMap upper

/-- The words of a text, as blanks separate them. -/
def fields : List Char → List (List Char)
  | [] => []
  | c :: cs =>
    if isBlank c then fields cs
    else match cs with
      | [] => [[c]]
      | d :: _ =>
        if isBlank d then [c] :: fields cs
        else match fields cs with
          | [] => [[c]]
          | word :: words => (c :: word) :: words

def trimStart (cs : List Char) : List Char :=
  cs.dropWhile isBlank

def trimEnd (cs : List Char) : List Char :=
  (cs.reverse.dropWhile isBlank).reverse

def trim (cs : List Char) : List Char :=
  trimEnd (trimStart cs)

def uppercase (s : String) : String :=
  String.ofList (upperAll s.toList)

def lowercase (s : String) : String :=
  String.ofList (lowerAll [] s.toList)

/-- Blanks at both ends removed. -/
def trimmed (s : String) : String :=
  String.ofList (trim s.toList)

/-- Every run of blanks turned into one space, and none at the ends. -/
def oneLine (s : String) : String :=
  " ".intercalate ((fields s.toList).map String.ofList)

end DtoGen.Text

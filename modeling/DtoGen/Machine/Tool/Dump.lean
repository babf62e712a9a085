import DtoGen.Machine.Tool.Input
import DtoGen.Machine.Format

namespace DtoGen.Tool

/-- One column of a dump: what its units are and how these are written. -/
inductive DumpStyle
  | name
  | character
  | number (letter : Char) (size : Nat)
  | floating (size : Nat)
deriving DecidableEq, Repr

namespace DumpStyle

def unit : DumpStyle → Nat
  | name | character => 1
  | number _ size | floating size => size

/-- How many columns a unit of a number takes at most. -/
def digits (letter : Char) (size : Nat) : Nat :=
  let largest := Nat.pow 256 size - 1
  match letter with
  | 'd' => (toString ((largest + 1) / 2)).length + 1
  | 'u' => (toString largest).length
  | 'o' => (Nat.toDigits 8 largest).length
  | _ => 2 * size

def width : DumpStyle → Nat
  | name | character => 3
  | number letter size => digits letter size
  | floating size => if size = 4 then 15 else 24

def littleEndian (bs : Bytes) : Nat :=
  bs.foldr (fun b n => n * 256 + b.toNat) 0

def names : List String :=
  [ "nul", "soh", "stx", "etx", "eot", "enq", "ack", "bel", "bs", "ht", "nl", "vt", "ff", "cr",
    "so", "si", "dle", "dc1", "dc2", "dc3", "dc4", "nak", "syn", "etb", "can", "em", "sub", "esc",
    "fs", "gs", "rs", "us", "sp" ]

def zeroFilled (width : Nat) (digits : List Char) : String :=
  String.ofList (List.replicate (width - digits.length) '0' ++ digits)

def characterText (b : UInt8) : String :=
  let escapes : List (UInt8 × String) :=
    [(0, "\\0"), (7, "\\a"), (8, "\\b"), (9, "\\t"), (10, "\\n"), (11, "\\v"), (12, "\\f"),
      (13, "\\r")]
  match escapes.lookup b with
  | some text => text
  | none =>
    if 32 ≤ b && b < 127 then String.singleton (Char.ofNat b.toNat)
    else zeroFilled 3 (Nat.toDigits 8 b.toNat)

/-- The number that the bits of a floating number spell. -/
def floatingOf (size bits : Nat) : Numeral :=
  let (mantissaBits, exponentBits) := if size = 4 then (23, 8) else (52, 11)
  let mantissa := bits % Nat.pow 2 mantissaBits
  let e := bits / Nat.pow 2 mantissaBits % Nat.pow 2 exponentBits
  let isNegative := bits / Nat.pow 2 (mantissaBits + exponentBits) == 1
  let bias := Nat.pow 2 (exponentBits - 1) - 1
  if e = Nat.pow 2 exponentBits - 1 then
    if mantissa = 0 then .infinite isNegative else .nan isNegative
  else
    let digits := if e = 0 then mantissa else mantissa + Nat.pow 2 mantissaBits
    let shift : Int := (max e 1 : Nat) - (bias : Int) - (mantissaBits : Int)
    if 0 ≤ shift then .finite isNegative (digits * Nat.pow 2 shift.toNat) 1
    else .finite isNegative digits (Nat.pow 2 (-shift).toNat)

def unitText (style : DumpStyle) (bs : Bytes) : String :=
  match style with
  | name =>
    let b := bs.headD 0 % 128
    if b = 127 then "del"
    else (names[b.toNat]?).getD (String.singleton (Char.ofNat b.toNat))
  | character => characterText (bs.headD 0)
  | number letter size =>
    let n := littleEndian bs
    match letter with
    | 'd' =>
      let i : Int := if Nat.pow 256 size ≤ 2 * n then (n : Int) - Nat.pow 256 size else n
      toString i
    | 'u' => toString n
    | 'o' => zeroFilled (digits 'o' size) (Nat.toDigits 8 n)
    | _ => zeroFilled (2 * size) (Nat.toDigits 16 n)
  | floating size =>
    let number := floatingOf size (littleEndian bs)
    let precision := if size = 4 then 8 else 17
    (if number.isNegative then "-" else "") ++ number.unsignedText 'g' (some precision) false

end DumpStyle

/-- A style, and whether the plain characters are shown beside it. -/
structure DumpColumn where
  style : DumpStyle
  showsText : Bool

/-- The styles of a text such as `x1z`. The first argument bounds the length. -/
def dumpColumns? : Nat → List Char → Option (List DumpColumn)
  | 0, _ | _, [] => some []
  | bound + 1, c :: cs =>
    let sizes : List (Char × Nat) := [('C', 1), ('S', 2), ('I', 4), ('L', 8), ('F', 4), ('D', 8)]
    let digits := cs.takeWhile Char.isDigit
    let size? : Option Nat × List Char :=
      match (String.ofList digits).toNat?, cs with
      | some n, _ => (some n, cs.drop digits.length)
      | none, s :: rest =>
        match sizes.lookup s with
        | some n => (some n, rest)
        | none => (none, cs)
      | none, [] => (none, [])
    let finish (style : DumpStyle) (rest : List Char) : Option (List DumpColumn) :=
      let showsText := rest.head? == some 'z'
      (dumpColumns? bound (if showsText then rest.drop 1 else rest)).map
        fun more => ⟨style, showsText⟩ :: more
    match c with
    | 'a' => finish .name cs
    | 'c' => finish .character cs
    | 'f' => finish (.floating (size?.1.getD 8)) size?.2
    | _ =>
      if ['d', 'o', 'u', 'x'].contains c && [1, 2, 4, 8].contains (size?.1.getD 4) then
        finish (.number c (size?.1.getD 4)) size?.2
      else none

/-- Old spellings of styles. -/
def dumpLetters : List (String × String) :=
  [ ("b", "o1"), ("c", "c"), ("x", "x2"), ("d", "u2"), ("o", "o2"), ("a", "a"), ("s", "d2"),
    ("i", "d4"), ("l", "d8"), ("f", "fF"), ("e", "fD"), ("h", "x2"), ("H", "x4"), ("O", "o4"),
    ("B", "o2") ]

/-- The columns that share a line are spread so that the units of all stand below each other. -/
def blockWidth (columns : List DumpColumn) : Nat :=
  columns.foldl (fun most c => max most ((c.style.width + 1) * (8 / c.style.unit))) 0

/-- One line of a style, for bytes that may be fewer than the line has room for. -/
def dumpLine (columns : List DumpColumn) (perLine : Nat) (column : DumpColumn) (block : Bytes) :
    String :=
  let style := column.style
  let unit := style.unit
  let share := blockWidth columns / (8 / unit)
  let count := (block.length + unit - 1) / unit
  let units := (List.range count).map fun i =>
    let bs := (block.drop (i * unit)).take unit
    padLeft share (style.unitText (bs ++ List.replicate (unit - bs.length) 0))
  let text := String.join units
  if column.showsText then
    let missing := perLine / unit - count
    let fill := String.ofList (List.replicate (missing * share) ' ')
    let plain := block.map fun b =>
      if 32 ≤ b && b < 127 then Char.ofNat b.toNat else '.'
    text ++ fill ++ "  >" ++ String.ofList plain ++ "<"
  else text

def addressText (radix : String) (n : Nat) : String :=
  match radix with
  | "n" => ""
  | "d" => DumpStyle.zeroFilled 7 (Nat.toDigits 10 n)
  | "x" => DumpStyle.zeroFilled 6 (Nat.toDigits 16 n)
  | _ => DumpStyle.zeroFilled 7 (Nat.toDigits 8 n)

/-- The lines of a dump. Lines that repeat the one before give way to a star. The first argument
bounds their number. -/
def dumpLines (columns : List DumpColumn) (radix : String) (perLine : Nat) (showsAll : Bool) :
    Nat → Nat → Option Bytes → Bool → Bytes → List String
  | 0, _, _, _, _ => []
  | bound + 1, place, before, isStarred, text =>
    if text.isEmpty then
      if radix = "n" then [] else [addressText radix place ++ "\n"]
    else
      let block := text.take perLine
      let rest := text.drop perLine
      let next := place + block.length
      if !showsAll && before == some block && block.length = perLine then
        (if isStarred then [] else ["*\n"])
          ++ dumpLines columns radix perLine showsAll bound next before true rest
      else
        let address := addressText radix place
        let blank := String.ofList (List.replicate address.length ' ')
        let lines := columns.zipIdx.map fun (column, n) =>
          (if n = 0 then address else blank) ++ dumpLine columns perLine column block ++ "\n"
        lines ++ dumpLines columns radix perLine showsAll bound next (some block) false rest

def od : Shell.Command :=
  withArguments (grammar (["A|address-radix=", "j|skip-bytes=", "N|read-bytes=", "S|strings?",
      "t|format=", "v|output-duplicates", "w|width?", "traditional", "endian="]
      ++ dumpLetters.map Prod.fst)) 1 fun a shell =>
    let spelled := a.options.filterMap fun (option, value) =>
      if option = "t" then some value else dumpLetters.lookup option
    let spelled := if spelled.isEmpty then ["o2"] else spelled
    match spelled.mapM fun text => dumpColumns? (text.length + 1) text.toList with
    | none =>
      let wrong := spelled.find? fun text => (dumpColumns? (text.length + 1) text.toList).isNone
      let text := wrong.getD ""
      let first := String.ofList (text.toList.take 1)
      if ["d", "o", "u", "x", "f"].contains first then
        fail ("invalid type string " ++ quoted text) 1 shell
      else
        fail ("invalid character '" ++ first ++ "' in type string " ++ quoted text) 1 shell
    | some columns =>
      let columns := columns.flatten
      let number (option : String) : Option Nat := (a.value? option).bind sizeOf?
      let (texts, shell) := contents .plain (orInput a.operands) shell
      let text := (texts.flatMap fun entry => entry.2.toList).drop ((number "j").getD 0)
      let text := (number "N").elim text text.take
      let perLine :=
        match a.value? "w" with
        | some "" => 32
        | some n => n.toNat?.getD 16
        | none => 16
      let radix := (a.value? "A").getD "o"
      let start := (number "j").getD 0
      shell.say (String.join (dumpLines columns radix (max perLine 1) (a.has "v")
        (text.length + 2) start none false text))

/-- A notation that writes a group of bytes with a letter for so many bits each. -/
structure BitAlphabet where
  letters : List Char
  bits : Nat
  /-- How many bytes and letters belong together. -/
  bytes : Nat
  size : Nat

def upperLetters : List Char :=
  (List.range 26).map fun n => Char.ofNat (65 + n)

def base64Alphabet : BitAlphabet where
  letters := upperLetters ++ upperLetters.map Char.toLower ++ "0123456789+/".toList
  bits := 6
  bytes := 3
  size := 4

def base32Alphabet : BitAlphabet where
  letters := upperLetters ++ "234567".toList
  bits := 5
  bytes := 5
  size := 8

namespace BitAlphabet

def group (alphabet : BitAlphabet) (bs : Bytes) : List Char :=
  let missing := alphabet.bytes - bs.length
  let n := (bs ++ List.replicate missing (0 : UInt8)).foldl (fun n b => n * 256 + b.toNat) 0
  let count := (8 * bs.length + alphabet.bits - 1) / alphabet.bits
  let base := Nat.pow 2 alphabet.bits
  let letters := (List.range alphabet.size).map fun i =>
    let digit := n / Nat.pow base (alphabet.size - 1 - i) % base
    (alphabet.letters[digit]?).getD 'A'
  letters.take count ++ List.replicate (alphabet.size - count) '='

/-- The first argument bounds the number of groups. -/
def encode (alphabet : BitAlphabet) : Nat → Bytes → List Char
  | 0, _ => []
  | bound + 1, bs =>
    if bs.isEmpty then []
    else alphabet.group (bs.take alphabet.bytes)
      ++ alphabet.encode bound (bs.drop alphabet.bytes)

/-- The bytes of letters without their filling, as far as these are whole. -/
def decodeGroup? (alphabet : BitAlphabet) (cs : List Char) : Option Bytes := do
  let own := cs.takeWhile (· != '=')
  let digits ← own.mapM fun c => alphabet.letters.findIdx? (· == c)
  if !(cs.drop own.length).all (· == '=') || cs.length != alphabet.size then none
  else
    let base := Nat.pow 2 alphabet.bits
    let missing := alphabet.size - own.length
    let n := digits.foldl (fun n d => n * base + d) 0 * Nat.pow base missing
    let count := own.length * alphabet.bits / 8
    some ((List.range count).map fun i =>
      UInt8.ofNat (n / Nat.pow 256 (alphabet.bytes - 1 - i) % 256))

/-- The bytes up to the first fault, and whether there is none. The first argument bounds the
number of groups. -/
def decode (alphabet : BitAlphabet) : Nat → List Char → Bytes × Bool
  | 0, _ => ([], true)
  | bound + 1, cs =>
    if cs.isEmpty then ([], true)
    else
      match alphabet.decodeGroup? (cs.take alphabet.size) with
      | none =>
        let digits := (cs.take alphabet.size).takeWhile alphabet.letters.contains
        let whole := digits.length * alphabet.bits / 8
        let padded := digits ++ List.replicate (alphabet.size - digits.length) '='
        (((alphabet.decodeGroup? padded).getD []).take whole, false)
      | some bs =>
        let (more, isWhole) := alphabet.decode bound (cs.drop alphabet.size)
        (bs ++ more, isWhole)

end BitAlphabet

/-- A text in lines of one width. The first argument bounds their number. -/
def wrapped (width : Nat) : Nat → List Char → List Char
  | 0, cs => cs
  | bound + 1, cs =>
    if cs.isEmpty then []
    else if width = 0 then cs
    else cs.take width ++ '\n' :: wrapped width bound (cs.drop width)

def bitTool (alphabet : BitAlphabet) : Shell.Command :=
  withOperands (grammar ["d|decode", "i|ignore-garbage", "w|wrap="]) 0 (some 1) fun a shell =>
    let text := (a.value? "w").getD "76"
    match text.toNat? with
    | none => fail ("invalid wrap size: " ++ quoted text) 1 shell
    | some width =>
      match content? .plain (a.operands.headD "-") shell with
      | (none, shell) => shell
      | (some content, shell) =>
        let bs := content.toList
        if a.has "d" then
          let cs := (bs.map fun b => Char.ofNat b.toNat).filter (· != '\n')
          let cs :=
            if a.has "i" then cs.filter fun c => alphabet.letters.contains c || c == '=' else cs
          let (result, isWhole) := alphabet.decode (cs.length + 1) cs
          let shell := shell.write (ofBytes result)
          if isWhole then shell else fail "invalid input" 1 shell
        else
          let cs := alphabet.encode (bs.length + 1) bs
          shell.say (String.ofList (wrapped width (cs.length + 1) cs))

end DtoGen.Tool

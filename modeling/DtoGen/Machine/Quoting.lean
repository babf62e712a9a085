import DtoGen.Machine.Value

namespace DtoGen.Quoting

/-- Characters that mean something to a shell wherever they stand. -/
def metas : List Char :=
  " \t\n'\"\\|&;()<>!\x7b\x7d*[?]^$\x60".toList

/-- Whether a shell would not take the text as it is. -/
def hasMetas (text : String) : Bool :=
  let cs := text.toList
  cs.any metas.contains || cs.head? == some '#' || cs.head? == some '~'
    || (cs.zip cs.tail).any fun (a, b) => b == '~' && (a == '=' || a == ':')

/-- Whether some byte cannot be shown. -/
def hasControls (text : String) : Bool :=
  text.toUTF8.toList.any fun b => b < 32 || 126 < b

/-- Quotes inside of the text are written outside of the quotes. -/
def single (text : String) : String :=
  if text = "'" then "\\'"
  else
    let body := text.toList.flatMap fun c => if c = '\'' then "'\\''".toList else [c]
    "'" ++ String.ofList body ++ "'"

/-- Runs of quotes inside of the text stand between quotes of the other kind. -/
def singleWithDoubles (text : String) : String :=
  let runs := text.toList.splitBy fun a b => (a == '\'') == (b == '\'')
  let quote (run : List Char) : List Char :=
    if run.head? = some '\'' then '"' :: run ++ ['"'] else '\'' :: run ++ ['\'']
  let front := if text.toList.head?.all (· == '\'') then "''" else ""
  front ++ String.ofList (runs.flatMap quote)

def doubled (text : String) : String :=
  let body := text.toList.flatMap fun c =>
    if ['"', '\\', '$', '\x60'].contains c then ['\\', c] else [c]
  "\"" ++ String.ofList body ++ "\""

def escapes : List (UInt8 × Char) :=
  [ (7, 'a'), (8, 'b'), (9, 't'), (10, 'n'), (11, 'v'), (12, 'f'), (13, 'r'), (27, 'E'), (39, '\''),
    (92, '\\') ]

def ansiByte (b : UInt8) : String :=
  match escapes.lookup b with
  | some c => String.ofList ['\\', c]
  | none =>
    if 32 ≤ b && b ≤ 126 then String.singleton (Char.ofNat b.toNat)
    else
      let digits := [b / 64, b / 8 % 8, b % 8].map fun d => Char.ofNat (d.toNat + 48)
      "\\" ++ String.ofList digits

def ansi (text : String) : String :=
  "$'" ++ String.join (text.toUTF8.toList.map ansiByte) ++ "'"

/-- Every character with a meaning behind a backslash. -/
def backslashed (text : String) : String :=
  let quote (c : Char) (isFirst : Bool) : List Char :=
    if metas.contains c || c = ',' || (isFirst && (c = '#' || c = '~')) then ['\\', c] else [c]
  match text.toList with
  | [] => "''"
  | c :: cs => String.ofList (quote c true ++ cs.flatMap fun c => quote c false)

/-- The shortest form that reads back. -/
def reusable (text : String) : String :=
  if hasControls text then ansi text else backslashed text

def inQuotes (text : String) : String :=
  if hasControls text then ansi text else single text

/-- In double quotes, as values are listed. -/
def listed (text : String) : String :=
  if hasControls text then ansi text else doubled text

/-- In quotes only where these are needed. -/
def ifNeeded (text : String) : String :=
  if text = "" then "''"
  else if hasMetas text then single text
  else if hasControls text then ansi text
  else text

end DtoGen.Quoting

namespace DtoGen.Variable

def letterOrder : List Char :=
  ['a', 'A', 'i', 'n', 'r', 't', 'x', 'l', 'u']

def isList (v : Variable) : Bool :=
  match v.value with
  | some (.list _) => true
  | _ => v.has 'a'

def isTable (v : Variable) : Bool :=
  v.value.any Value.isTable || v.has 'A'

def letters (v : Variable) : String :=
  String.ofList <| letterOrder.filter fun letter =>
    match letter with
    | 'a' => v.isList && !v.isTable
    | 'A' => v.isTable
    | letter => v.has letter

def keyText (key : String) : String :=
  if Quoting.hasMetas key then Quoting.doubled key else key

/-- A value as it is written behind an equals sign. -/
def valueText : Value → String
  | .single text => Quoting.listed text
  | .list items =>
    let texts := items.map fun (n, text) => "[" ++ toString n ++ "]=" ++ Quoting.listed text
    "(" ++ " ".intercalate texts ++ ")"
  | .table items =>
    let texts := (Value.inOrder items).map fun (key, text) =>
      "[" ++ keyText key ++ "]=" ++ Quoting.listed text ++ " "
    "(" ++ String.join texts ++ ")"

def declaration (name : String) (v : Variable) : String :=
  let letters := if v.letters = "" then "-" else v.letters
  let value :=
    match v.value with
    | some value => "=" ++ valueText value
    | none => ""
  "declare -" ++ letters ++ " " ++ name ++ value

end DtoGen.Variable

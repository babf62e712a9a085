import DtoGen.Machine.Builtin.Printf
import DtoGen.Machine.Expansion.Field
import DtoGen.Text.Utf8

namespace DtoGen.Builtin

structure ReadOptions where
  isRaw : Bool
  descriptor : Nat
  delimiter : UInt8
  /-- How many characters are read at most, and whether the delimiter is one of them. -/
  limit : Option (Nat × Bool)
  list : Option String
  onlyLooks : Bool

namespace ReadOptions

def start : ReadOptions :=
  ⟨false, 0, 10, none, none, false⟩

end ReadOptions

def decoded (bs : List UInt8) : List Char :=
  (Text.decode ⟨(bs.filter (· != 0)).toArray⟩).toList

/-- Characters with the mark whether a backslash protects them, and whether the last one is a
backslash that protects what comes behind. -/
def unescape : List Char → List Pattern.Glyph × Bool
  | [] => ([], false)
  | ['\\'] => ([], true)
  | '\\' :: c :: cs =>
    let (rest, isOpen) := unescape cs
    ((c, true) :: rest, isOpen)
  | c :: cs =>
    let (rest, isOpen) := unescape cs
    ((c, false) :: rest, isOpen)

/-- A line up to the delimiter, and whether it has one. A protected line end takes the next line in.
The first argument bounds the lines. -/
def readLine (options : ReadOptions) : Nat → Shell → List Pattern.Glyph × Bool × Shell
  | 0, shell => ([], false, shell)
  | bound + 1, shell =>
    let (line, hasEnd, shell) := shell.takeUntil options.descriptor options.delimiter
    let cs := decoded line
    if options.isRaw then (cs.map fun c => (c, false), hasEnd, shell)
    else
      let (glyphs, isOpen) := unescape cs
      if isOpen && hasEnd then
        let (more, hasEnd, shell) := readLine options bound shell
        (glyphs ++ more, hasEnd, shell)
      else (glyphs, hasEnd, shell)

/-- At most so many characters. -/
def readSome (options : ReadOptions) (count : Nat) (isExact : Bool) (shell : Shell) :
    List Pattern.Glyph × Bool × Shell :=
  match shell.sourceOf? options.descriptor with
  | none => ([], false, shell)
  | some source =>
    let cs := (Text.decode source.rest).toList
    let taken := cs.take count
    let front := if isExact then taken
      else taken.takeWhile fun c => c.toNat != options.delimiter.toNat
    let isEnded := front.length < taken.length
    let size := (String.ofList front).utf8ByteSize + if isEnded then 1 else 0
    let shell := shell.setSource options.descriptor
      { source with position := source.position + size }
    let glyphs := if options.isRaw then front.map fun c => (c, false) else (unescape front).1
    (glyphs, isEnded || front.length = count, shell)

/-- Cuts a line into as many values as there are names; the last one takes the rest. -/
def splitValues (separators : List Char) : Nat → List Pattern.Glyph → List String
  | 0, _ => []
  | count + 1, glyphs =>
    let isSeparator (g : Pattern.Glyph) : Bool := !g.2 && separators.contains g.1
    let isBlankHere (g : Pattern.Glyph) : Bool := isSeparator g && FieldDraft.isBlank g.1
    let glyphs := glyphs.dropWhile isBlankHere
    let field := glyphs.takeWhile fun g => !isSeparator g
    let rest := (glyphs.drop field.length).dropWhile isBlankHere
    let rest := if rest.head?.any isSeparator then (rest.drop 1).dropWhile isBlankHere else rest
    if count = 0 then
      [if rest.isEmpty then glyphText field
        else glyphText (glyphs.reverse.dropWhile isBlankHere).reverse]
    else glyphText field :: splitValues separators count rest

def allValues (separators : List Char) (glyphs : List Pattern.Glyph) : List String :=
  let add (draft : FieldDraft) (glyph : Pattern.Glyph) : FieldDraft :=
    if glyph.2 then draft.append [glyph] else draft.addChar separators glyph.1
  ((glyphs.foldl add .start).close false).fields.map glyphText

def valuedReadLetters (dialect : Dialect) : List Char :=
  match dialect with
  | .plain => ['p']
  | .extended => ['p', 'a', 'd', 'n', 'N', 't', 'u', 'i']

def readLetters (dialect : Dialect) : List Char :=
  match dialect with
  | .plain => ['r']
  | .extended => ['r', 's', 'e']

def withReadOption (letter : Char) (value : String) (o : ReadOptions) : ReadOptions :=
  match letter with
  | 'r' => { o with isRaw := true }
  | 'a' => { o with list := some value }
  | 'd' => { o with delimiter := value.toUTF8.toList.headD 0 }
  | 'n' => { o with limit := value.toNat?.map fun n => (n, false) }
  | 'N' => { o with limit := value.toNat?.map fun n => (n, true) }
  | 'u' => { o with descriptor := value.toNat?.getD 0 }
  | 't' => { o with onlyLooks := value == "0" }
  | _ => o

/-- The options of one argument. The last of them may take its value from the next one. -/
def readCluster (dialect : Dialect) (rest : List String) (o : ReadOptions) :
    List Char → Except Char (ReadOptions × List String)
  | [] => .ok (o, rest)
  | c :: cs =>
    if (readLetters dialect).contains c then readCluster dialect rest (withReadOption c "" o) cs
    else if !(valuedReadLetters dialect).contains c then .error c
    else if !cs.isEmpty then .ok (withReadOption c (String.ofList cs) o, rest)
    else .ok (withReadOption c (rest.headD "") o, rest.drop 1)

/-- The options in front, and the names behind them. The first argument bounds their number. -/
def readOptions (dialect : Dialect) :
    Nat → List String → ReadOptions → Except Char (ReadOptions × List String)
  | 0, arguments, o => .ok (o, arguments)
  | bound + 1, arguments, o =>
    match arguments with
    | [] => .ok (o, [])
    | first :: rest =>
      match first.toList with
      | ['-', '-'] => .ok (o, rest)
      | '-' :: c :: cs =>
        match readCluster dialect rest o (c :: cs) with
        | .error letter => .error letter
        | .ok (o, rest) => readOptions dialect bound rest o
      | _ => .ok (o, arguments)

/-- Tells that there is no such option. -/
def refuseOption (usage : String) (letter : Char) (shell : Shell) : Shell :=
  match shell.dialect with
  | .plain => shell.complain ("Illegal option -" ++ String.singleton letter) 2
  | .extended =>
    (shell.complain ("-" ++ String.singleton letter ++ ": invalid option") 2).warn usage

def readUsage : String :=
  "read: usage: read [-ers] [-a array] [-d delim] [-i text] [-n nchars] [-N nchars] "
    ++ "[-p prompt] [-t timeout] [-u fd] [name ...]"

/-- Gives each name its value, as far as the names can be names. -/
def assignAll (status : Nat) : List (String × String) → Shell → Shell
  | [], shell => shell.finish status
  | (name, value) :: rest, shell =>
    match placeName? name, shell.dialect with
    | some (name, subscript), _ =>
      let shell := (shell.finish 0).assignText name subscript false value
      if shell.isStopped || shell.status != 0 then shell else assignAll status rest shell
    | none, .plain => shell.abort (name ++ ": bad variable name")
    | none, .extended => invalidName name 1 shell

def readInto (o : ReadOptions) (names : List String) (shell : Shell) : Shell :=
  let size := (shell.sourceOf? o.descriptor).elim 0 fun source => source.content.size
  let (glyphs, hasEnd, shell) :=
    match o.limit with
    | some (count, isExact) => readSome o count isExact shell
    | none => readLine o (size + 1) shell
  let status := if hasEnd then 0 else 1
  match o.list, names with
  | some name, _ =>
    let items : List Shell.ListItem := (allValues shell.separators glyphs).map fun text => (none, text)
    ((shell.finish 0).assignList name false items).finish status
  | none, [] => assignAll status [("REPLY", glyphText glyphs)] shell
  | none, names =>
    let values := if o.limit.any Prod.snd then
        glyphText glyphs :: List.replicate (names.length - 1) ""
      else splitValues shell.separators names.length glyphs
    assignAll status (names.zip values) shell

def read : Shell.Command := fun arguments shell =>
  match readOptions shell.dialect (arguments.length + 1) arguments .start with
  | .error letter => refuseOption readUsage letter shell
  | .ok (o, names) =>
    if names.isEmpty && !shell.isExtended then shell.complain "arg count" 2
    else if o.onlyLooks then shell.finish (if (shell.sourceOf? o.descriptor).isSome then 0 else 1)
    else if (shell.sourceOf? o.descriptor).isNone && o.descriptor != 0 then
      let number := toString o.descriptor
      shell.complain (number ++ ": invalid file descriptor: Bad file descriptor") 1
    else readInto o names shell

/-- How lines are read into a list. -/
structure MapOptions where
  dropsEnds : Bool
  count : Nat
  skipped : Nat
  origin : Option Nat
  delimiter : UInt8
  descriptor : Nat
  names : List String

def mapOptions : Nat → List String → MapOptions → MapOptions
  | 0, names, o => { o with names }
  | _, [], o => o
  | bound + 1, first :: rest, o =>
    let number := ((rest.headD "").toNat?).getD 0
    match first with
    | "-t" => mapOptions bound rest { o with dropsEnds := true }
    | "-n" => mapOptions bound rest.tail { o with count := number }
    | "-s" => mapOptions bound rest.tail { o with skipped := number }
    | "-O" => mapOptions bound rest.tail { o with origin := some number }
    | "-u" => mapOptions bound rest.tail { o with descriptor := number }
    | "-d" =>
      mapOptions bound rest.tail { o with delimiter := (rest.headD "").toUTF8.toList.headD 0 }
    | "-C" | "-c" => mapOptions bound rest.tail o
    | "--" => { o with names := rest }
    | _ => { o with names := first :: rest }

/-- All lines of a source, with their ends. The first argument bounds their number. -/
def takeLines (o : MapOptions) : Nat → Shell → List String × Shell
  | 0, shell => ([], shell)
  | bound + 1, shell =>
    let (line, hasEnd, shell) := shell.takeUntil o.descriptor o.delimiter
    if line.isEmpty && !hasEnd then ([], shell)
    else
      let ending := if hasEnd && !o.dropsEnds then [o.delimiter] else []
      let text := String.ofList (decoded (line ++ ending))
      let (texts, shell) := takeLines o bound shell
      (text :: texts, shell)

def mapfile : Shell.Command := fun arguments shell =>
  let o := mapOptions (arguments.length + 1) arguments ⟨false, 0, 0, none, 10, 0, []⟩
  let name := o.names.headD "MAPFILE"
  let size := (shell.sourceOf? o.descriptor).elim 0 fun source => source.content.size
  let wanted := if o.count = 0 then size + 1 else o.skipped + o.count
  let (lines, shell) := takeLines o wanted (shell.finish 0)
  let items : List Shell.ListItem := ((lines.drop o.skipped).zipIdx (o.origin.getD 0)).map
    fun (text, n) => (some (toString n), text)
  shell.assignList name o.origin.isSome items

end DtoGen.Builtin

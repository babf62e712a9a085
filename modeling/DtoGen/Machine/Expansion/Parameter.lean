import DtoGen.Machine.Assignment
import DtoGen.Machine.Quoting
import DtoGen.Machine.Expansion.Field
import DtoGen.Machine.Script.Word

namespace DtoGen

inductive Content
  | one (value : Option String)
  /-- Values that stay apart. Some are joined where they are quoted. -/
  | many (values : List String) (isJoined : Bool)

namespace Content

def values : Content → List String
  | one value => value.toList
  | many values _ => values

def map (f : String → String) : Content → Content
  | one value => one (value.map f)
  | many values isJoined => many (values.map f) isJoined

/-- Whether there is a value, for a reader to whom an empty one may be none. -/
def hasValue (emptyCounts : Bool) : Content → Bool
  | one none | many [] _ => false
  | one (some text) => !(emptyCounts && text == "")
  | many values _ => !(emptyCounts && values == [""])

end Content

namespace Shell

abbrev Expander := Word → Shell → List Stretch × Shell

def innerText (expand : Expander) (text : String) (shell : Shell) : String × Shell :=
  let (stretches, shell) := expand (Script.textWord shell.manner .operand false text) shell
  (Stretch.joined stretches, shell)

/-- What a text in a word comes to as a number. The text of `label` is put in front of faults. -/
def innerNumber (expand : Expander) (label text : String) (shell : Shell) : Option Int × Shell :=
  let (text, shell) := innerText expand text shell
  if shell.isStopped then (none, shell)
  else
    match shell.calculate text with
    | .ok (value, shell) => (some value, shell)
    | .error fault => (none, shell.abort (label ++ fault.message shell.dialect))

/-- The text that joins values: the first separator. -/
def joint (shell : Shell) : String :=
  String.ofList (shell.separators.take 1)

def shown (content : Content) (isQuoted : Bool) (shell : Shell) : List Stretch :=
  match content with
  | .one value => [.ofText isQuoted (value.getD "")]
  | .many values isJoined =>
    if isQuoted && isJoined then [.fixed (shell.joint.intercalate values) true]
    else
      let joint := if isJoined || shell.dialect == .plain then shell.joint else " "
      (values.map (Stretch.ofText isQuoted)).intersperse (.boundary joint)

/-- How messages call what a reference means. -/
def label (reference : Reference) : String :=
  match reference.subscript with
  | some subscript => reference.name ++ "[" ++ subscript ++ "]"
  | none => reference.name

def elementOf (name subscript : String) (shell : Shell) : Option String × Shell :=
  let v := (shell.lookup? name).getD .absent
  if v.isTable then ((v.value.map Value.tableItems).bind (·.lookup subscript), shell)
  else
    match shell.calculate subscript with
    | .error fault => (none, shell.abort (fault.message shell.dialect))
    | .ok (index, shell) =>
      match placeIn v.value index with
      | some n => (v.value.bind fun value => value.listItems.lookup n, shell)
      | none => (none, shell.complainPlainly (name ++ ": bad array subscript") shell.status)

def elementsOf (name : String) (shell : Shell) : List String :=
  (((shell.lookup? name).bind Variable.value).map Value.elements).getD []

def contentOf (expand : Expander) (reference : Reference) (shell : Shell) : Content × Shell :=
  match reference.name, reference.subscript with
  | "@", none => (.many shell.arguments false, shell)
  | "*", none => (.many shell.arguments true, shell)
  | name, none => (.one (shell.parameter? name), shell)
  | name, some "@" => (.many (shell.elementsOf name) false, shell)
  | name, some "*" => (.many (shell.elementsOf name) true, shell)
  | name, some subscript =>
    let (subscript, shell) := innerText expand subscript shell
    if shell.isStopped then (.one none, shell)
    else
      let (value, shell) := elementOf name subscript shell
      (.one value, shell)

/-- What a reference means in the end: an indirect one gives way to the one that its value
spells. -/
def followed (expand : Expander) (reference : Reference) (shell : Shell) :
    Option Reference × Shell :=
  if !reference.isIndirect then (some reference, shell)
  else
    let direct := { reference with isIndirect := false }
    let (content, shell) := contentOf expand direct shell
    match content.values with
    | [] => (none, shell.abort (label direct ++ ": invalid indirect expansion"))
    | values =>
      let text := " ".intercalate values
      match Script.reference? .extended text.toList with
      | some (target, []) => (some target, shell)
      | _ => (none, shell.abort (text ++ ": invalid variable name"))

/-- What is said of a parameter that has to be set. -/
def unsetMessage (reference : Reference) (shell : Shell) : String :=
  match shell.dialect with
  | .plain => reference.name ++ ": parameter not set"
  | .extended =>
    let isName := Script.isName reference.name.toList
    (if isName then "" else "$") ++ label reference ++ ": unbound variable"

def plainParameter (expand : Expander) (reference : Reference) (isQuoted : Bool) (shell : Shell) :
    List Stretch × Shell :=
  let (content, shell) := contentOf expand reference shell
  match content with
  | .one none =>
    if shell.isStopped then ([], shell)
    else if shell.hasOption 'u' && reference.name != "!" then
      ([], shell.abortScript (shell.unsetMessage reference))
    else (shell.shown content isQuoted, shell)
  | content => (shell.shown content isQuoted, shell)

def missingText (emptyCounts : Bool) : Dialect → String
  | .plain => if emptyCounts then "parameter not set or null" else "parameter not set"
  | .extended => if emptyCounts then "parameter null or not set" else "parameter not set"

/-- Gives a parameter the value that it lacks. -/
def assignMissing (reference : Reference) (value : String) (shell : Shell) : Shell :=
  if Script.isName reference.name.toList then
    shell.assignText reference.name reference.subscript false value
  else
    match shell.dialect with
    | .plain => shell.abort (reference.name ++ ": bad variable name")
    | .extended => shell.abort ("$" ++ reference.name ++ ": cannot assign in this way")

/-- What stands in for a parameter without a value. -/
def fallback (expand : Expander) (reference : Reference) (sign : Char) (emptyCounts : Bool)
    (text : String) (isQuoted : Bool) (shell : Shell) : List Stretch × Shell :=
  let (content, shell) := contentOf expand reference shell
  let operand (shell : Shell) : List Stretch × Shell :=
    let (stretches, shell) :=
      expand (Script.textWord shell.manner .operand isQuoted text) shell
    (if isQuoted then stretches else stretches.map Stretch.asValue, shell)
  if shell.isStopped then ([], shell)
  else
    match sign, content.hasValue emptyCounts with
    | '+', true | '-', false => operand shell
    | '+', false => ([.ofText isQuoted ""], shell)
    | '=', false =>
      let (stretches, shell) := operand shell
      let value := Stretch.joined stretches
      if shell.isStopped then ([], shell)
      else ([.ofText isQuoted value], shell.assignMissing reference value)
    | '?', false =>
      let (stretches, shell) := operand shell
      let message := if text != "" then Stretch.joined stretches
        else missingText emptyCounts shell.dialect
      ([], shell.abortScript (label reference ++ ": " ++ message))
    | _, _ => (shell.shown content isQuoted, shell)

def partOf (start count : Nat) (text : String) : String :=
  Text.decode (text.toUTF8.extract start (start + count))

/-- The start and the size of a slice of so many units, and whether it makes sense. A start below
zero counts from the end, and so does a length. -/
def sliceOf (size : Nat) (start : Int) (length : Option Int) : Nat × Nat × Bool :=
  let first : Int := if start < 0 then size + start else start
  if first < 0 || (size : Int) < first then (size, 0, true)
  else
    match length with
    | none => (first.toNat, size - first.toNat, true)
    | some n =>
      let last : Int := if n < 0 then size + n else first + n
      (first.toNat, (last - first).toNat, first ≤ last)

def sliceFault (text : String) (shell : Shell) : Shell :=
  shell.abort (text ++ ": substring expression < 0")

/-- A part of a text, or some of several values. -/
def slice (expand : Expander) (reference : Reference) (start : String) (length : Option String)
    (shell : Shell) : Content × Shell :=
  let (content, shell) := contentOf expand reference shell
  let front := label reference ++ ": "
  let (first, shell) := innerNumber expand front start shell
  let (count, shell) :=
    match length with
    | some text => if shell.isStopped then (none, shell) else innerNumber expand front text shell
    | none => (none, shell)
  if shell.isStopped then (content, shell)
  else
    let first := first.getD 0
    match content with
    | .one none => (.one none, shell)
    | .one (some text) =>
      let (start, size, isRight) := sliceOf text.utf8ByteSize first count
      if isRight then (.one (some (partOf start size text)), shell)
      else (content, shell.sliceFault (length.getD ""))
    | .many values isJoined =>
      if count.any (· < 0) then (content, shell.sliceFault (length.getD ""))
      else
        let items : List (Nat × String) :=
          match reference.subscript, (shell.lookup? reference.name).bind Variable.value with
          | none, _ => (shell.name :: values).zipIdx.map fun (text, n) => (n, text)
          | some _, some (.list items) => items
          | some _, _ => values.zipIdx.map fun (text, n) => (n, text)
        let size := (items.getLast?.map fun item => item.1 + 1).getD 0
        let (start, _, _) := sliceOf size first none
        let rest := (items.filter fun item => start ≤ item.1).map Prod.snd
        (.many (match count with
          | some n => rest.take n.toNat
          | none => rest) isJoined, shell)

/-- A word as a pattern, in which quoted characters stand for themselves. -/
def innerPattern (expand : Expander) (text : String) (shell : Shell) : Pattern × Shell :=
  let word := Script.textWord shell.manner .operand false text
  let (stretches, shell) := expand word shell
  (Pattern.ofGlyphs shell.manner.hasPatternLists (stretches.flatMap Stretch.glyphs), shell)

def recasedChar (sign c : Char) : Char :=
  match sign with
  | '^' => c.toUpper
  | ',' => c.toLower
  | _ => if c.isUpper then c.toLower else c.toUpper

def recasedChars (sign : Char) (isAll : Bool) (pattern : Pattern) : List Char → List Char
  | [] => []
  | c :: cs =>
    let fits (c : Char) : Bool := pattern.isEmpty || Pattern.matchesText pattern [c]
    let change (c : Char) : Char := if fits c then recasedChar sign c else c
    if isAll then (c :: cs).map change else change c :: cs

/-- What a match gives way to. An ampersand that is not quoted is the match itself. -/
def replacement (dialect : Dialect) (glyphs : List Pattern.Glyph) (found : List Char) :
    List Char :=
  glyphs.flatMap fun (c, isQuoted) =>
    if c = '&' && !isQuoted && dialect == .extended then found else [c]

/-- What a change makes of each value. -/
def changer (expand : Expander) (change : Change) (shell : Shell) :
    (List Char → List Char) × Shell :=
  match change with
  | .cutStart isLongest pattern =>
    let (pattern, shell) := innerPattern expand pattern shell
    (Pattern.cutStart isLongest pattern, shell)
  | .cutEnd isLongest pattern =>
    let (pattern, shell) := innerPattern expand pattern shell
    (Pattern.cutEnd isLongest pattern, shell)
  | .recase sign isAll pattern =>
    let (pattern, shell) := innerPattern expand pattern shell
    (recasedChars sign isAll pattern, shell)
  | .replace scope pattern text =>
    let (pattern, shell) := innerPattern expand pattern shell
    let word := Script.textWord shell.manner .operand false text
    let (stretches, shell) := expand word shell
    let change := replacement shell.dialect (stretches.flatMap Stretch.glyphs)
    (match scope with
      | .first => fun cs => Pattern.replaceAll pattern change true (cs.length + 1) cs
      | .all => fun cs => Pattern.replaceAll pattern change false (cs.length + 1) cs
      | .atStart => Pattern.replaceStart pattern change
      | .atEnd => Pattern.replaceEnd pattern change, shell)
  | _ => (id, shell)

def unescaped (text : String) : String :=
  let inner := text.toList.flatMap fun c => if c = '\'' then ['\\', '\''] else [c]
  match Script.ansiQuoted? (inner ++ ['\'']) with
  | some (text, _) => text
  | none => text

/-- Values in another form, by its letter. -/
def transformed (letter : Char) (reference : Reference) (content : Content) (shell : Shell) :
    Content :=
  let v := (shell.lookup? reference.name).getD .absent
  let isWhole := match content with
    | .many _ _ => true
    | .one _ => false
  let pairs := (v.value.map Value.entries).getD []
  match letter with
  | 'Q' => content.map Quoting.inQuotes
  | 'U' => content.map String.toUpper
  | 'L' => content.map String.toLower
  | 'u' => content.map String.capitalize
  | 'E' => content.map unescaped
  | 'a' => content.map fun _ => v.letters
  | 'A' =>
    if isWhole then .one (some (v.declaration reference.name))
    else content.map fun text =>
      let front := if v.letters = "" then "" else "declare -" ++ v.letters ++ " "
      front ++ reference.name ++ "=" ++ Quoting.inQuotes text
  | 'K' =>
    if isWhole then
      let texts := pairs.map fun (key, text) =>
        Variable.keyText key ++ " " ++ Quoting.listed text ++ if v.isTable then " " else ""
      .one (some (" ".intercalate texts))
    else content.map Quoting.inQuotes
  | 'k' =>
    if isWhole then .many (pairs.flatMap fun (key, text) => [key, text]) false
    else content.map Quoting.inQuotes
  | _ => content

/-- How long a value is, or how many there are. -/
def lengthOf (content : Content) (shell : Shell) : Nat :=
  match content, shell.dialect with
  | .one value, _ => (value.getD "").utf8ByteSize
  | .many values _, .plain => (" ".intercalate values).utf8ByteSize
  | .many values _, .extended => values.length

def namesWith (start : String) (shell : Shell) : List String :=
  shell.variableNames.filter fun name => start.toList.isPrefixOf name.toList

def changedParameter (expand : Expander) (reference : Reference) (change : Change)
    (isQuoted : Bool) (shell : Shell) : List Stretch × Shell :=
  match change with
  | .fallback sign emptyCounts text =>
    shell.fallback expand reference sign emptyCounts text isQuoted
  | .names =>
    let isJoined := reference.subscript == some "*"
    (shell.shown (.many (shell.namesWith reference.name) isJoined) isQuoted, shell)
  | .places =>
    let keys := (((shell.lookup? reference.name).bind Variable.value).map Value.keys).getD []
    (shell.shown (.many keys (reference.subscript == some "*")) isQuoted, shell)
  | .slice start length =>
    let (content, shell) := slice expand reference start length shell
    (shell.shown content isQuoted, shell)
  | change =>
    let (content, shell) := contentOf expand reference shell
    if shell.isStopped then ([], shell)
    else if shell.hasOption 'u' && !content.hasValue false && content matches .one _ then
      ([], shell.abortScript (shell.unsetMessage reference))
    else
      match change with
      | .length => ([.ofText isQuoted (toString (shell.lengthOf content))], shell)
      | .transform letter =>
        (shell.shown (shell.transformed letter reference content) isQuoted, shell)
      | change =>
        let (change, shell) := changer expand change shell
        let content := content.map fun text => String.ofList (change text.toList)
        (shell.shown content isQuoted, shell)

def parameterStretches (expand : Expander) (reference : Reference) (change : Option Change)
    (isQuoted : Bool) (shell : Shell) : List Stretch × Shell :=
  match followed expand reference shell, change with
  | (none, shell), _ => ([], shell)
  | (some reference, shell), none => plainParameter expand reference isQuoted shell
  | (some reference, shell), some change =>
    changedParameter expand reference change isQuoted shell

end Shell

end DtoGen

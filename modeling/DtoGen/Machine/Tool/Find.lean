import DtoGen.Machine.Builtin.Echo
import DtoGen.Machine.Launcher
import DtoGen.Machine.Pattern
import DtoGen.Machine.Regex.Notation
import DtoGen.Machine.Tool.Directory
import DtoGen.Machine.Tool.Mode

namespace DtoGen.Tool

/-- How a number is compared: `+n`, `-n` or `n`. -/
structure Measure where
  order : Ordering
  count : Nat
deriving DecidableEq, Repr

namespace Measure

def ofText? (text : String) : Option Measure :=
  match text.toList with
  | '+' :: ds => (String.ofList ds).toNat?.map fun n => ⟨.gt, n⟩
  | '-' :: ds => (String.ofList ds).toNat?.map fun n => ⟨.lt, n⟩
  | _ => text.toNat?.map fun n => ⟨.eq, n⟩

def accepts (n : Nat) (m : Measure) : Bool :=
  compare n m.count == m.order

end Measure

/-- What is asked of a file, or done with it. -/
inductive Sift
  | always (value : Bool)
  | name (pattern : Pattern) (ignoresCase : Bool)
  | path (pattern : Pattern) (ignoresCase : Bool)
  | expression (expression : Regex)
  | kind (letters : List Char) (follows : Bool)
  | isEmpty
  | size (measure : Measure) (unit : Nat)
  /-- Of the bits of a mode all, any, or just these. -/
  | mode (bits : Nat) (sign : Option Char)
  /-- The age of every file is nothing. -/
  | age (measure : Measure)
  | access (operator : String)
  | target (pattern : Pattern)
  | links (measure : Measure)
  | sameAs (place : Option Place)
  | write (file : Option String) (ending : String)
  | format (file : Option String) (text : String)
  | list
  | run (command : List String) (inDirectory : Bool)
  /-- Keeps the file for one command at the end. -/
  | gather (number : Nat) (command : List String)
  | delete
  | prune
  | quit
  | negation (body : Sift)
  | both (first second : Sift)
  | either (first second : Sift)
  | sequence (first second : Sift)

/-- A file that was come upon. -/
structure Finding where
  path : String
  /-- The operand that the search has started from. -/
  root : String
  place : Place
  entry : Entry
  depth : Nat

structure SearchRun where
  shell : Shell
  isPruned : Bool
  isOver : Bool
  gathered : List (Nat × String)

/-- How a search goes. -/
structure FindPlan where
  sift : Sift
  least : Nat
  most : Option Nat
  isDeepFirst : Bool
  follows : Bool
  /-- Commands for what was gathered, by their numbers. -/
  commands : List (Nat × List String)

def kindOfEntry : Entry → Char
  | .directory => 'd'
  | .link _ => 'l'
  | .device _ => 'c'
  | .file _ _ | .program _ => 'f'

namespace Finding

def name (f : Finding) : String :=
  lastStep f.path

def inner (f : Finding) : String :=
  let rest := (f.path.toList.drop f.root.length)
  String.ofList (rest.dropWhile isSlash)

/-- The path of the directory, as it is spelled. -/
def front (f : Finding) : String :=
  if f.path.toList.contains '/' then
    let cs := f.path.toList.reverse.dropWhile (· != '/')
    String.ofList (cs.drop 1).reverse
  else "."

def letter? (tree : FileTree) (letter : Char) (f : Finding) : Option String :=
  match letter with
  | 'p' => some f.path
  | 'f' => some f.name
  | 'h' => some f.front
  | 'H' => some f.root
  | 'P' => some f.inner
  | 'd' => some (toString f.depth)
  | 's' => some (toString f.entry.size)
  | 'k' => some (toString f.entry.blocks)
  | 'b' => some (toString (f.entry.blocks * 2))
  | 'm' => some (String.ofList (Nat.toDigits 8 f.entry.mode))
  | 'M' => some (String.singleton f.entry.kindLetter ++ modeText f.entry.mode)
  | 'y' => some (String.singleton (kindOfEntry f.entry))
  | 'Y' => some (String.singleton (((tree.find? ⟨f.path⟩).map kindOfEntry).getD 'N'))
  | 'u' | 'g' => some "root"
  | 'U' | 'G' => some "0"
  | 'n' => some (toString (linkCount tree f.place f.entry))
  | 'l' =>
    match f.entry with
    | .link target => some target
    | _ => some ""
  | '%' => some "%"
  | _ => none

def formatted (tree : FileTree) (f : Finding) : List Char → String
  | [] => ""
  | '%' :: c :: cs =>
    (f.letter? tree c).getD (String.ofList ['%', c]) ++ formatted tree f cs
  | '\\' :: c :: cs =>
    let plain : List (Char × String) :=
      [ ('n', "\n"), ('t', "\t"), ('\\', "\\"), ('0', "\x00"), ('a', "\x07"), ('b', "\x08"),
        ('f', "\x0c"), ('r', "\x0d"), ('v', "\x0b") ]
    (plain.lookup c).getD (String.ofList ['\\', c]) ++ formatted tree f cs
  | c :: cs => String.singleton c ++ formatted tree f cs

end Finding

def cased (ignoresCase : Bool) (text : String) : List Char :=
  (if ignoresCase then text.toLower else text).toList

def holdsNothing (tree : FileTree) (f : Finding) : Bool :=
  match f.entry with
  | .directory => tree.isEmptyAt f.place
  | .file content _ => content.isEmpty
  | _ => false

def acceptsMode (bits : Nat) (sign : Option Char) (mode : Nat) : Bool :=
  match sign with
  | some '-' => Nat.land mode bits == bits
  | some _ => bits == 0 || Nat.land mode bits != 0
  | none => mode == bits

/-- Writes to the standard output or behind what a file has. -/
def putFound (file : Option String) (text : String) (r : SearchRun) : SearchRun :=
  match file with
  | none => { r with shell := r.shell.say text }
  | some path =>
    { r with shell := { r.shell with tree := (r.shell.tree.appendBytes ⟨path⟩ text.toUTF8).2 } }

/-- Starts a command, and tells whether it went well. -/
def runFound (start : Shell.Starter) (command : List String) (shell : Shell) : Bool × Shell :=
  let program := command.headD ""
  match start program (command.drop 1) shell with
  | .ok (status, result) => (status.number == 0, { result with status := shell.status })
  | .error fault => (false, shell.warn (shell.name ++ ": " ++ quoted program ++ ": " ++ fault.reason))

def removeFound (f : Finding) (shell : Shell) : Bool × Shell :=
  if f.path = "." then (true, shell)
  else if f.entry.isDirectory && !shell.tree.isEmptyAt f.place then
    (false, fail ("cannot delete " ++ quoted f.path ++ ": Directory not empty") 1 shell)
  else (true, { shell with tree := shell.tree.remove f.place })

/-- A line that tells everything about a file. -/
def foundLine (tree : FileTree) (f : Finding) : String :=
  let target := match f.entry with
    | .link target => " -> " ++ target
    | _ => ""
  padLeft 9 "1" ++ " " ++ padLeft 6 (toString f.entry.blocks) ++ " "
    ++ String.singleton f.entry.kindLetter ++ modeText f.entry.mode ++ " "
    ++ padLeft 3 (toString (linkCount tree f.place f.entry)) ++ " root     root     "
    ++ padLeft 8 (toString f.entry.size) ++ " Jan  1 00:00 " ++ f.path ++ target ++ "\n"

def sift (start : Shell.Starter) (f : Finding) : Sift → SearchRun → Bool × SearchRun
  | .always value, r => (value, r)
  | .name pattern ignoresCase, r => (Pattern.matchesText pattern (cased ignoresCase f.name), r)
  | .path pattern ignoresCase, r => (Pattern.matchesText pattern (cased ignoresCase f.path), r)
  | .expression e, r =>
    ((Regex.longest e ⟨[], textBytes f.path, []⟩).any fun p => p.ahead.isEmpty, r)
  | .kind letters follows, r =>
    let entry := if follows then (r.shell.tree.find? ⟨f.path⟩).getD f.entry else f.entry
    (letters.contains (kindOfEntry entry), r)
  | .isEmpty, r => (holdsNothing r.shell.tree f, r)
  | .size measure unit, r => (measure.accepts ((f.entry.size + unit - 1) / unit), r)
  | .mode bits sign, r => (acceptsMode bits sign f.entry.mode, r)
  | .age measure, r => (measure.accepts 0, r)
  | .access operator, r => (Condition.holdsOfFile r.shell operator f.path, r)
  | .target pattern, r =>
    match f.entry with
    | .link target => (Pattern.matchesText pattern target.toList, r)
    | _ => (false, r)
  | .links measure, r => (measure.accepts (linkCount r.shell.tree f.place f.entry), r)
  | .sameAs place, r => (place == some f.place, r)
  | .write file ending, r => (true, putFound file (f.path ++ ending) r)
  | .format file text, r => (true, putFound file (f.formatted r.shell.tree text.toList) r)
  | .list, r => (true, putFound none (foundLine r.shell.tree f) r)
  | .run command inDirectory, r =>
    if inDirectory then
      let shown := if f.depth = 0 && f.path = "." then "." else "./" ++ f.name
      let place := if f.depth = 0 && f.path = "." then f.place else f.place.dropLast
      let inner := { r.shell with tree := { r.shell.tree with workingDirectory := place } }
      let (isFine, shell) := runFound start (command.map (·.replace "\x7b\x7d" shown)) inner
      let tree := { shell.tree with workingDirectory := r.shell.tree.workingDirectory }
      (isFine, { r with shell := { shell with tree } })
    else
      let (isFine, shell) := runFound start (command.map (·.replace "\x7b\x7d" f.path)) r.shell
      (isFine, { r with shell })
  | .gather number _, r => (true, { r with gathered := (number, f.path) :: r.gathered })
  | .delete, r =>
    let (isFine, shell) := removeFound f r.shell
    (isFine, { r with shell })
  | .prune, r => (true, { r with isPruned := true })
  | .quit, r => (true, { r with isOver := true })
  | .negation body, r =>
    let (value, r) := sift start f body r
    (!value, r)
  | .both first second, r =>
    let (value, r) := sift start f first r
    if value && !r.isOver then sift start f second r else (false, r)
  | .either first second, r =>
    let (value, r) := sift start f first r
    if value || r.isOver then (true, r) else sift start f second r
  | .sequence first second, r =>
    let (_, r) := sift start f first r
    if r.isOver then (true, r) else sift start f second r

def joinedPath (directory name : String) : String :=
  if directory.toList.getLast? = some '/' then directory ++ name else directory ++ "/" ++ name

/-- The names in a directory in the order in which they were put there. -/
def namesInside (tree : FileTree) (place : Place) : List String :=
  let own := tree.entries.filterMap fun entry =>
    if entry.1.dropLast = place && entry.1 ≠ [] then entry.1.getLast? else none
  own ++ (tree.namesAt place).filter fun name => !own.contains name

/-- Goes through a branch. The first argument bounds its depth. -/
def visit (start : Shell.Starter) (plan : FindPlan) : Nat → Finding → SearchRun → SearchRun
  | 0, _, r => r
  | bound + 1, f, r =>
    if r.isOver then r
    else
      let ask (r : SearchRun) : SearchRun :=
        if f.depth < plan.least || r.isOver then r
        else (sift start f plan.sift { r with isPruned := false }).2
      let inside (r : SearchRun) : SearchRun :=
        let isDeepest := plan.most.any (· ≤ f.depth)
        if !f.entry.isDirectory || isDeepest then r
        else
          (namesInside r.shell.tree f.place).foldl
            (fun r name =>
              let place := f.place ++ [name]
              match r.shell.tree.entry? place with
              | none => r
              | some entry =>
                let path := joinedPath f.path name
                let target := if plan.follows then r.shell.tree.find? ⟨path⟩ else none
                let place := if plan.follows then (r.shell.tree.locate? ⟨path⟩).getD place
                  else place
                visit start plan bound
                  ⟨path, f.root, place, target.getD entry, f.depth + 1⟩ r)
            r
      if plan.isDeepFirst then ask (inside r)
      else
        let r := ask { r with isPruned := false }
        if r.isPruned then { r with isPruned := false } else inside r

def visitRoot (start : Shell.Starter) (plan : FindPlan) (followsRoot : Bool) (r : SearchRun)
    (root : String) : SearchRun :=
  let path : Path := ⟨root⟩
  let tree := r.shell.tree
  let follows := plan.follows || followsRoot
  let place := if follows then tree.locate? path else tree.placeOf? path
  let entry := if follows then tree.find? path else tree.findAt? path
  match if r.isOver then none else some (place, entry) with
  | none => r
  | some (some place, some entry) =>
    visit start plan FileTree.longestWalk ⟨root, root, place, entry, 0⟩ r
  | some _ =>
    { r with shell := fail (quoted root ++ ": " ++ tree.absence path) 1 r.shell }

def sizeUnits : List (Char × Nat) :=
  [('c', 1), ('w', 2), ('b', 512), ('k', 1024), ('M', 1048576), ('G', 1073741824)]

def sizeSift? (text : String) : Option Sift :=
  match text.toList.getLast? with
  | none => none
  | some last =>
    match sizeUnits.lookup last with
    | some unit => (Measure.ofText? (text.dropEnd 1).toString).map fun m => .size m unit
    | none => (Measure.ofText? text).map fun m => .size m 512

def modeSift? (text : String) : Option Sift :=
  let (sign, rest) :=
    match text.toList with
    | '-' :: cs => (some '-', String.ofList cs)
    | '/' :: cs => (some '/', String.ofList cs)
    | _ => (none, text)
  (modeChange? 0 rest).map fun change => .mode (change false 0) sign

/-- An expression of the older notation, in which grouping signs need a backslash and repetitions
do not, in the newer one. The second argument tells whether the text is in brackets. -/
def modernized : Bool → List Char → List Char
  | _, [] => []
  | true, ']' :: cs => ']' :: modernized false cs
  | true, c :: cs => c :: modernized true cs
  | false, '[' :: ']' :: cs => '[' :: ']' :: modernized true cs
  | false, '[' :: '^' :: ']' :: cs => '[' :: '^' :: ']' :: modernized true cs
  | false, '[' :: cs => '[' :: modernized true cs
  | false, '\\' :: c :: cs =>
    if ['(', ')', '|'].contains c then c :: modernized false cs
    else '\\' :: c :: modernized false cs
  | false, c :: cs =>
    if ['(', ')', '|', '\x7b', '\x7d'].contains c then '\\' :: c :: modernized false cs
    else c :: modernized false cs

/-- How an expression is being read. -/
structure FindDraft where
  plan : FindPlan
  isModern : Bool
  hasAction : Bool
  /-- Files that are written, which are made at the start. -/
  files : List String

abbrev FindRead (α : Type) := StateT FindDraft (Except String) α

/-- Words up to the end of a command, and whether it takes many files. -/
def commandWords : List String → List String → Option (List String × Bool × List String)
  | _, [] => none
  | taken, ";" :: rest => some (taken.reverse, false, rest)
  | "\x7b\x7d" :: taken, "+" :: rest => some (taken.reverse, true, rest)
  | taken, word :: rest => commandWords (word :: taken) rest

def act (sift : Sift) (rest : List String) : FindRead (Sift × List String) := do
  modify fun d => { d with hasAction := true }
  return (sift, rest)

def onFile (path : String) (sift : Sift) (rest : List String) : FindRead (Sift × List String) := do
  modify fun d => { d with hasAction := true, files := path :: d.files }
  return (sift, rest)

def commandSift (name : String) (inDirectory : Bool) (rest : List String) :
    FindRead (Sift × List String) := do
  match commandWords [] rest with
  | none => throw ("missing argument to \x60" ++ name ++ "'")
  | some ([], _, _) => throw ("invalid argument \x60;' to \x60" ++ name ++ "'")
  | some (command, false, rest) => act (.run command inDirectory) rest
  | some (command, true, rest) =>
    let number := (← get).plan.commands.length
    modify fun d => { d with plan.commands := d.plan.commands ++ [(number, command)] }
    act (.gather number command) rest

def setPlan (change : FindPlan → FindPlan) (rest : List String) :
    FindRead (Sift × List String) := do
  modify fun d => { d with plan := change d.plan }
  return (.always true, rest)

/-- What a word with an argument asks. -/
def valuedSift (name value : String) (rest : List String) :
    FindRead (Option (Sift × List String)) := do
  let pattern := Pattern.ofText value
  let lower := Pattern.ofText value.toLower
  let invalid {α : Type} : FindRead α :=
    throw ("invalid argument \x60" ++ value ++ "' to \x60" ++ name ++ "'")
  let measured (sift : Measure → Sift) : FindRead (Option (Sift × List String)) := do
    match Measure.ofText? value with
    | some m => return some (sift m, rest)
    | none => invalid
  match name with
  | "-name" => return some (.name pattern false, rest)
  | "-iname" => return some (.name lower true, rest)
  | "-path" | "-wholename" => return some (.path pattern false, rest)
  | "-ipath" | "-iwholename" => return some (.path lower true, rest)
  | "-lname" | "-ilname" => return some (.target pattern, rest)
  | "-regex" | "-iregex" =>
    let cs := if (← get).isModern then value.toList else modernized false value.toList
    match Regex.parse (.search true) (textBytes (String.ofList cs)) with
    | .ok e => return some (.expression (if name = "-iregex" then e.ignoringCase else e), rest)
    | .error _ => invalid
  | "-regextype" =>
    modify fun d => { d with isModern := value != "emacs" && value != "findutils-default" }
    return some (.always true, rest)
  | "-type" | "-xtype" =>
    let letters := (value.splitOn ",").filterMap fun part => part.toList.head?
    match letters.find? fun c => !("bcdpflsD".toList.contains c) with
    | some c => throw ("Unknown argument to " ++ name ++ ": " ++ String.singleton c)
    | none => return some (.kind letters (name = "-xtype"), rest)
  | "-size" =>
    match sizeSift? value with
    | some sift => return some (sift, rest)
    | none => throw ("Invalid argument \x60" ++ value ++ "' to -size")
  | "-perm" =>
    match modeSift? value with
    | some sift => return some (sift, rest)
    | none => throw ("invalid mode \x60" ++ value ++ "'")
  | "-mtime" | "-atime" | "-ctime" | "-mmin" | "-amin" | "-cmin" => measured .age
  | "-links" => measured .links
  | "-newer" | "-anewer" | "-cnewer" => return some (.always false, rest)
  | "-user" | "-group" => return some (.always (value = "root" || value = "0"), rest)
  | "-uid" | "-gid" => measured fun m => .always (m.accepts 0)
  | "-samefile" => return some (.sameAs none, rest)
  | "-maxdepth" | "-mindepth" =>
    match value.toNat? with
    | none =>
      throw ("Expected a positive decimal integer argument to " ++ name ++ ", but got \x60"
        ++ value ++ "'")
    | some n =>
      let change (plan : FindPlan) : FindPlan :=
        if name = "-maxdepth" then { plan with most := some n } else { plan with least := n }
      return some (← setPlan change rest)
  | "-printf" => return some (← act (.format none value) rest)
  | "-fprint" => return some (← onFile value (.write (some value) "\n") rest)
  | "-fprint0" => return some (← onFile value (.write (some value) "\x00") rest)
  | "-fprintf" =>
    match rest with
    | text :: rest => return some (← onFile value (.format (some value) text) rest)
    | [] => throw "missing argument to \x60-fprintf'"
  | _ => return none

def valuedNames : List String :=
  [ "-name", "-iname", "-path", "-wholename", "-ipath", "-iwholename", "-lname", "-ilname",
    "-regex", "-iregex", "-regextype", "-type", "-xtype", "-size", "-perm", "-mtime", "-atime",
    "-ctime", "-mmin", "-amin", "-cmin", "-links", "-newer", "-anewer", "-cnewer", "-user",
    "-group", "-uid", "-gid", "-samefile", "-maxdepth", "-mindepth", "-printf", "-fprint",
    "-fprint0", "-fprintf" ]

/-- What one word asks, with the words behind it. -/
def primarySift (name : String) (rest : List String) : FindRead (Sift × List String) := do
  match name with
  | "-print" => act (.write none "\n") rest
  | "-print0" => act (.write none "\x00") rest
  | "-ls" => act .list rest
  | "-delete" =>
    modify fun d => { d with plan.isDeepFirst := true }
    act .delete rest
  | "-exec" | "-ok" => commandSift name false rest
  | "-execdir" | "-okdir" => commandSift name true rest
  | "-prune" => return (.prune, rest)
  | "-quit" => return (.quit, rest)
  | "-empty" => return (.isEmpty, rest)
  | "-true" | "-noleaf" | "-mount" | "-xdev" | "-warn" | "-nowarn" | "-daystart" =>
    return (.always true, rest)
  | "-false" | "-nouser" | "-nogroup" => return (.always false, rest)
  | "-readable" => return (.access "-r", rest)
  | "-writable" => return (.access "-w", rest)
  | "-executable" => return (.access "-x", rest)
  | "-depth" | "-d" => setPlan (fun plan => { plan with isDeepFirst := true }) rest
  | "-follow" => setPlan (fun plan => { plan with follows := true }) rest
  | _ =>
    if !valuedNames.contains name then
      if name.toList.head? = some '-' then throw ("unknown predicate \x60" ++ name ++ "'")
      else throw ("paths must precede expression: \x60" ++ name ++ "'")
    else
      match rest with
      | [] => throw ("missing argument to \x60" ++ name ++ "'")
      | value :: rest =>
        match ← valuedSift name value rest with
        | some result => return result
        | none => throw ("unknown predicate \x60" ++ name ++ "'")

mutual

/-- Expressions one after the other. The first argument of each reader bounds the words. -/
def siftSequence : Nat → List String → FindRead (Sift × List String)
  | 0, words => return (.always true, words)
  | bound + 1, words => do
    let (first, rest) ← siftEither bound words
    match rest with
    | "," :: rest =>
      let (second, rest) ← siftSequence bound rest
      return (.sequence first second, rest)
    | _ => return (first, rest)

def siftEither : Nat → List String → FindRead (Sift × List String)
  | 0, words => return (.always true, words)
  | bound + 1, words => do
    let (first, rest) ← siftBoth bound words
    match rest with
    | "-o" :: rest | "-or" :: rest =>
      let (second, rest) ← siftEither bound rest
      return (.either first second, rest)
    | _ => return (first, rest)

def siftBoth : Nat → List String → FindRead (Sift × List String)
  | 0, words => return (.always true, words)
  | bound + 1, words => do
    let (first, rest) ← siftOne bound words
    match rest with
    | [] | ")" :: _ | "-o" :: _ | "-or" :: _ | "," :: _ => return (first, rest)
    | "-a" :: rest | "-and" :: rest =>
      let (second, rest) ← siftBoth bound rest
      return (.both first second, rest)
    | _ =>
      let (second, rest) ← siftBoth bound rest
      return (.both first second, rest)

def siftOne : Nat → List String → FindRead (Sift × List String)
  | 0, words => return (.always true, words)
  | bound + 1, words => do
    match words with
    | [] => throw "invalid expression; you have used a binary operator with nothing before it."
    | "!" :: rest | "-not" :: rest =>
      let (body, rest) ← siftOne bound rest
      return (.negation body, rest)
    | "(" :: rest =>
      let (body, rest) ← siftSequence bound rest
      match rest with
      | ")" :: rest => return (body, rest)
      | _ => throw "invalid expression; I was expecting to find a ')' somewhere but did not see one."
    | name :: rest => primarySift name rest

end

def isExpressionStart (word : String) : Bool :=
  match word.toList with
  | '-' :: _ :: _ => true
  | ['('] | ['!'] | [','] | [')'] => true
  | _ => false

/-- What is kept of a plan once the whole expression is known. -/
def findPlan (words : List String) (follows : Bool) : Except String FindDraft := do
  let start : FindDraft :=
    ⟨⟨.always true, 0, none, false, follows, []⟩, false, false, []⟩
  if words.isEmpty then return { start with plan.sift := .write none "\n" }
  else
    let ((sift, rest), draft) ← (siftSequence (8 * words.length + 8) words).run start
    if !rest.isEmpty then throw "invalid expression; you have too many ')'"
    else
      let sift := if draft.hasAction then sift else .both sift (.write none "\n")
      return { draft with plan.sift := sift }

def find : Shell.Launcher := fun start arguments shell =>
  let options := arguments.takeWhile fun word => ["-H", "-L", "-P"].contains word
  let words := arguments.drop options.length
  let roots := words.takeWhile fun word => !isExpressionStart word
  match findPlan (words.drop roots.length) (options.getLast? = some "-L") with
  | .error message => settled (fail message 1 shell)
  | .ok draft =>
    let tree := draft.files.foldl
      (fun tree path => (tree.writeBytes ⟨path⟩ ByteArray.empty).2) shell.tree
    let roots := if roots.isEmpty then ["."] else roots
    let r : SearchRun := ⟨{ shell.finish 0 with tree }, false, false, []⟩
    let r := roots.foldl (visitRoot start draft.plan (options.getLast? = some "-H")) r
    let shell := draft.plan.commands.foldl
      (fun shell (number, command) =>
        let paths := (r.gathered.filter fun entry => entry.1 == number).map Prod.snd
        if paths.isEmpty then shell
        else
          let (isFine, shell) := runFound start (command ++ paths.reverse) shell
          if isFine then shell else shell.finish 1)
      r.shell
    settled shell

end DtoGen.Tool

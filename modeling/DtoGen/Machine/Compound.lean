import DtoGen.Machine.Regex.Notation
import DtoGen.Machine.Simple
import DtoGen.Text.Letter

namespace DtoGen.Shell

/-- Runs the trap for commands that fail. It is not run for what it does itself. -/
def noticeFailure (run : Runner) (shell : Shell) : Shell :=
  match shell.dialect, shell.traps.lookup "ERR" with
  | .extended, some text =>
    let traps := shell.traps.filter fun entry => entry.1 != "ERR"
    let result := runTrap run "error trap" text { shell with traps }
    if (result.traps.lookup "ERR").isSome then result
    else { result with traps := ("ERR", text) :: result.traps }
  | _, _ => shell

/-- Ends the script on a failure that is not tested, if this is asked for. -/
def settle (isTested : Bool) (shell : Shell) : Shell :=
  if !isTested && shell.hasOption 'e' && shell.status != 0 && !shell.isStopped then
    shell.stop (.code shell.status)
  else shell

/-- What comes behind a command. -/
def conclude (run : Runner) (isTested : Bool) (shell : Shell) : Shell :=
  let shell := { shell with statuses := [shell.status] }
  if isTested || shell.status == 0 || shell.isStopped then shell
  else settle isTested (noticeFailure run shell)

/-- Runs the trap that is run in front of every simple command. -/
def forewarn (run : Runner) (line : Nat) (shell : Shell) : Shell :=
  match shell.dialect, shell.traps.lookup "DEBUG" with
  | .extended, some text =>
    let traps := shell.traps.filter fun entry => entry.1 != "DEBUG"
    let result := runTrap run "debug trap" text { shell with traps, line }
    { result with traps := ("DEBUG", text) :: result.traps }
  | _, _ => shell

/-- Whether the loop goes on after what it has run. What leaves it counts down. -/
def landing (shell : Shell) : Bool × Shell :=
  match shell.ending, shell.leap with
  | some _, _ | none, some .back | none, some .line => (false, shell)
  | none, none => (true, shell)
  | none, some (.leave n) =>
    (false, { shell with leap := if n ≤ 1 then none else some (.leave (n - 1)) })
  | none, some (.again n) =>
    if n ≤ 1 then (true, { shell with leap := none })
    else (false, { shell with leap := some (.again (n - 1)) })

/-- Repeats a body as long as the test has the result. The status is that of the last round. The
first argument bounds the rounds. -/
def repeatBody (test body : Shell → Shell) (result : Bool) : Nat → Nat → Shell → Shell
  | 0, _, shell => shell.stop (.signal 9)
  | bound + 1, status, shell =>
    let tested := test shell
    let (goesOn, landed) := landing tested
    if !goesOn then
      if landed.isStopped then landed else landed.finish status
    else if tested.leap.isSome then repeatBody test body result bound status landed
    else if (tested.status == 0) != result then landed.finish status
    else
      let (goesOn, landed) := landing (body landed)
      if goesOn then repeatBody test body result bound landed.status landed else landed

/-- Runs a body for each value of a variable. What is shown is shown in front of every round. -/
def eachValue (announce body : Shell → Shell) (name : String) : List String → Shell → Shell
  | [], shell => shell
  | value :: values, shell =>
    let set := (announce shell).set name value
    if set.isStopped then set
    else
      let (goesOn, landed) := landing (body set)
      if goesOn then eachValue announce body name values landed else landed

def roundLimit : Nat := 10000000

/-- Runs a loop, one level further in. -/
def inLoop (body : Shell → Shell) (shell : Shell) : Shell :=
  { body { shell with loops := shell.loops + 1 } with loops := shell.loops }

def wordsText (words : List Word) : String :=
  " ".intercalate (words.map Script.Grammar.wordText)

/-- The words of a loop, or the arguments of the script. -/
def loopValues (run : Runner) (words : Option (List Word)) (shell : Shell) :
    List String × Shell :=
  match words with
  | some words => fieldsOf (collect run) (fun _ => false) words shell
  | none => (shell.arguments, shell)

def loopHead (keyword name : String) (words : Option (List Word)) : String :=
  keyword ++ " " ++ name ++ " in " ++ (words.map wordsText).getD "\"$@\""

/-- Tells that a loop cannot set a variable of that name. -/
def refuseLoop (name : String) (shell : Shell) : Shell :=
  shell.complainPlainly ("\x60" ++ name ++ "': not a valid identifier") 1

def runEach (run : Runner) (isTested : Bool) (line : Nat) (name : String)
    (words : Option (List Word)) (body : Script) (shell : Shell) : Shell :=
  let (values, shell) := loopValues run words { shell with line }
  let announce (shell : Shell) : Shell :=
    forewarn run line (traceMore run (loopHead "for" name words) shell)
  if shell.isStopped then shell
  else if !Script.isName name.toList then refuseLoop name shell
  else if values.isEmpty then shell.finish 0
  else inLoop (eachValue announce (run isTested body) name values) shell

def menuText (values : List String) : String :=
  String.join (values.zipIdx.map fun (value, n) => toString (n + 1) ++ ") " ++ value ++ "\n")

/-- Lets the standard input choose until something leaves the menu. The first argument bounds the
rounds. -/
def chooseFrom (body : Shell → Shell) (name : String) (values : List String) :
    Nat → Bool → Shell → Shell
  | 0, _, shell => shell.stop (.signal 9)
  | bound + 1, showsMenu, shell =>
    let prompt := (shell.valueOf? "PS3").getD "#? "
    let menu := if showsMenu then menuText values else ""
    let asked := match shell.outputs.lookup 2 with
      | some sink => shell.pour (bytes (menu ++ prompt)) sink
      | none => shell
    let (bs, hasEnd, asked) := asked.takeUntil 0 10
    if bs.isEmpty && !hasEnd then (asked.say "\n").finish 1
    else
      let reply := Text.trimmed (Text.decode ⟨bs.toArray⟩)
      let replied := asked.set "REPLY" reply
      if reply = "" then chooseFrom body name values bound true replied
      else
        let value := (reply.toNat?.bind fun n => if n = 0 then none else values[n - 1]?).getD ""
        let (goesOn, landed) := landing (body (replied.set name value))
        if goesOn then chooseFrom body name values bound false landed else landed

def runMenu (run : Runner) (isTested : Bool) (line : Nat) (name : String)
    (words : Option (List Word)) (body : Script) (shell : Shell) : Shell :=
  let (values, shell) := loopValues run words { shell with line }
  if shell.isStopped then shell
  else if !Script.isName name.toList then refuseLoop name shell
  else if values.isEmpty then shell.finish 0
  else
    inLoop (chooseFrom (run isTested body) name values roundLimit true)
      (traceMore run (loopHead "select" name words) shell)

/-- What an arithmetic text comes to, or nothing if it is at fault, which is told. -/
def computeText (run : Runner) (text : String) (shell : Shell) : Option Int × Shell :=
  let word := Script.textWord shell.manner .document false text
  let (stretches, shell) := expand (collect run) word shell
  if shell.isStopped then (none, shell)
  else
    let text := String.ofList ((Stretch.joined stretches).toList.filter (· != '"'))
    let traced := traceMore run ("(( " ++ text ++ " ))") shell
    match traced.calculate text with
    | .ok (value, shell) => (some value, shell)
    | .error fault =>
      (none, named "((" (complain (fault.message shell.dialect) 1) traced)

def runCompute (run : Runner) (line : Nat) (text : String) (shell : Shell) : Shell :=
  match computeText run text { shell with line } with
  | (some value, shell) => shell.finish (if value = 0 then 1 else 0)
  | (none, shell) => shell

/-- Works out a part of a loop by arithmetic. A part that is not there is true. -/
def computePart (run : Runner) (line : Nat) (text : String) (shell : Shell) : Option Int × Shell :=
  if text.toList.all Char.isWhitespace then (some 1, shell)
  else computeText run text { shell with line }

/-- Repeats a body as long as the test holds, with a step behind each round. The first argument
bounds the rounds. -/
def countRounds (test step : Shell → Option Int × Shell) (body : Shell → Shell) :
    Nat → Nat → Shell → Shell
  | 0, _, shell => shell.stop (.signal 9)
  | bound + 1, status, shell =>
    match test shell with
    | (none, shell) => shell
    | (some value, tested) =>
      if value = 0 then tested.finish status
      else
        let (goesOn, landed) := landing (body tested)
        if !goesOn then landed
        else
          match step landed with
          | (none, shell) => shell
          | (some _, stepped) => countRounds test step body bound landed.status stepped

def runCounted (run : Runner) (isTested : Bool) (line : Nat) (start test step : String)
    (body : Script) (shell : Shell) : Shell :=
  match computePart run line start shell with
  | (none, shell) => shell
  | (some _, shell) =>
    inLoop (countRounds (computePart run line test) (computePart run line step)
      (run isTested body) roundLimit 0) shell

/-- A word as a pattern, for texts in which the letter case may count for nothing. -/
def casedPattern (run : Runner) (hasChoices : Bool) (word : Word) (shell : Shell) :
    Pattern × Shell :=
  if shell.hasSetting "nocasematch" then
    let (stretches, shell) := expand (collect run) (Tilde.word shell word) shell
    let glyphs := (stretches.flatMap Stretch.glyphs).map fun (c, isQuoted) => (c.toLower, isQuoted)
    (Pattern.ofGlyphs hasChoices glyphs, shell)
  else patternOf (collect run) hasChoices word shell

def casedText (text : String) (shell : Shell) : List Char :=
  if shell.hasSetting "nocasematch" then text.toLower.toList else text.toList

def fitsAny (run : Runner) (subject : String) : List Word → Shell → Bool × Shell
  | [], shell => (false, shell)
  | word :: words, shell =>
    let (pattern, shell) := casedPattern run shell.manner.hasPatternLists word shell
    if Pattern.matchesText pattern (casedText subject shell) then (true, shell)
    else if shell.isStopped then (false, shell)
    else fitsAny run subject words shell

def runBranch (run : Runner) (isTested : Bool) (branch : Script) (shell : Shell) : Shell :=
  match branch with
  | .nothing => if shell.isStopped then shell else shell.finish 0
  | branch => run isTested branch shell

/-- Runs the arm that a text fits, and those that come with it. The first arguments tell whether
an arm has been run, and whether the next one is run in any case. -/
def runArms (run : Runner) (isTested : Bool) (subject : String) :
    Bool → Bool → List (List Word × Script × ArmEnd) → Shell → Shell
  | hasRun, _, [], shell => if hasRun then shell else shell.finish 0
  | hasRun, falls, (words, body, ending) :: arms, shell =>
    let (isFit, shell) := if falls then (true, shell) else fitsAny run subject words shell
    if shell.isStopped then shell
    else if !isFit then runArms run isTested subject hasRun false arms shell
    else
      let result := runBranch run isTested body shell
      if result.isStopped then result
      else
        match ending with
        | .stop => result
        | .fall => runArms run isTested subject true true arms result
        | .resume => runArms run isTested subject true false arms result

def runSelect (run : Runner) (isTested : Bool) (line : Nat) (subject : Word)
    (arms : List (List Word × Script × ArmEnd)) (shell : Shell) : Shell :=
  let shell := { shell with line }
  let shell := traceMore run ("case " ++ Script.Grammar.wordText subject ++ " in") shell
  let (text, shell) := textOf (collect run) subject shell
  if shell.isStopped then shell
  else runArms run isTested text false false arms shell

/-- A word as a regular expression, in which quoted characters stand for themselves. -/
def expressionText (stretches : List Stretch) : String :=
  let signs := "\\.[]()*+?\x7b\x7d|^$".toList
  String.ofList <| (stretches.flatMap Stretch.glyphs).flatMap fun (c, isQuoted) =>
    if isQuoted && signs.contains c then ['\\', c] else [c]

def keepMatch (e : Regex) (found : Option (Regex.Place × Regex.Place)) (shell : Shell) : Shell :=
  let texts :=
    match found with
    | none => []
    | some (start, stop) =>
      let group (n : Nat) : List UInt8 := (stop.groups.lookup (n + 1)).getD []
      start.since stop :: (List.range e.groupCount).map group
  shell.putVariable "BASH_REMATCH"
    ⟨some (.ofList (texts.map fun bs => Text.decode ⟨bs.toArray⟩)), []⟩

def matchExpression (run : Runner) (left : String) (right : Word) (shell : Shell) :
    Option Bool × Shell :=
  let (stretches, shell) := expand (collect run) (Tilde.word shell right) shell
  if shell.isStopped then (none, shell)
  else
    match Regex.parse (.matching true) (bytes (expressionText stretches)).toList with
    | .error _ => (none, shell.finish 2)
    | .ok e =>
      let e := if shell.hasSetting "nocasematch" then e.ignoringCase else e
      let found := e.find ⟨[], (bytes left).toList, []⟩
      (some found.isSome, keepMatch e found shell)

def shownOperand (text : String) : String :=
  if text = "" then "''" else text

/-- Compares the values of two arithmetic texts. -/
def compareNumbers (operator left right : String) (shell : Shell) : Option Bool × Shell :=
  match shell.calculate left with
  | .error fault => (none, named "[[" (complain (fault.message .extended) 1) shell)
  | .ok (a, shell) =>
    match shell.calculate right with
    | .error fault => (none, named "[[" (complain (fault.message .extended) 1) shell)
    | .ok (b, shell) => (some (Condition.holdsOfNumbers operator a b), shell)

def compareWords (run : Runner) (operator left : String) (right : Word) (shell : Shell) :
    Option Bool × Shell :=
  let trace (shown : String) (shell : Shell) : Shell :=
    traceMore run ("[[ " ++ shownOperand left ++ " " ++ operator ++ " " ++ shownOperand shown
      ++ " ]]") shell
  match operator with
  | "=~" =>
    matchExpression run left right (trace (textOf (collect run) right shell).1 shell)
  | "=" | "==" | "!=" =>
    let (pattern, expanded) := casedPattern run true right shell
    if expanded.isStopped then (none, expanded)
    else
      let fits := Pattern.matchesText pattern (casedText left shell)
      (some (fits == (operator != "!=")), trace (textOf (collect run) right shell).1 expanded)
  | _ =>
    let (text, shell) := textOf (collect run) right shell
    if shell.isStopped then (none, shell)
    else
      let shell := trace text shell
      match operator with
      | "<" => (some (decide (left < text)), shell)
      | ">" => (some (decide (text < left)), shell)
      | "-nt" | "-ot" | "-ef" => (some (Condition.holdsOfFiles shell operator left text), shell)
      | _ => compareNumbers operator left text shell

/-- Whether a criterion holds. A fault answers with nothing, and with a status. -/
def judge (run : Runner) : Criterion → Shell → Option Bool × Shell
  | .holds word, shell =>
    let (text, shell) := textOf (collect run) word shell
    if shell.isStopped then (none, shell)
    else (some (text != ""), traceMore run ("[[ -n " ++ shownOperand text ++ " ]]") shell)
  | .unary operator operand, shell =>
    let (text, shell) := textOf (collect run) operand shell
    if shell.isStopped then (none, shell)
    else
      let shell := traceMore run ("[[ " ++ operator ++ " " ++ shownOperand text ++ " ]]") shell
      match operator, Condition.holdsOf shell operator text with
      | "-a", _ => (some (Condition.holdsOfFile shell "-e" text), shell)
      | _, .ok value => (some value, shell)
      | _, .error message => (none, named "[[" (complain message 1) shell)
  | .binary operator left right, shell =>
    let (text, shell) := textOf (collect run) left shell
    if shell.isStopped then (none, shell) else compareWords run operator text right shell
  | .negation body, shell =>
    let (value, shell) := judge run body shell
    (value.map (!·), shell)
  | .both first second, shell =>
    match judge run first shell with
    | (some true, shell) => judge run second shell
    | result => result
  | .either first second, shell =>
    match judge run first shell with
    | (some false, shell) => judge run second shell
    | result => result

def runCriterion (run : Runner) (line : Nat) (criterion : Criterion) (shell : Shell) : Shell :=
  match judge run criterion { shell with line } with
  | (some value, shell) => shell.finish (if value then 0 else 1)
  | (none, shell) => if shell.status = 0 then shell.finish 1 else shell

def spanText (milliseconds : Nat) : String :=
  let digits := toString (milliseconds % 1000)
  toString (milliseconds / 60000) ++ "m" ++ toString (milliseconds / 1000 % 60) ++ "."
    ++ String.ofList (List.replicate (3 - digits.length) '0') ++ digits ++ "s"

/-- Tells how long something has taken. -/
def runTimed (body : Shell → Shell) (shell : Shell) : Shell :=
  let result := body shell
  if result.isStopped then result
  else
    let span := spanText (result.clock - shell.clock)
    result.warn ("\nreal\t" ++ span ++ "\nuser\t0m0.000s\nsys\t0m0.000s")

end DtoGen.Shell

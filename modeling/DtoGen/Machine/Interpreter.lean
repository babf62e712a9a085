import DtoGen.Machine.Compound

namespace DtoGen

namespace Shell

def pipelineParts : Script → List Script
  | .pipe source sink => source :: pipelineParts sink
  | part => [part]

def step (run : Runner) (isTested : Bool) : Script → Shell → Shell
  | .nothing, shell => shell
  | .simple command, shell =>
    let result := runSimple run isTested command (forewarn run command.line shell)
    conclude run isTested (attend run result)
  | .redirected line body redirects, shell =>
    settle isTested
      (redirected (collect run) redirects id (run isTested body) { shell with line })
  | .subshell body, shell =>
    conclude run isTested (attend run (apart run (run isTested body) shell))
  | .sequence first second, shell => run isTested second (run isTested first shell)
  | .both first second, shell =>
    let shell := run true first shell
    if shell.isStopped || shell.status != 0 then shell else run isTested second shell
  | .either first second, shell =>
    let shell := run true first shell
    if shell.isStopped || shell.status == 0 then shell else run isTested second shell
  | .negation .nothing, shell => shell.finish 1
  | .negation body, shell =>
    let shell := run true body shell
    if shell.isStopped then shell else shell.finish (if shell.status = 0 then 1 else 0)
  | .pipe source sink, shell =>
    let parts := (source :: pipelineParts sink).map fun part => run isTested part
    let result := attend run (runPipeline run parts shell)
    let concluded := conclude run isTested result
    { concluded with statuses := result.statuses }
  | .background body, shell => background run (run false body) shell
  | .choice test yes no, shell =>
    let shell := run true test shell
    if shell.isStopped then shell
    else if shell.status = 0 then run isTested yes shell
    else runBranch run isTested no shell
  | .loop result test body, shell =>
    inLoop (repeatBody (run true test) (run isTested body) result roundLimit 0) shell
  | .each line name words body, shell => runEach run isTested line name words body shell
  | .menu line name words body, shell => runMenu run isTested line name words body shell
  | .counted line start test step body, shell =>
    runCounted run isTested line start test step body shell
  | .select line subject arms, shell => runSelect run isTested line subject arms shell
  | .define name body, shell =>
    let others := shell.functions.filter fun entry => entry.1 != name
    { shell.finish 0 with functions := (name, body) :: others }
  | .criterion line criterion, shell =>
    conclude run isTested (runCriterion run line criterion shell)
  | .compute line text, shell => conclude run isTested (runCompute run line text shell)
  | .timed body, shell => runTimed (run isTested body) shell

/-- Whether files that stand for commands stay behind the command. -/
def keepsProcesses : Script → Bool
  | .simple command => command.words.head? == some [.literal "exec" false]
  | _ => false

/-- Runs a script. One that goes too deep has used up its memory. -/
def run : Nat → Runner
  | 0, _, _, shell => if shell.isStopped then shell else shell.stop (.signal 11)
  | depth + 1, isTested, script, shell =>
    if shell.isStopped then shell
    else
      let result := step (run depth) isTested script shell
      let count := shell.processes.length
      if result.processes.length ≤ count || keepsProcesses script then result
      else
        let ended := endProcesses (run depth) count result.processes.length
          { result with ending := none, leap := none }
        { ended with ending := result.ending, leap := result.leap }

def depthLimit : Nat := 3000

end Shell

namespace Environment

/-- The environment with a variable that has a value in any case. -/
def withDefault (name value : String) (env : Environment) : Environment :=
  if (env name).isSome then env else ⟨env.texts ++ [name ++ "=" ++ value]⟩

end Environment

namespace FileTree

/-- Whether the texts can be handed to a program. -/
def isPassable (invocation : Invocation) : Bool :=
  (invocation.program :: invocation.arguments).all fun text => !text.toList.contains '\x00'

/-- Finds the program of an invocation, in the directory where it runs. -/
def launch? (tree : FileTree) (environment : Environment) (invocation : Invocation) :
    Option (FileTree × Launch) := do
  let inner ← tree.enter? invocation.directory
  let searchPath := (environment "PATH").getD Shell.searchPath
  if !isPassable invocation then none
  else
    match Launch.ofName? inner searchPath invocation.program invocation.arguments with
    | .ok launch => some (inner, launch)
    | .error _ => none

/-- Runs a program, if there is one. The working directory stays. -/
def runProgram (tree : FileTree) (environment : Environment) (invocation : Invocation) :
    Option ProgramResult × FileTree :=
  match tree.launch? environment invocation with
  | none => (none, tree)
  | some (inner, launch) =>
    let run := Shell.run Shell.depthLimit
    let shell := Shell.fresh inner (environment.withDefault "PATH" Shell.searchPath)
      #[⟨invocation.input, 0, .pipe⟩] [(0, 0)] [(1, .channel 0), (2, .channel 1)]
      [ByteArray.empty, ByteArray.empty] 0
    let (status, shell) := Shell.runTool run (Shell.start run Shell.startLimit) launch shell
    (some {
      status
      output := shell.channels.getD 0 ByteArray.empty
      errors := shell.channels.getD 1 ByteArray.empty
    }, { shell.tree with workingDirectory := tree.workingDirectory, mask := tree.mask })

end FileTree

end DtoGen

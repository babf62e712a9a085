import DtoGen.Machine.Shell

namespace DtoGen.Tool

inductive ValueNeed
  | never
  | always
  | perhaps
deriving DecidableEq, Repr

structure OptionShape where
  spellings : List String
  need : ValueNeed
deriving DecidableEq, Repr

namespace OptionShape

def ofText (text : String) : OptionShape :=
  let cs := text.toList
  let spellings (cs : List Char) : List String := (String.ofList cs).splitOn "|"
  match cs.getLast? with
  | some '=' => ⟨spellings cs.dropLast, .always⟩
  | some '?' => ⟨spellings cs.dropLast, .perhaps⟩
  | _ => ⟨spellings cs, .never⟩

def name (shape : OptionShape) : String :=
  shape.spellings.headD ""

end OptionShape

/-- The options that a tool knows, and whether they may come behind operands. -/
structure Grammar where
  shapes : List OptionShape
  mixes : Bool

def grammar (texts : List String) : Grammar :=
  ⟨texts.map OptionShape.ofText, true⟩

/-- A tool whose first operand ends the options. -/
def frontGrammar (texts : List String) : Grammar :=
  ⟨texts.map OptionShape.ofText, false⟩

structure Arguments where
  options : List (String × String)
  operands : List String

namespace Arguments

def has (option : String) (a : Arguments) : Bool :=
  (a.options.lookup option).isSome

def hasAny (options : List String) (a : Arguments) : Bool :=
  options.any fun option => a.has option

def value? (option : String) (a : Arguments) : Option String :=
  a.options.reverse.lookup option

def values (option : String) (a : Arguments) : List String :=
  (a.options.filter fun entry => entry.1 == option).map Prod.snd

def number? (option : String) (a : Arguments) : Option Nat :=
  (a.value? option).bind String.toNat?

def addOperand (operand : String) (a : Arguments) : Arguments :=
  { a with operands := operand :: a.operands }

def addOptions (options : List (String × String)) (a : Arguments) : Arguments :=
  { a with options := options ++ a.options }

end Arguments

def quoted (text : String) : String :=
  "'" ++ text ++ "'"

inductive Fault
  | unknown (option : Char)
  | unknownName (text : String)
  | ambiguous (text : String) (names : List String)
  | missingValue (option : Char)
  | missingNamedValue (name : String)
  | needlessValue (name : String)

def Fault.message : Fault → String
  | unknown option => "invalid option -- " ++ quoted (String.singleton option)
  | unknownName text => "unrecognized option " ++ quoted text
  | ambiguous text names =>
    "option " ++ quoted text ++ " is ambiguous; possibilities:"
      ++ String.join (names.map fun name => " " ++ quoted ("--" ++ name))
  | missingValue option => "option requires an argument -- " ++ quoted (String.singleton option)
  | missingNamedValue name => "option " ++ quoted ("--" ++ name) ++ " requires an argument"
  | needlessValue name => "option " ++ quoted ("--" ++ name) ++ " doesn't allow an argument"

def Grammar.letter? (known : Grammar) (c : Char) : Option OptionShape :=
  known.shapes.find? fun shape => shape.spellings.contains (String.singleton c)

/-- The long spellings that start with a text. A whole spelling counts alone. -/
def Grammar.named (known : Grammar) (text : String) : List (String × OptionShape) :=
  let all := known.shapes.flatMap fun shape =>
    (shape.spellings.filter fun s => s.length > 1).map fun s => (s, shape)
  match all.find? fun entry => entry.1 == text with
  | some entry => [entry]
  | none => all.filter fun entry => text.toList.isPrefixOf entry.1.toList

/-- The options of one argument such as `-ab`, and the one that takes its value from the next
argument. -/
def cluster (known : Grammar) :
    List Char → Except Fault (List (String × String) × Option (Char × OptionShape))
  | [] => .ok ([], none)
  | c :: cs =>
    match known.letter? c with
    | none => .error (.unknown c)
    | some shape =>
      match shape.need with
      | .never =>
        (cluster known cs).map fun (options, last) => ((shape.name, "") :: options, last)
      | .perhaps => .ok ([(shape.name, String.ofList cs)], none)
      | .always =>
        if cs.isEmpty then .ok ([], some (c, shape))
        else .ok ([(shape.name, String.ofList cs)], none)

/-- A long option by what stands behind its two marks: the option, or what still needs a value. -/
def longOption (known : Grammar) (text : String) :
    Except Fault (OptionShape × String × Option String) :=
  let cs := text.toList
  let front := cs.takeWhile (· != '=')
  let value := match cs.drop front.length with
    | _ :: value => some (String.ofList value)
    | [] => none
  match known.named (String.ofList front) with
  | [] => .error (.unknownName ("--" ++ text))
  | [(name, shape)] => .ok (shape, name, value)
  | (name, shape) :: others =>
    if others.all fun other => other.2 == shape then .ok (shape, name, value)
    else .error (.ambiguous ("--" ++ text) (name :: others.map Prod.fst))

def parse (known : Grammar) : List String → Except Fault Arguments
  | [] => .ok ⟨[], []⟩
  | argument :: rest =>
    match argument.toList with
    | ['-', '-'] => .ok ⟨[], rest⟩
    | '-' :: '-' :: text =>
      match longOption known (String.ofList text) with
      | .error fault => .error fault
      | .ok (shape, name, value) =>
        match shape.need, value, rest with
        | .never, some _, _ => .error (.needlessValue name)
        | .always, none, [] => .error (.missingNamedValue name)
        | .always, none, value :: rest =>
          (parse known rest).map (Arguments.addOptions [(shape.name, value)])
        | _, value, rest =>
          (parse known rest).map (Arguments.addOptions [(shape.name, value.getD "")])
    | '-' :: c :: cs =>
      match cluster known (c :: cs) with
      | .error fault => .error fault
      | .ok (options, none) => (parse known rest).map (Arguments.addOptions options)
      | .ok (options, some (letter, shape)) =>
        match rest with
        | [] => .error (.missingValue letter)
        | value :: rest =>
          (parse known rest).map (Arguments.addOptions (options ++ [(shape.name, value)]))
    | _ =>
      if known.mixes then (parse known rest).map (Arguments.addOperand argument)
      else .ok ⟨[], argument :: rest⟩

def sizeOf? (text : String) : Option Nat :=
  let ds := text.toList.takeWhile Char.isDigit
  let unit := String.ofList (text.toList.drop ds.length)
  let units : List (String × Nat) :=
    [ ("", 1), ("b", 512), ("K", 1024), ("k", 1024), ("KiB", 1024), ("kB", 1000), ("KB", 1000),
      ("M", 1048576), ("MiB", 1048576), ("MB", 1000000), ("G", 1073741824), ("GB", 1000000000) ]
  match (String.ofList ds).toNat?, units.lookup unit with
  | some n, some factor => some (n * factor)
  | _, _ => none

def fail (message : String) (status : Nat) (shell : Shell) : Shell :=
  (shell.warn (shell.name ++ ": " ++ message)).finish status

def hint (shell : Shell) : String :=
  "Try '" ++ shell.name ++ " --help' for more information."

/-- Tells what is wrong with the arguments of a tool, and where to look. -/
def misuse (message : String) (status : Nat) (shell : Shell) : Shell :=
  (fail message status shell).warn (hint shell)

/-- A tool by what it does with its arguments, once these are understood. -/
def withArguments (known : Grammar) (status : Nat) (run : Arguments → Shell → Shell) :
    Shell.Command := fun arguments shell =>
  match parse known arguments with
  | .ok a => run a (shell.finish 0)
  | .error fault => misuse fault.message status shell

def extraOperand (operand : String) (shell : Shell) : Shell :=
  misuse ("extra operand " ++ quoted operand) 1 shell

/-- A tool that takes operands from so many to so many. -/
def withOperands (known : Grammar) (least : Nat) (most : Option Nat)
    (run : Arguments → Shell → Shell) : Shell.Command :=
  withArguments known 1 fun a shell =>
    match a.operands, most.bind fun most => a.operands[most]? with
    | _, some extra => extraOperand extra shell
    | operands, none =>
      if least ≤ operands.length then run a shell
      else
        match operands.getLast? with
        | some last => misuse ("missing operand after " ++ quoted last) 1 shell
        | none => misuse "missing operand" 1 shell

end DtoGen.Tool

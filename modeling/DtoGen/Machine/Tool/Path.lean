import DtoGen.Machine.Tool.Input

namespace DtoGen.Tool

def isSlash (c : Char) : Bool :=
  c == '/'

def withoutSlashes (cs : List Char) : List Char :=
  (cs.reverse.dropWhile isSlash).reverse

def lastStep (text : String) : String :=
  let cs := text.toList
  match withoutSlashes cs with
  | [] => if cs.isEmpty then "" else "/"
  | cs => String.ofList (cs.reverse.takeWhile fun c => !isSlash c).reverse

/-- A path without its last step. -/
def frontSteps (text : String) : String :=
  let cs := text.toList
  let start := if cs.head?.any isSlash then "/" else "."
  let front := (withoutSlashes cs).reverse.dropWhile fun c => !isSlash c
  match withoutSlashes front.reverse with
  | [] => start
  | cs => String.ofList cs

/-- A text without an ending, unless it is nothing else. -/
def withoutEnding (ending text : String) : String :=
  if text != ending && ending.toList.isSuffixOf text.toList then
    String.ofList (text.toList.take (text.length - ending.length))
  else text

def closing (a : Arguments) : String :=
  if a.has "z" then "\x00" else "\n"

def dirname : Shell.Command :=
  withOperands (grammar ["z|zero"]) 1 none fun a shell =>
    shell.say (String.join (a.operands.map fun text => frontSteps text ++ closing a))

def basename : Shell.Command :=
  withArguments (grammar ["a|multiple", "s|suffix=", "z|zero"]) 1 fun a shell =>
    let say (ending : String) (texts : List String) : Shell :=
      shell.say (String.join (texts.map fun text =>
        withoutEnding ending (lastStep text) ++ closing a))
    match a.operands, a.hasAny ["a", "s"] with
    | [], _ => misuse "missing operand" 1 shell
    | operands, true => say ((a.value? "s").getD "") operands
    | [text], false => say "" [text]
    | [text, ending], false => say ending [text]
    | _ :: _ :: extra :: _, false => extraOperand extra shell

def placeText (place : Place) : String :=
  "/" ++ "/".intercalate place

/-- Where a path leads, whether or not anything on the way is there. -/
def lenientPlace (tree : FileTree) (path : Path) : Place :=
  path.components.foldl
    (fun place component =>
      let here := tree.locate? ⟨placeText place⟩ |>.getD place
      match component with
      | .root => []
      | .here => here
      | .up => here.dropLast
      | .name text => here ++ [text])
    (tree.start path)

/-- How much of a path has to be there. -/
inductive Strictness
  | all
  | allButLast
  | nothing

def strictness (a : Arguments) (default : Strictness) : Strictness :=
  if a.has "e" then .all else if a.has "m" then .nothing else if a.has "f" then .allButLast
  else default

def resolved? (strict : Strictness) (tree : FileTree) (operand : String) : Option Place :=
  let path : Path := ⟨operand⟩
  match strict with
  | .nothing =>
    let place := lenientPlace tree path
    some ((tree.locate? ⟨placeText place⟩).getD place)
  | .allButLast => tree.locate? path
  | .all => if (tree.find? path).isSome then tree.locate? path else none

def relativeText (start target : Place) : String :=
  let common := ((start.zip target).takeWhile fun (a, b) => a == b).length
  let steps := (start.drop common).map (fun _ => "..") ++ target.drop common
  if steps.isEmpty then "." else "/".intercalate steps

/-- A path without steps back, by its spelling alone. -/
def spelledPlace (tree : FileTree) (operand : String) : Place :=
  let path : Path := ⟨operand⟩
  path.components.foldl
    (fun place component =>
      match component with
      | .root => []
      | .here => place
      | .up => place.dropLast
      | .name text => place ++ [text])
    (tree.start path)

def realpath : Shell.Command :=
  withOperands (grammar ["e|canonicalize-existing", "m|canonicalize-missing", "q|quiet", "z|zero",
      "s|strip|no-symlinks", "L|logical", "P|physical", "relative-to=", "relative-base="])
    1 none fun a shell =>
    a.operands.foldl
      (fun shell operand =>
        let place :=
          if a.has "s" then some (spelledPlace shell.tree operand)
          else resolved? (strictness a .allButLast) shell.tree operand
        match place with
        | some place =>
          let text :=
            match a.value? "relative-to" with
            | some start => relativeText (lenientPlace shell.tree ⟨start⟩) place
            | none => placeText place
          shell.say (text ++ closing a)
        | none =>
          if a.has "q" then shell.finish 1
          else fail (becauseOf operand (shell.tree.absence ⟨operand⟩)) 1 shell)
      shell

/-- The target of a link as it is written, or where a path leads in the end. -/
def readlink : Shell.Command :=
  withOperands (grammar ["f|canonicalize", "e|canonicalize-existing", "m|canonicalize-missing",
      "n|no-newline", "q|quiet", "s|silent", "v|verbose", "z|zero"]) 1 none fun a shell =>
    let ending := if a.has "n" && a.operands.length = 1 then "" else closing a
    a.operands.foldl
      (fun shell operand =>
        let text :=
          if a.hasAny ["f", "e", "m"] then
            (resolved? (strictness a .allButLast) shell.tree operand).map placeText
          else
            match shell.tree.findAt? ⟨operand⟩ with
            | some (.link target) => some target
            | _ => none
        match text with
        | some text => shell.say (text ++ ending)
        | none =>
          if a.has "v" then
            let isFound := (shell.tree.findAt? ⟨operand⟩).isSome
            let reason := if isFound then "Invalid argument" else shell.tree.absence ⟨operand⟩
            fail (becauseOf operand reason) 1 shell
          else shell.finish 1)
      shell

end DtoGen.Tool

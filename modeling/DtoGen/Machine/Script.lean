namespace DtoGen

/-- The shell that a script is written for. -/
inductive Dialect
  | plain
  | extended
deriving DecidableEq, Repr

/-- How a script is to be read. -/
structure Manner where
  dialect : Dialect
  /-- Whether patterns such as `+(a|b)` may stand in words. -/
  hasPatternLists : Bool
  /-- Texts that take the place of a command's name. -/
  aliases : List (String × String)
deriving DecidableEq, Repr

inductive ReplaceScope
  | first
  | all
  | atStart
  | atEnd
deriving DecidableEq, Repr

/-- What is done to the value of a parameter. -/
inductive Change
  | length
  /-- What to do about a parameter without a value, by the signs `-`, `=`, `?` and `+`. -/
  | fallback (sign : Char) (emptyCounts : Bool) (text : String)
  | cutStart (isLongest : Bool) (pattern : String)
  | cutEnd (isLongest : Bool) (pattern : String)
  /-- A part of the value, by arithmetic texts. -/
  | slice (start : String) (length : Option String)
  | replace (scope : ReplaceScope) (pattern replacement : String)
  /-- The letter case of the characters that fit, by the signs `^`, `,` and `~`. -/
  | recase (sign : Char) (isAll : Bool) (pattern : String)
  | transform (letter : Char)
  /-- The names of the variables that start with the name. -/
  | names
  /-- The places of the values, instead of these. -/
  | places
deriving DecidableEq, Repr

/-- A parameter, or a part of a variable that holds several values. -/
structure Reference where
  name : String
  /-- The text in brackets behind the name. -/
  subscript : Option String
  /-- Whether the value is the name of what is meant. -/
  isIndirect : Bool
deriving DecidableEq, Repr

/-- A part of a word. Only what is not quoted can fall into several fields. -/
inductive Piece
  | literal (text : String) (isQuoted : Bool)
  | parameter (reference : Reference) (change : Option Change) (isQuoted : Bool)
  /-- Text in braces that means nothing. -/
  | badParameter (text : String)
  | command (script : String) (isQuoted : Bool)
  /-- The path of what a command writes, or of what it reads. -/
  | process (script : String) (isSource : Bool)
  | arithmetic (text : String) (isQuoted : Bool)
  /-- The values of a variable that holds several, as they stand in parentheses. -/
  | list (text : String)
  /-- The name and the subscript in front of an assignment. -/
  | element (name subscript : String)
deriving DecidableEq, Repr

abbrev Word := List Piece

/-- A document that the end of the script has closed. -/
structure UnclosedDocument where
  firstLine : Nat
  lastLine : Nat
  ending : String
deriving DecidableEq, Repr

/-- How a file is opened to be written. -/
inductive Opening
  /-- Anew, unless files are protected. -/
  | replace
  /-- Anew in any case. -/
  | force
  | append
deriving DecidableEq, Repr

inductive Target
  | file (name : Word) (opening : Opening)
  | input (name : Word)
  /-- The text that follows the line of the redirection. -/
  | document (content : Word) (unclosed : Option UnclosedDocument)
  /-- One line of text. -/
  | line (content : Word)
  | descriptor (number : Word)
deriving DecidableEq, Repr

structure Redirect where
  descriptor : Nat
  target : Target
deriving DecidableEq, Repr

structure Assignment where
  name : String
  subscript : Option String
  appends : Bool
  value : Word
deriving DecidableEq, Repr

structure SimpleCommand where
  line : Nat
  assignments : List Assignment
  words : List Word
  redirects : List Redirect
deriving DecidableEq, Repr

/-- What a conditional command asks. -/
inductive Criterion
  | holds (word : Word)
  | unary (operator : String) (operand : Word)
  | binary (operator : String) (left right : Word)
  | negation (body : Criterion)
  | both (first second : Criterion)
  | either (first second : Criterion)
deriving Repr

/-- What comes behind an arm of a selection that was chosen. -/
inductive ArmEnd
  | stop
  /-- The next arm is run as well. -/
  | fall
  /-- The search goes on. -/
  | resume
deriving DecidableEq, Repr

inductive Script
  | nothing
  | simple (command : SimpleCommand)
  | redirected (line : Nat) (body : Script) (redirects : List Redirect)
  | subshell (body : Script)
  | sequence (first second : Script)
  | both (first second : Script)
  | either (first second : Script)
  | negation (body : Script)
  | pipe (source sink : Script)
  | background (body : Script)
  | choice (test yes no : Script)
  /-- Repeats the body as long as the test has the result. -/
  | loop (result : Bool) (test body : Script)
  /-- Without words, the arguments of the script. -/
  | each (line : Nat) (name : String) (words : Option (List Word)) (body : Script)
  /-- Lets the standard input choose among the words. -/
  | menu (line : Nat) (name : String) (words : Option (List Word)) (body : Script)
  /-- A loop by arithmetic: a start, a test and a step. -/
  | counted (line : Nat) (start test step : String) (body : Script)
  | select (line : Nat) (subject : Word) (arms : List (List Word × Script × ArmEnd))
  | define (name : String) (body : Script)
  | criterion (line : Nat) (criterion : Criterion)
  | compute (line : Nat) (text : String)
  /-- Tells how long the body has taken. -/
  | timed (body : Script)

/-- Why a text is no script. -/
inductive FaultCause
  /-- What stands there, if it is not the end, and what has to. -/
  | unexpected (found : Option String) (expected : Option String)
  | unclosed (mark : Char)
  | badLoopVariable
  | badFunctionName
  /-- What is wrong with a conditional command, and near what. -/
  | badCriterion (message : String) (near : Option String)
deriving DecidableEq, Repr

/-- Where a text stops being a script. -/
structure ScriptFault where
  line : Nat
  cause : FaultCause
deriving DecidableEq, Repr

end DtoGen

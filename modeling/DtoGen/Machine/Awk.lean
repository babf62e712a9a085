import DtoGen.Decimal.Numeral

namespace DtoGen.Awk

abbrev Bytes := List UInt8

inductive Operator
  | add
  | subtract
  | multiply
  | divide
  | modulo
  | power
deriving DecidableEq, Repr

inductive Comparison
  | less
  | atMost
  | equal
  | different
  | greater
  | atLeast
deriving DecidableEq, Repr

inductive Expression
  | number (value : Numeral)
  | text (bytes : Bytes)
  /-- A regular expression between slashes. -/
  | pattern (source : Bytes)
  | variable (name : String)
  | field (index : Expression)
  | element (table : String) (keys : List Expression)
  | assign (target : Expression) (operator : Option Operator) (value : Expression)
  /-- Counts a variable up or down. -/
  | step (target : Expression) (isUp : Bool) (isBefore : Bool)
  | choice (test yes no : Expression)
  | both (first second : Expression)
  | either (first second : Expression)
  | not (body : Expression)
  | negative (body : Expression)
  | positive (body : Expression)
  | arithmetic (operator : Operator) (left right : Expression)
  | joined (left right : Expression)
  | compare (comparison : Comparison) (left right : Expression)
  | fits (subject pattern : Expression) (isNegated : Bool)
  | isIn (keys : List Expression) (table : String)
  | call (name : String) (arguments : List Expression)
  | builtin (name : String) (arguments : List Expression)
  | readNext (target : Option Expression)
  | readFile (target : Option Expression) (path : Expression)
  | readCommand (target : Option Expression) (command : Expression)
  /-- Several values in parentheses. -/
  | group (members : List Expression)
deriving Repr

inductive Outlet
  | standard
  | file (path : Expression)
  | append (path : Expression)
  | command (command : Expression)
deriving Repr

inductive Statement
  | block (statements : List Statement)
  | evaluate (expression : Expression)
  | print (values : List Expression) (outlet : Outlet)
  | printf (values : List Expression) (outlet : Outlet)
  | branch (test : Expression) (yes : Statement) (no : Option Statement)
  | loop (test : Option Expression) (step : Option Statement) (body : Statement)
  /-- A loop whose test comes behind the body. -/
  | lateLoop (body : Statement) (test : Expression)
  | each (name table : String) (body : Statement)
  | next
  | nextFile
  | exit (status : Option Expression)
  | back (value : Option Expression)
  | leave
  | again
  | delete (table : String) (keys : Option (List Expression))
deriving Repr

/-- When a rule is followed. -/
inductive Condition
  | atStart
  | atEnd
  | always
  | when (test : Expression)
  | between (first last : Expression)
deriving Repr

structure Rule where
  condition : Condition
  /-- Without an action the record is printed. -/
  action : Option Statement

structure Function where
  parameters : List String
  body : Statement

structure Program where
  rules : List Rule
  functions : List (String × Function)

end DtoGen.Awk

import DtoGen.Path

namespace DtoGen

/-- A program with its arguments. Without a directory it runs in the working directory. -/
structure Invocation where
  program : String
  arguments : List String
  directory : Option Path
  input : ByteArray

/-- How a program ended. -/
inductive ExitStatus
  | code (n : Nat)
  | signal (n : Nat)
deriving DecidableEq, Repr

structure ProgramResult where
  status : ExitStatus
  output : ByteArray
  errors : ByteArray

namespace Signal

def names : List String :=
  [ "HUP", "INT", "QUIT", "ILL", "TRAP", "ABRT", "BUS", "FPE", "KILL", "USR1", "SEGV", "USR2",
    "PIPE", "ALRM", "TERM", "STKFLT", "CHLD", "CONT", "STOP", "TSTP", "TTIN", "TTOU", "URG", "XCPU",
    "XFSZ", "VTALRM", "PROF", "WINCH", "IO", "PWR", "SYS" ]

def name? (n : Nat) : Option String :=
  if n = 0 then none else names[n - 1]?

end Signal

end DtoGen

import DtoGen.Machine.Shell

namespace DtoGen.Signal

/-- Past the named signals, numbers from here on count for themselves. -/
def firstRealTime : Nat := 34

def last : Nat := 64

/-- Descriptions by name. The signals that end programs in the usual way of working have none. -/
def descriptions : List (String × String) :=
  [ ("HUP", "Hangup"), ("QUIT", "Quit"), ("ILL", "Illegal instruction"),
    ("TRAP", "Trace/breakpoint trap"), ("ABRT", "Aborted"), ("BUS", "Bus error"),
    ("FPE", "Floating point exception"), ("KILL", "Killed"), ("USR1", "User defined signal 1"),
    ("SEGV", "Segmentation fault"), ("USR2", "User defined signal 2"), ("ALRM", "Alarm clock"),
    ("TERM", "Terminated"), ("STKFLT", "Stack fault"), ("XCPU", "CPU time limit exceeded"),
    ("XFSZ", "File size limit exceeded"), ("VTALRM", "Virtual timer expired"),
    ("PROF", "Profiling timer expired"), ("IO", "I/O possible"), ("PWR", "Power failure"),
    ("SYS", "Bad system call") ]

/-- What a shell says about a program that a signal has ended. -/
def describe? (n : Nat) : Option String :=
  match name? n with
  | some name => descriptions.lookup name
  | none =>
    if n < firstRealTime then some ("Unknown signal " ++ toString n)
    else some ("Real-time signal " ++ toString (n - firstRealTime))

/-- The signals without a name count from the first one or back from the last one. -/
def realTimeName (n : Nat) : String :=
  let distance (sign : String) (count : Nat) : String :=
    if count = 0 then "" else sign ++ toString count
  if n < 50 then "RTMIN" ++ distance "+" (n - firstRealTime)
  else "RTMAX" ++ distance "-" (last - n)

def shellName (dialect : Dialect) (n : Nat) : String :=
  match name? n with
  | some name => if name = "STKFLT" && dialect == .plain then toString n else name
  | none => if n < firstRealTime then toString n else realTimeName n

def numberOfName? (dialect : Dialect) (name : String) : Option Nat :=
  ((List.range last).map (· + 1)).find? fun n => shellName dialect n == name

/-- Signals that change nothing where they are not expected. -/
def ignored : List String :=
  ["CHLD", "CONT", "URG", "WINCH"]

def isIgnored (n : Nat) : Bool :=
  (name? n).any ignored.contains

end DtoGen.Signal

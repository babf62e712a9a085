namespace DtoGen

/-- The names on the way from the root. -/
abbrev Place := List String

/-- Files that are not kept anywhere. -/
inductive Device
  /-- Swallows what is written, and is empty. -/
  | null
  /-- Swallows what is written, and is all zeros. -/
  | zero
  /-- Has no room for what is written, and is all zeros. -/
  | full
  /-- Cannot be opened by a program that runs in the background. -/
  | terminal
deriving DecidableEq, Repr

inductive Entry
  | directory
  | file (content : ByteArray) (mode : Nat)
  /-- Stands for another path, which starts at the directory of the link. -/
  | link (target : String)
  | device (device : Device)
  /-- A program of the system. -/
  | program (name : String)

namespace Entry

def isDirectory : Entry → Bool
  | directory => true
  | _ => false

/-- The mode of a file that nothing else is said of. -/
def plainMode : Nat := 0o644

def executableMode : Nat := 0o755

/-- A mode in which someone may execute the file. -/
def allowsExecution (mode : Nat) : Bool :=
  mode % 2 == 1 || mode / 8 % 2 == 1 || mode / 64 % 2 == 1

/-- How the code of a program begins. -/
def programHead : List UInt8 :=
  [127, 69, 76, 70, 2, 1, 1, 0, 0, 0, 0, 0, 255, 254, 0, 0]

/-- As many zeros as are taken from an endless device. -/
def endlessSize : Nat := 65536

def content? : Entry → Option ByteArray
  | file content _ => some content
  | device .null => some ByteArray.empty
  | device .zero | device .full => some ⟨(List.replicate endlessSize (0 : UInt8)).toArray⟩
  | program _ => some ⟨programHead.toArray⟩
  | directory | link _ | device .terminal => none

end Entry

namespace BaseSystem

def directories : List Place :=
  [ ["boot"], ["dev"], ["dev", "pts"], ["dev", "shm"], ["etc"], ["home"], ["media"], ["mnt"],
    ["opt"], ["proc"], ["proc", "self"], ["root"], ["run"], ["srv"], ["sys"], ["tmp"], ["usr"],
    ["usr", "bin"], ["usr", "lib"], ["usr", "local"], ["usr", "local", "bin"], ["usr", "sbin"],
    ["usr", "share"], ["var"], ["var", "lib"], ["var", "log"], ["var", "tmp"] ]

/-- Directories that nothing can be put into. -/
def closed : List Place :=
  [["proc"], ["proc", "self"], ["sys"]]

def links : List (Place × String) :=
  [ (["bin"], "usr/bin"), (["lib"], "usr/lib"), (["sbin"], "usr/sbin"),
    (["dev", "fd"], "/proc/self/fd"), (["usr", "bin", "sh"], "dash"),
    (["usr", "bin", "awk"], "mawk"), (["usr", "bin", "which"], "which.debianutils") ]

def devices : List (String × Device) :=
  [ ("null", .null), ("zero", .zero), ("full", .full), ("random", .zero), ("urandom", .zero),
    ("tty", .terminal), ("console", .terminal) ]

/-- The names of the programs. -/
def programs : List String :=
  [ "[", "arch", "b2sum", "base32", "base64", "basename", "bash", "cat", "chgrp", "chmod", "chown",
    "cksum", "cmp", "comm", "cp", "csplit", "cut", "dash", "date", "dd", "df", "diff", "dir",
    "dirname", "du", "echo", "egrep", "env", "expand", "expr", "factor", "false", "fgrep", "find",
    "fmt", "fold", "getopt", "grep", "groups", "gunzip", "gzip", "head", "hostid", "hostname", "id",
    "install", "join", "kill", "link", "ln", "logname", "ls", "mawk", "md5sum", "mkdir", "mkfifo",
    "mknod", "mktemp", "more", "mv", "nice", "nl", "nohup", "nproc", "numfmt", "od", "paste",
    "pathchk", "perl", "pr", "printenv", "printf", "pwd", "readlink", "realpath", "rev", "rm",
    "rmdir", "sed", "seq", "setsid", "sha1sum", "sha224sum", "sha256sum", "sha384sum", "sha512sum",
    "shred", "shuf", "sleep", "sort", "split", "stat", "stdbuf", "stty", "sum", "sync", "tac", "tail",
    "tar", "tee", "test", "timeout", "touch", "tr", "true", "truncate", "tsort", "tty", "uname",
    "unexpand", "uniq", "unlink", "users", "vdir", "wc", "which.debianutils", "who", "whoami",
    "xargs", "yes", "zcat" ]

/-- Where the programs are. -/
def programDirectory : Place :=
  ["usr", "bin"]

/-- What every system brings along. -/
def entries : List (Place × Entry) :=
  directories.map (fun place => (place, .directory))
    ++ links.map (fun (place, target) => (place, .link target))
    ++ devices.map (fun (name, device) => (["dev", name], .device device))
    ++ programs.map fun name => (programDirectory ++ [name], .program name)

end BaseSystem

end DtoGen

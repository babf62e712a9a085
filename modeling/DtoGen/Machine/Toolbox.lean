import DtoGen.Machine.Tool.Awk
import DtoGen.Machine.Tool.Batch
import DtoGen.Machine.Tool.Checksum
import DtoGen.Machine.Tool.Clock
import DtoGen.Machine.Tool.Column
import DtoGen.Machine.Tool.Copy
import DtoGen.Machine.Tool.Count
import DtoGen.Machine.Tool.Difference
import DtoGen.Machine.Tool.Dump
import DtoGen.Machine.Tool.Edit
import DtoGen.Machine.Tool.Find
import DtoGen.Machine.Tool.Formatted
import DtoGen.Machine.Tool.Listing
import DtoGen.Machine.Tool.Mode
import DtoGen.Machine.Tool.Number
import DtoGen.Machine.Tool.Order
import DtoGen.Machine.Tool.Part
import DtoGen.Machine.Tool.Path
import DtoGen.Machine.Tool.Search
import DtoGen.Machine.Tool.Setting
import DtoGen.Machine.Tool.System
import DtoGen.Machine.Tool.Translate

namespace DtoGen.Toolbox

def fileTools : List (String × Shell.Command) :=
  [ ("basename", Tool.basename), ("chgrp", Tool.constant 0), ("chmod", Tool.chmod),
    ("chown", Tool.constant 0), ("cp", Tool.cp), ("dirname", Tool.dirname),
    ("install", Tool.install), ("link", Tool.link), ("ln", Tool.ln), ("ls", Tool.ls),
    ("mkdir", Tool.mkdir), ("mktemp", Tool.mktemp), ("mv", Tool.mv), ("readlink", Tool.readlink),
    ("realpath", Tool.realpath), ("rm", Tool.rm), ("rmdir", Tool.rmdir), ("stat", Tool.stat),
    ("sync", Tool.constant 0), ("touch", Tool.touch), ("truncate", Tool.truncate),
    ("unlink", Tool.unlink) ]

def textTools : List (String × Shell.Command) :=
  [ ("cat", Tool.concatenate), ("cmp", Tool.cmp), ("comm", Tool.comm), ("cut", Tool.cut),
    ("dd", Tool.dd), ("diff", Tool.diff), ("egrep", Tool.grepWith [("E", "")]),
    ("expand", Tool.expand), ("fgrep", Tool.grepWith [("F", "")]), ("fold", Tool.fold),
    ("grep", Tool.grepWith []), ("head", Tool.head), ("join", Tool.join),
    ("more", Tool.concatenate), ("nl", Tool.numberLines), ("paste", Tool.paste),
    ("rev", Tool.reverseCharacters), ("sed", Tool.sed), ("sort", Tool.sort),
    ("split", Tool.split), ("tac", Tool.reverseLines), ("tail", Tool.tail), ("tee", Tool.tee),
    ("tr", Tool.tr), ("tsort", Tool.tsort), ("unexpand", Tool.unexpand), ("uniq", Tool.uniq),
    ("wc", Tool.wc) ]

def codeTools : List (String × Shell.Command) :=
  [ ("base32", Tool.bitTool Tool.base32Alphabet), ("base64", Tool.bitTool Tool.base64Alphabet),
    ("cksum", Tool.cksum), ("md5sum", Tool.digestTool "MD5" Digest.md5), ("od", Tool.od),
    ("sha1sum", Tool.digestTool "SHA1" Digest.sha1),
    ("sha224sum", Tool.digestTool "SHA224" Digest.sha224),
    ("sha256sum", Tool.digestTool "SHA256" Digest.sha256),
    ("sha384sum", Tool.digestTool "SHA384" Digest.sha384),
    ("sha512sum", Tool.digestTool "SHA512" Digest.sha512), ("sum", Tool.sum) ]

def otherTools : List (String × Shell.Command) :=
  [ ("arch", Tool.telling "x86_64"), ("date", Tool.date), ("expr", Tool.expr),
    ("factor", Tool.factor), ("false", Tool.constant 1), ("groups", Tool.groups),
    ("hostid", Tool.telling "00000000"), ("hostname", Tool.hostname), ("id", Tool.id),
    ("logname", Tool.logname), ("nproc", Tool.nproc), ("printenv", Tool.printenv),
    ("printf", Tool.printf), ("seq", Tool.seq), ("sleep", Tool.sleep),
    ("true", Tool.constant 0), ("tty", Tool.tty), ("uname", Tool.uname),
    ("users", Tool.constant 0), ("which.debianutils", Tool.which), ("who", Tool.constant 0),
    ("whoami", Tool.telling "root"), ("yes", Tool.yes) ]

def tools : List (String × Shell.Command) :=
  fileTools ++ textTools ++ codeTools ++ otherTools

def launchers : List (String × Shell.Launcher) :=
  [ ("env", Tool.env), ("find", Tool.find), ("mawk", Tool.awk), ("nice", Tool.nice),
    ("nohup", Tool.nohup), ("setsid", Tool.setsid), ("stdbuf", Tool.stdbuf),
    ("timeout", Tool.timeout), ("xargs", Tool.xargs) ]

end DtoGen.Toolbox

import DtoGen.Generation.Pipeline

namespace DtoGen

inductive Call
  | synthesize
  | resolveConfig (start : Path)
  | format (path : Path) (config : Option Path)
  | createDirectories (path : Path)
  | write (path : Path)
deriving DecidableEq, Repr

namespace Call

def resolvedFrom? : Call → Option Path
  | resolveConfig start => some start
  | _ => none

def isFormat : Call → Bool
  | format _ _ => true
  | _ => false

/-- Whether the call may change the disk. -/
def touchesDisk : Call → Bool
  | createDirectories _ => true
  | write _ => true
  | _ => false

end Call

/-- Actions that leave a list of calls behind. -/
abbrev Traced (m : Type → Type) := StateT (List Call) m

namespace Traced

variable {m : Type → Type} [Monad m] {α : Type}

/-- Notes a call down, then makes it. -/
def call (c : Call) (action : m α) : Traced m α := fun calls => do
  return (← action, calls ++ [c])

/-- Does what is no call of a part. -/
def silent (action : m α) : Traced m α := fun calls => do
  return (← action, calls)

end Traced

section

variable {m : Type → Type} [Monad m]

def Synthesizer.traced (s : Synthesizer m) : Synthesizer (Traced m) where
  extension := s.extension
  synthesize options schema := Traced.call .synthesize (s.synthesize options schema)

def Formatter.traced (f : Formatter m) : Formatter (Traced m) where
  resolveConfig path := Traced.call (.resolveConfig path) (f.resolveConfig path)
  format source path config := Traced.call (.format path config) (f.format source path config)

def Disk.traced (d : Disk m) : Disk (Traced m) where
  createDirectories path := Traced.call (.createDirectories path) (d.createDirectories path)
  write path content := Traced.call (.write path) (d.write path content)

def Pipeline.traced (p : Pipeline m) : Pipeline (Traced m) where
  synthesizer := p.synthesizer.traced
  formatter := p.formatter.traced
  disk := p.disk.traced
  workingDirectory := Traced.silent p.workingDirectory

end

end DtoGen

import DtoGen.Path
import DtoGen.Text.Letter

namespace DtoGen

structure Formatter (m : Type → Type) where
  /-- The configuration file that applies at a path, if there is one. -/
  resolveConfig : Path → m (Except String (Option Path))
  /-- The text as it should be if it were at the path. -/
  format : String → Path → Option Path → m (Except String String)

namespace Formatter

variable {m : Type → Type} [Monad m]

def configName : Path :=
  ⟨".prettierrc"⟩

/-- Makes every letter a capital, and always finds a configuration. -/
def upperCasing : Formatter m where
  resolveConfig path := pure (.ok (some (path / configName)))
  format source _ _ := pure (.ok (Text.uppercase source))

def failing : Formatter m where
  resolveConfig _ := pure (.ok none)
  format _ path _ := pure (.error ("cannot format " ++ path.text))

/-- Cannot say which configuration applies, and would change nothing. -/
def unresolvable : Formatter m where
  resolveConfig path := pure (.error ("no formatter installed to read " ++ path.text))
  format source _ _ := pure (.ok source)

end Formatter

end DtoGen

import DtoGen.Dto.Synthesis

namespace DtoGen

/-- `extension` is that of the barrels. -/
structure Synthesizer (m : Type → Type) where
  extension : String
  synthesize : Options → Schema → m (Except String (List FileSpec))

namespace Synthesizer

variable {m : Type → Type} [Monad m]

def dto : Synthesizer m where
  extension := DtoFile.extension
  synthesize options schema := pure <|
    match schema.dtoFiles options with
    | .ok files => .ok (files.map DtoFile.spec)
    | .error fault => .error fault.message

/-- The same files below the output directory, whatever the schema. -/
def fixed (files : List FileSpec) : Synthesizer m where
  extension := DtoFile.extension
  synthesize options _ :=
    pure (.ok (files.map fun file => { file with path := options.output / file.path }))

def failing (reason : String) : Synthesizer m where
  extension := DtoFile.extension
  synthesize _ _ := pure (.error reason)

end Synthesizer

end DtoGen

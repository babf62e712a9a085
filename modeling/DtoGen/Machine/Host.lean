import DtoGen.Formatter.Prettier
import DtoGen.Machine.Interpreter

namespace DtoGen

/-- Programs see the environment. -/
def Host.ofFileTree (environment : Environment) : Host (StateM FileTree) where
  kind? path tree := ((tree.find? path).map kindOf, tree)
  run invocation tree := tree.runProgram environment invocation

end DtoGen

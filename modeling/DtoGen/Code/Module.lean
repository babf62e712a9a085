import DtoGen.Code.Class
import DtoGen.Code.Import

namespace DtoGen

structure CodeModule where
  imports : List Import
  body : List (List Fragment)
deriving Repr, Inhabited

namespace CodeModule

def isEmpty (m : CodeModule) : Bool :=
  m.imports.isEmpty && m.body.isEmpty

def writeImports (b : Builder) (imports : List Import) : Builder :=
  imports.foldl (fun b i => b.applyAll i.fragments) b

def writeBody (b : Builder) : List (List Fragment) → Builder
  | [] => b
  | [element] => b.applyAll element
  | element :: elements => writeBody (b.applyAll element).blank elements

def render (indent : Indent) (m : CodeModule) : String :=
  let b := writeImports (.start indent) m.imports
  let b := if m.imports.isEmpty || m.body.isEmpty then b else b.blank
  (writeBody b m.body).text

end CodeModule

end DtoGen

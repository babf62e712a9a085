import DtoGen.Code.Fragment
import DtoGen.Text.Letter

namespace DtoGen

structure Property where
  name : String
  type : String
  isOptional : Bool
  isNullable : Bool
  documentation : Option String
deriving DecidableEq, Repr, Inhabited

/-- A documentation comment takes one line, whatever the text. -/
def docFragments (documentation : Option String) : List Fragment :=
  documentation.toList.map fun text => .doc (Text.oneLine text)

namespace Property

def declaration (p : Property) : String :=
  p.name ++ (if p.isOptional then "?" else "") ++ ": " ++ p.type
    ++ (if p.isNullable then " | null" else "") ++ ";"

def fragments (p : Property) : List Fragment :=
  docFragments p.documentation ++ [.line p.declaration]

end Property

structure Class where
  name : String
  isExported : Bool
  documentation : Option String
  properties : List Property
deriving DecidableEq, Repr, Inhabited

namespace Class

def header (c : Class) : String :=
  (if c.isExported then "export " else "") ++ "class " ++ c.name ++ " \x7b"

def fragments (c : Class) : List Fragment :=
  docFragments c.documentation ++
    if c.properties.isEmpty then [.line (c.header ++ "\x7d")]
    else [.block c.header (c.properties.flatMap Property.fragments) (some "\x7d")]

end Class

end DtoGen

import DtoGen.Words

namespace DtoGen

inductive NamingStyle
  | kebab
  | camel
  | pascal
  | snake
deriving DecidableEq, Repr

namespace NamingStyle

instance : Inhabited NamingStyle := ⟨camel⟩

/-- In the order in which they are offered to the user. -/
def all : List NamingStyle :=
  [kebab, camel, pascal, snake]

def name : NamingStyle → String
  | kebab => "kebab"
  | camel => "camel"
  | pascal => "pascal"
  | snake => "snake"

def ofName? (s : String) : Option NamingStyle :=
  all.find? (·.name == s)

def apply : NamingStyle → String → String
  | kebab => kebabCase
  | camel => camelCase
  | pascal => pascalCase
  | snake => snakeCase

/-- The style names in quotes, as messages list them. -/
def choices : String :=
  ", ".intercalate (all.map fun style => "'" ++ style.name ++ "'")

theorem ofName?_name (style : NamingStyle) : ofName? style.name = some style := by
  cases style <;> rfl

end NamingStyle

end DtoGen

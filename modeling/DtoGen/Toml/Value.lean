import DtoGen.Decimal.Shortest

namespace DtoGen

inductive Toml
  | text (s : String)
  | integer (i : Int)
  | float (x : Binary64)
  | bool (b : Bool)
  /-- A number in good spelling that has no value: it is out of range, or its digits are not. -/
  | unreadable
  /-- A date, a time or both, in the standard spelling. -/
  | moment (spelling : String)
  | array (items : List Toml)
  | table (entries : List (String × Toml))

namespace Toml

/-- The text of a value where a text is wanted. Dates and compound values have none. -/
def scalarText : Toml → String
  | text s => s
  | integer i => toString i
  | float x => x.text
  | bool b => if b then "true" else "false"
  | unreadable | moment _ | array _ | table _ => ""

def isCompound : Toml → Bool
  | array _ | table _ => true
  | _ => false

end Toml

end DtoGen

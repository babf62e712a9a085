namespace DtoGen

structure Environment where
  texts : List String

namespace Environment

/-- What comes behind the first characters, if a text has them. -/
def behind? (start text : List Char) : Option (List Char) :=
  if start.isPrefixOf text then some (text.drop start.length) else none

/-- The first text counts that has the name and an equals sign in front. -/
def get? (env : Environment) (name : String) : Option String :=
  if name = "" then none
  else
    (env.texts.findSome? fun text => behind? (name.toList ++ ['=']) text.toList).map String.ofList

instance : CoeFun Environment fun _ => String → Option String := ⟨get?⟩

def empty : Environment :=
  ⟨[]⟩

def ofEntries (entries : List (String × String)) : Environment :=
  ⟨entries.map fun (name, value) => name ++ "=" ++ value⟩

/-- The names, in the order of the texts. -/
def names (env : Environment) : List String :=
  env.texts.map fun text => String.ofList (text.toList.takeWhile (· != '='))

/-- Every variable with the value that it is found by. -/
def entries (env : Environment) : List (String × String) :=
  env.names.eraseDups.filterMap fun name => (env.get? name).map fun value => (name, value)

end Environment

end DtoGen

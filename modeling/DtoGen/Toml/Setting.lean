import DtoGen.Toml.Scalar

namespace DtoGen.Toml

/-- The first key of a table that stands for a date. -/
def momentKey : String :=
  "$__toml_private_datetime"

/-- The value that has to spell a date, if the table stands for one. -/
def disguised? (entries : List (String × Toml)) : Option Toml :=
  if entries.all fun entry => decide (momentKey ≤ entry.1) then entries.lookup momentKey else none

def momentOf? : Toml → Option Toml
  | text s => (moment? s.toList).map fun spelling => moment (String.ofList spelling)
  | _ => none

def fits64 (i : Int) : Bool :=
  (-i).toNat ≤ Nat.pow 2 63 && i.toNat < Nat.pow 2 63

mutual

/-- Whether every number has a value. -/
def isReadable : Toml → Bool
  | unreadable => false
  | array items => areReadable items
  | table entries => entriesAreReadable entries
  | _ => true

def areReadable : List Toml → Bool
  | [] => true
  | item :: items => isReadable item && areReadable items

def entriesAreReadable : List (String × Toml) → Bool
  | [] => true
  | (_, value) :: entries => isReadable value && entriesAreReadable entries

end

mutual

/-- The value with its dates revealed, if nothing that counts is out of range. -/
def settle? : Toml → Option Toml
  | integer i => if fits64 i then some (integer i) else none
  | unreadable => none
  | array items => (settleItems? items).map array
  | table entries =>
    match disguised? entries with
    | some value => momentOf? value
    | none => (settleEntries? entries).map table
  | value => some value

def settleItems? : List Toml → Option (List Toml)
  | [] => some []
  | item :: items => do
    let item ← settle? item
    return item :: (← settleItems? items)

def settleEntries? : List (String × Toml) → Option (List (String × Toml))
  | [] => some []
  | (key, value) :: entries => do
    let value ← settle? value
    return (key, value) :: (← settleEntries? entries)

end

end DtoGen.Toml

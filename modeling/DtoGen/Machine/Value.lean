namespace DtoGen

inductive Value
  | single (text : String)
  /-- Texts by their numbers, in ascending order. -/
  | list (items : List (Nat × String))
  /-- Texts by their keys, a later key first. -/
  | table (items : List (String × String))
deriving DecidableEq, Repr

namespace Value

def ofList (texts : List String) : Value :=
  list (texts.zipIdx.map fun (text, n) => (n, text))

/-- The text that a variable stands for where one text is wanted. -/
def scalar? : Value → Option String
  | single s => some s
  | list items => items.lookup 0
  | table items => items.lookup "0"

def bucketCount : Nat := 1024

def hashStep (hash : UInt32) (b : UInt8) : UInt32 :=
  hash * 16777619 ^^^ b.toUInt32

def bucket (key : String) : Nat :=
  (key.toUTF8.toList.foldl hashStep 2166136261).toNat % bucketCount

/-- The items of a table by their buckets; in one bucket a later key comes first. -/
def inOrder (items : List (String × String)) : List (String × String) :=
  items.mergeSort fun a b => decide (bucket a.1 ≤ bucket b.1)

def entries : Value → List (String × String)
  | single s => [("0", s)]
  | list items => items.map fun (n, text) => (toString n, text)
  | table items => inOrder items

def keys (value : Value) : List String :=
  value.entries.map Prod.fst

def elements (value : Value) : List String :=
  value.entries.map Prod.snd

/-- The number behind the last item. -/
def nextIndex : Value → Nat
  | single _ => 1
  | list items => (items.getLast?.map fun item => item.1 + 1).getD 0
  | table _ => 0

def insertAt (n : Nat) (text : String) : List (Nat × String) → List (Nat × String)
  | [] => [(n, text)]
  | (m, other) :: items =>
    if m < n then (m, other) :: insertAt n text items
    else if m = n then (n, text) :: items
    else (n, text) :: (m, other) :: items

def listItems : Value → List (Nat × String)
  | single s => [(0, s)]
  | list items => items
  | table _ => []

def tableItems : Value → List (String × String)
  | table items => items
  | _ => []

def putAt (n : Nat) (text : String) (value : Option Value) : Value :=
  list (insertAt n text ((value.map listItems).getD []))

def putKey (key text : String) (value : Option Value) : Value :=
  let items := (value.map tableItems).getD []
  if (items.lookup key).isSome then
    table (items.map fun item => if item.1 = key then (key, text) else item)
  else table ((key, text) :: items)

def eraseAt (n : Nat) : Value → Value
  | list items => list (items.filter fun item => item.1 != n)
  | value => value

def eraseKey (key : String) : Value → Value
  | table items => table (items.filter fun item => item.1 != key)
  | value => value

def isTable : Value → Bool
  | table _ => true
  | _ => false

def isCompound : Value → Bool
  | single _ => false
  | _ => true

end Value

/-- A variable with its attributes, by their letters. A variable that was taken away has neither. -/
structure Variable where
  value : Option Value
  attributes : List Char
deriving DecidableEq, Repr

namespace Variable

def absent : Variable :=
  ⟨none, []⟩

def has (letter : Char) (v : Variable) : Bool :=
  v.attributes.contains letter

def mark (letter : Char) (v : Variable) : Variable :=
  { v with attributes := letter :: v.attributes.filter (· != letter) }

def unmark (letter : Char) (v : Variable) : Variable :=
  { v with attributes := v.attributes.filter (· != letter) }

end Variable

end DtoGen

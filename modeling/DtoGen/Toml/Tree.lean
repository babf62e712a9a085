import DtoGen.Toml.Value

namespace DtoGen.Toml

inductive Origin
  | header
  | implied
  | dotted
deriving DecidableEq

inductive Node
  /-- Nothing can be added to a value, not even to an array or an inline table. -/
  | value (v : Toml)
  | table (origin : Origin) (entries : List (String × Node))
  /-- A list of tables, of which only the last one is still open. -/
  | tables (closed : List (List (String × Node))) (last : List (String × Node))

abbrev Entries := List (String × Node)

namespace Entries

def put (key : String) (node : Node) : Entries → Entries
  | [] => [(key, node)]
  | (k, n) :: entries => if k = key then (key, node) :: entries else (k, n) :: put key node entries

/-- Changes the table that a header names by `change`, making the tables on the way. -/
def atHeader (change : Entries → Option Entries) : List String → Entries → Option Entries
  | [], entries => change entries
  | key :: keys, entries => do
    let node ← match entries.lookup key with
      | none => (atHeader change keys []).map (.table .implied)
      | some (.table origin inner) => (atHeader change keys inner).map (.table origin)
      | some (.tables closed last) => (atHeader change keys last).map (.tables closed)
      | some (.value _) => none
    some (put key node entries)

def openTable (key : String) (entries : Entries) : Option Entries :=
  match entries.lookup key with
  | none => some (put key (.table .header []) entries)
  | some (.table .implied inner) => some (put key (.table .header inner) entries)
  | _ => none

def openElement (key : String) (entries : Entries) : Option Entries :=
  match entries.lookup key with
  | none => some (put key (.tables [] []) entries)
  | some (.tables closed last) => some (put key (.tables (closed ++ [last]) []) entries)
  | _ => none

def insert (key : String) (value : Toml) (entries : Entries) : Option Entries :=
  if (entries.lookup key).isSome then none else some (put key (.value value) entries)

/-- Adds a value under a dotted key. -/
def insertDotted (value : Toml) : List String → Entries → Option Entries
  | [], _ => none
  | [key], entries => insert key value entries
  | key :: keys, entries => do
    let isLast := keys.length == 1
    let node ← match entries.lookup key with
      | none => (insertDotted value keys []).map (.table .dotted)
      | some (.table origin inner) =>
        if origin = .header || (isLast && origin != .dotted) then none
        else (insertDotted value keys inner).map (.table origin)
      | some (.tables closed last) =>
        if isLast then none else (insertDotted value keys last).map (.tables closed)
      | some (.value _) => none
    some (put key node entries)

end Entries

mutual

def Node.toToml : Node → Toml
  | .value v => v
  | .table _ entries => .table (entriesToToml entries)
  | .tables closed last => .array (elementsToToml closed ++ [.table (entriesToToml last)])

def entriesToToml : List (String × Node) → List (String × Toml)
  | [] => []
  | (key, node) :: entries => (key, node.toToml) :: entriesToToml entries

def elementsToToml : List (List (String × Node)) → List Toml
  | [] => []
  | entries :: elements => .table (entriesToToml entries) :: elementsToToml elements

end

end DtoGen.Toml

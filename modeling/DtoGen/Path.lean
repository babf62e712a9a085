namespace DtoGen

/-- One step of a path. The constructors stand in the order in which paths are sorted. -/
inductive Component
  | root
  | here
  | up
  | name (text : String)
deriving DecidableEq, Repr

structure Path where
  text : String
deriving DecidableEq, Repr, Inhabited

namespace Path

/-- The pieces between slashes, empty ones included. -/
def pieces : List Char → List (List Char)
  | [] => [[]]
  | c :: cs =>
    if c = '/' then [] :: pieces cs
    else match pieces cs with
      | [] => [[c]]
      | piece :: rest => (c :: piece) :: rest

def joinPieces (ps : List (List Char)) : List Char :=
  ['/'].intercalate ps

def isFiller (piece : List Char) : Bool :=
  piece == [] || piece == ['.']

/-- How a text starts, and the pieces of what follows. The head is a slash, a leading `.`, or
nothing. -/
def parts : List Char → List Char × List (List Char)
  | '/' :: cs => (['/'], pieces cs)
  | ['.'] => (['.'], [])
  | '.' :: '/' :: cs => (['.'], pieces ('/' :: cs))
  | cs => ([], pieces cs)

def headComponents : List Char → List Component
  | '/' :: _ => [.root]
  | '.' :: _ => [.here]
  | _ => []

def pieceComponent (piece : List Char) : Component :=
  if piece = ['.', '.'] then .up else .name (String.ofList piece)

def components (p : Path) : List Component :=
  let (head, body) := parts p.text.toList
  headComponents head ++ (body.filter fun piece => !isFiller piece).map pieceComponent

def samePlace (p q : Path) : Bool :=
  p.components == q.components

def isAbsolute (p : Path) : Bool :=
  p.text.toList.head? == some '/'

/-- An absolute right side replaces the left one. -/
def join (p q : Path) : Path :=
  if q.isAbsolute || p.text.isEmpty then q
  else if p.text.toList.getLast? = some '/' then ⟨p.text ++ q.text⟩
  else ⟨p.text ++ "/" ++ q.text⟩

instance : Div Path := ⟨join⟩

def dropFillersEnd (body : List (List Char)) : List (List Char) :=
  (body.reverse.dropWhile isFiller).reverse

/-- What is left of the spelling without the last component. A root has no parent. -/
def parent? (p : Path) : Option Path :=
  let (head, body) := parts p.text.toList
  match dropFillersEnd body with
  | [] => if head = ['.'] then some ⟨""⟩ else none
  | body => some ⟨String.ofList (head ++ joinPieces (dropFillersEnd body.dropLast))⟩

def parentOrEmpty (p : Path) : Path :=
  p.parent?.getD ⟨""⟩

/-- The last component, when it is a name. -/
def fileName? (p : Path) : Option String :=
  match p.components.getLast? with
  | some (.name text) => some text
  | _ => none

/-- A name without what follows its last dot; a dot in front belongs to the name. -/
def stemOf (name : List Char) : List Char :=
  match (name.reverse.dropWhile (· != '.')).tail.reverse with
  | [] => name
  | stem => stem

def stem? (p : Path) : Option String :=
  p.fileName?.map fun name => String.ofList (stemOf name.toList)

/-- The spelling after the first `count` pieces that are not filler. -/
def dropPieces : Nat → List (List Char) → List (List Char)
  | 0, body => body
  | _, [] => []
  | count + 1, piece :: body =>
    if isFiller piece then dropPieces (count + 1) body else dropPieces count body

/-- The rest of the path below `base`, if it lies there. -/
def below? (p base : Path) : Option Path :=
  let (head, body) := parts p.text.toList
  let count := base.components.length
  if !base.components.isPrefixOf p.components then none
  else if count = 0 then some ⟨String.ofList (head ++ joinPieces (dropFillersEnd body))⟩
  else
    let rest := dropPieces (count - (headComponents head).length) body
    some ⟨String.ofList (joinPieces (dropFillersEnd (rest.dropWhile isFiller)))⟩

/-- The order of components: by kind, names among themselves by their letters. -/
def rank : Component → List Nat
  | .root => [0]
  | .here => [1]
  | .up => [2]
  | .name text => 3 :: text.toList.map Char.toNat

def sortKey (p : Path) : List (List Nat) :=
  p.components.map rank

def compareTo (p q : Path) : Ordering :=
  compare p.sortKey q.sortKey

def sorted (paths : List Path) : List Path :=
  paths.mergeSort fun p q => (p.compareTo q).isLE

end Path

end DtoGen
